import TransferRelay.Text.Blank

/-!
# Keccak-256

The hash behind addresses: the Keccak permutation on 25 lanes of 64 bits, and a sponge that absorbs
136 bytes a block and yields 32. `Keccak.hash` is the whole function.
-/

namespace TransferRelay.Keccak

/-- The 25 lanes, lane `(x, y)` at index `x + 5 * y`. -/
abbrev State := Vector UInt64 25

/-- The lane at coordinates taken modulo five. -/
def lane (s : State) (x y : Nat) : UInt64 :=
  s.get ⟨x % 5 + 5 * (y % 5), by omega⟩

/-- The state whose lane `(x, y)` is `f x y`. -/
def ofLanes (f : Nat → Nat → UInt64) : State :=
  Vector.ofFn fun i => f (i.val % 5) (i.val / 5)

/-- Rotation to the left by fewer than 64 bits. -/
def rotate (w : UInt64) (n : UInt64) : UInt64 :=
  (w <<< n) ||| (w >>> (64 - n))

/-- The rotation of each lane, in the order of the lanes. -/
def offsets : Vector UInt64 25 :=
  #v[0, 1, 62, 28, 27, 36, 44, 6, 55, 20, 3, 10, 43, 25, 39, 41, 45, 15, 21, 8, 18, 2, 61, 56, 14]

/-- The constant of each round. -/
def roundConstants : List UInt64 :=
  [ 0x0000000000000001, 0x0000000000008082, 0x800000000000808a, 0x8000000080008000,
    0x000000000000808b, 0x0000000080000001, 0x8000000080008081, 0x8000000000008009,
    0x000000000000008a, 0x0000000000000088, 0x0000000080008009, 0x000000008000000a,
    0x000000008000808b, 0x800000000000008b, 0x8000000000008089, 0x8000000000008003,
    0x8000000000008002, 0x8000000000000080, 0x000000000000800a, 0x800000008000000a,
    0x8000000080008081, 0x8000000000008080, 0x0000000080000001, 0x8000000080008008 ]

/-- Step θ: every lane takes in the parity of two columns. -/
def theta (s : State) : State :=
  let parity : Vector UInt64 5 := Vector.ofFn fun x =>
    lane s x.val 0 ^^^ lane s x.val 1 ^^^ lane s x.val 2 ^^^ lane s x.val 3 ^^^ lane s x.val 4
  let column (x : Nat) : UInt64 := parity.get ⟨x % 5, by omega⟩
  ofLanes fun x y => lane s x y ^^^ (column (x + 4) ^^^ rotate (column (x + 1)) 1)

/-- Steps ρ and π: every lane is rotated and moved. -/
def rhoPi (s : State) : State :=
  ofLanes fun x y => rotate (lane s (x + 3 * y) x) (lane offsets (x + 3 * y) x)

/-- Step χ: every lane takes in the next two of its row. -/
def chi (s : State) : State :=
  ofLanes fun x y => lane s x y ^^^ (~~~(lane s (x + 1) y) &&& lane s (x + 2) y)

/-- One round. -/
def round (s : State) (constant : UInt64) : State :=
  let s := chi (rhoPi (theta s))
  s.set 0 (s[0] ^^^ constant)

/-- The permutation. -/
def permute (s : State) : State :=
  roundConstants.foldl round s

/-- The number of bytes absorbed at a time. -/
def rate : Nat := 136

/-- Up to eight bytes as a lane, least significant byte first. -/
def laneOfBytes (bs : Bytes) : UInt64 :=
  bs.reverse.foldl (fun w b => (w <<< 8) ||| b.toUInt64) 0

/-- The eight bytes of a lane. -/
def bytesOfLane (w : UInt64) : Bytes :=
  (List.range 8).map fun i => (w >>> (UInt64.ofNat (8 * i))).toUInt8

/-- Takes in one block. -/
def absorbBlock (s : State) (block : Bytes) : State :=
  permute (Vector.ofFn fun i => s[i] ^^^ laneOfBytes ((block.drop (8 * i.val)).take 8))

/-- Takes in all whole blocks. -/
def absorb (s : State) (bs : Bytes) : State :=
  if bs.length < rate then s
  else absorb (absorbBlock s (bs.take rate)) (bs.drop rate)
termination_by bs.length
decreasing_by
  simp only [rate, List.length_drop] at *
  omega

/-- The padding behind a message of a length. -/
def padding (length : Nat) : Bytes :=
  let free := rate - length % rate
  if free = 1 then [0x81] else 0x01 :: List.replicate (free - 2) 0 ++ [0x80]

/-- The 32-byte hash of a message. -/
def hash (message : Bytes) : Bytes :=
  let s := absorb (Vector.replicate 25 0) (message ++ padding message.length)
  (s.toList.flatMap bytesOfLane).take 32

end TransferRelay.Keccak
