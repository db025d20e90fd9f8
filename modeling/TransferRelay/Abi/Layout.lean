import TransferRelay.BigEndian

/-!
# The layout of contract data

Contract data is a sequence of words of 32 bytes. A value of fixed size is one word; a value of
variable size stands behind the fixed part, which holds its offset.

* `word` is a number as one word.
* `dynamicBytes` is a byte string: its length, then the bytes filled up with zeros.
* `dynamicArray` is an array of values of variable size: its length, the offset of each value,
  counted from behind the length, then the values in order.
-/

namespace TransferRelay.Abi

/-- A number as one word. -/
def word (n : Nat) : Bytes :=
  BigEndian.ofNat 32 n

/-- The number of zeros that fill a byte string up to whole words. -/
def fill (length : Nat) : Nat :=
  (32 - length % 32) % 32

/-- A byte string filled up with zeros to whole words. -/
def padRight (bs : Bytes) : Bytes :=
  bs ++ List.replicate (fill bs.length) 0

/-- A byte string behind its length. -/
def dynamicBytes (bs : Bytes) : Bytes :=
  word bs.length ++ padRight bs

/-- The offset words of bodies of which the first stands at `start`. -/
def offsets (start : Nat) : List Bytes → Bytes
  | [] => []
  | body :: bodies => word start ++ offsets (start + body.length) bodies

/-- Bodies of variable size behind their number and their offsets. -/
def dynamicArray (bodies : List Bytes) : Bytes :=
  word bodies.length ++ offsets (32 * bodies.length) bodies ++ bodies.flatten

@[simp]
theorem length_word (n : Nat) : (word n).length = 32 :=
  BigEndian.length_ofNat 32 n

@[simp]
theorem length_padRight (bs : Bytes) : (padRight bs).length = bs.length + fill bs.length := by
  simp [padRight]

/-- Filled bytes are whole words. -/
theorem dvd_length_padRight (bs : Bytes) : 32 ∣ (padRight bs).length := by
  rw [length_padRight, fill]
  omega

theorem length_offsets (start : Nat) (bodies : List Bytes) :
    (offsets start bodies).length = 32 * bodies.length := by
  induction bodies generalizing start with
  | nil => rfl
  | cons body bodies ih => simp [offsets, ih]; omega

end TransferRelay.Abi
