import TransferRelay.Abi.Layout
import TransferRelay.Hex

/-!
# Reading contract data

Reads of words, offsets and byte strings at a position of a buffer. An offset is refused when its
value does not fit eight bytes, and any read when it passes the end of the buffer.
-/

namespace TransferRelay.Abi

/-- Why contract data is refused. -/
inductive Fault
  /-- An offset or a length does not fit eight bytes. -/
  | wideOffset (word : Bytes)
  /-- A read passes the end. -/
  | overrun
  /-- The array could never be held: its size in memory is no signed 64-bit number. -/
  | tooManyEntries
  /-- The array does not fit the memory there is. -/
  | outOfMemory
  /-- The values, written again, are not the data. -/
  | notCanonical
  /-- An address of a list of entries does not fit 20 bytes. -/
  | wideAddress (raw : Bytes)
deriving DecidableEq, Repr

/-- The wording of a failed type check. -/
def typeCheckMessage (type : String) (data : Bytes) : String :=
  "type check failed for " ++ Text.quote type ++ " with data: " ++ Hex.encode data

/-- The wording of a fault. -/
def Fault.message : Fault → String
  | .wideOffset word => typeCheckMessage "offset (usize)" word
  | .overrun => "ABI decoding failed: buffer overrun while deserializing"
  | .tooManyEntries =>
    "memory allocation failed because the computed capacity exceeded the collection's maximum"
  | .outOfMemory => "memory allocation failed because the memory allocator returned an error"
  | .notCanonical => "ABI decoding failed: reserialization did not match original"
  | .wideAddress raw => typeCheckMessage "RechargeData[]" raw

/-- Contract data being read. -/
abbrev Buffer := Array UInt8

/-- A part of a buffer. -/
structure Region where
  start : Nat
  length : Nat
deriving DecidableEq, Repr

namespace Buffer

/-- The region from a position on. -/
def region (buf : Buffer) (position length : Nat) : Except Fault Region :=
  if position + length ≤ buf.size then .ok ⟨position, length⟩ else .error .overrun

/-- The bytes of a region. -/
def bytes (buf : Buffer) (r : Region) : Bytes :=
  (buf.extract r.start (r.start + r.length)).toList

/-- The bytes from a position on. -/
def slice (buf : Buffer) (position length : Nat) : Except Fault Bytes :=
  (buf.region position length).map buf.bytes

/-- The word at a position. -/
def wordAt (buf : Buffer) (position : Nat) : Except Fault Bytes :=
  buf.slice position 32

/-- The offset or length at a position. -/
def offsetAt (buf : Buffer) (position : Nat) : Except Fault Nat :=
  match buf.wordAt position with
  | .error e => .error e
  | .ok w =>
    if (w.take 24).all (· == 0) then .ok (BigEndian.toNat w) else .error (.wideOffset w)

/-- The position that the offset at `position` points to, counted from `base`. -/
def targetAt (buf : Buffer) (base position : Nat) : Except Fault Nat :=
  match buf.offsetAt position with
  | .error e => .error e
  | .ok offset => if base + offset ≤ buf.size then .ok (base + offset) else .error .overrun

/-- Where the byte string behind its length at a position stands. -/
def regionAt (buf : Buffer) (position : Nat) : Except Fault Region :=
  match buf.offsetAt position with
  | .error e => .error e
  | .ok length => buf.region (position + 32) length

/-- The byte string behind its length at a position. -/
def bytesAt (buf : Buffer) (position : Nat) : Except Fault Bytes :=
  (buf.regionAt position).map buf.bytes

theorem bytes_toArray (raw : Bytes) (r : Region) :
    Buffer.bytes raw.toArray r = (raw.drop r.start).take r.length := by
  simp only [bytes, List.extract_toArray, List.extract_eq_take_drop, Nat.add_sub_cancel_left]

theorem slice_toArray (raw : Bytes) (position length : Nat) :
    Buffer.slice raw.toArray position length =
      if position + length ≤ raw.length then .ok ((raw.drop position).take length)
      else .error .overrun := by
  simp only [slice, region, List.size_toArray]
  split
  · exact congrArg Except.ok (bytes_toArray raw ⟨position, length⟩)
  · rfl

end Buffer

end TransferRelay.Abi
