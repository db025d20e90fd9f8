import TransferRelay.Crypto.Keccak
import TransferRelay.Hex

/-!
# Addresses

An `Address` is 20 bytes. It is read from 40 hexadecimal digits after an optional mark, and written
in lowercase digits (`text`) or with the checksum of EIP-55 in the case of its letters
(`checksummed`).
-/

namespace TransferRelay

/-- An account or contract address. -/
structure Address where
  bytes : Bytes
  length_bytes : bytes.length = 20
deriving DecidableEq

/-- What is wrong with the text of a fixed number of bytes. -/
inductive FixedHexFault
  /-- The number of digits is odd. -/
  | oddLength
  /-- The number of digits is not that of the bytes wanted. -/
  | wrongLength
  /-- A byte of the text is no digit. -/
  | invalidDigit (byte : UInt8) (position : Nat)
deriving DecidableEq, Repr

/-- The wording of a fault. -/
def FixedHexFault.message : FixedHexFault → String
  | .oddLength => "odd number of digits"
  | .wrongLength => "invalid string length"
  | .invalidDigit byte position =>
    "invalid character " ++ Text.quoteChar (Char.ofNat byte.toNat) ++ " at position " ++
      toString position

/-- Reads exactly `count` bytes from digits after an optional mark `0x` or `0X`. -/
def readFixedHex (count : Nat) (s : String) :
    Except FixedHexFault { bs : Bytes // bs.length = count } :=
  let digits := Text.utf8Chars (Hex.stripAnyMark s.toList)
  match Hex.decodeUtf8 digits with
  | .error .oddLength => .error .oddLength
  | .error (.invalidDigit byte position) =>
    if digits.length = 2 * count then .error (.invalidDigit byte position) else .error .wrongLength
  | .ok bs => if h : bs.length = count then .ok ⟨bs, h⟩ else .error .wrongLength

namespace Address

@[ext]
theorem ext {a b : Address} (h : a.bytes = b.bytes) : a = b := by
  cases a; cases b; cases h; rfl

/-- Reads an address. -/
def parse (s : String) : Except FixedHexFault Address :=
  match readFixedHex 20 s with
  | .error e => .error e
  | .ok ⟨bs, h⟩ => .ok ⟨bs, h⟩

/-- An address in lowercase digits. -/
def text (a : Address) : String :=
  Hex.encodeMarked a.bytes

/-- A digit in the case that a nibble of the hash asks for. -/
def checksumDigit (c : Char) (nibble : Nat) : Char :=
  if 8 ≤ nibble then c.toUpper else c

/-- The nibbles of a byte string, high half first. -/
def nibbles (bs : Bytes) : List Nat :=
  bs.flatMap fun b => [b.toNat / 16, b.toNat % 16]

/-- An address with the checksum in the case of its letters. -/
def checksummed (a : Address) : String :=
  let digits := Hex.encodeChars a.bytes
  let hash := nibbles (Keccak.hash (Text.utf8Chars digits))
  String.ofList ('0' :: 'x' :: digits.zipWith checksumDigit hash)

/-- An address as a word of 32 bytes. -/
def word (a : Address) : Bytes :=
  List.replicate 12 0 ++ a.bytes

theorem length_word (a : Address) : a.word.length = 32 := by
  rw [word, List.length_append, List.length_replicate, a.length_bytes]

/-- The address of a public key: the end of its hash. -/
def ofPublicKey (key : Bytes) : Option Address :=
  let bs := (Keccak.hash key).drop 12
  if h : bs.length = 20 then some ⟨bs, h⟩ else none

end Address

end TransferRelay
