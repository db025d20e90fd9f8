import TransferRelay.Text.Blank
import TransferRelay.Text.Digit
import TransferRelay.Text.Quoted

/-!
# Hexadecimal text

* `Hex.encode` writes bytes as lowercase digits, two a byte.
* `Hex.decode` reads digits of either case back, judging the bytes of the text: an odd count is
  reported first, then the first byte that is no digit.

`decode_encodeChars` says that reading undoes writing.
-/

namespace TransferRelay.Hex

/-- What is wrong with a hexadecimal text. -/
inductive Fault
  /-- The number of digits is odd. -/
  | oddLength
  /-- A byte of the text is no digit. -/
  | invalidDigit (byte : UInt8) (position : Nat)
deriving DecidableEq, Repr

/-- The wording of a fault. A byte is shown as the character of the same number. -/
def Fault.message : Fault → String
  | .oddLength => "Odd number of digits"
  | .invalidDigit byte position =>
    "Invalid character " ++ Text.quoteChar (Char.ofNat byte.toNat) ++ " at position " ++
      toString position

/-! ## Writing -/

/-- The two digits of a byte. -/
def bytePair (b : UInt8) : List Char :=
  [Text.digitChar (b.toNat / 16), Text.digitChar (b.toNat % 16)]

/-- Bytes as lowercase digits. -/
def encodeChars (bs : Bytes) : List Char :=
  bs.flatMap bytePair

/-- Bytes as a text of lowercase digits. -/
def encode (bs : Bytes) : String :=
  String.ofList (encodeChars bs)

/-- Bytes as a text of lowercase digits after the mark `0x`. -/
def encodeMarked (bs : Bytes) : String :=
  String.ofList ('0' :: 'x' :: encodeChars bs)

/-! ## Reading -/

/-- The value of a digit, given as a byte of text. -/
def digit? (b : UInt8) : Option Nat :=
  let n := b.toNat
  if 48 ≤ n && n ≤ 57 then some (n - 48)
  else if 97 ≤ n && n ≤ 102 then some (n - 87)
  else if 65 ≤ n && n ≤ 70 then some (n - 55)
  else none

/-- The value of the digit at a position, or the fault of that position. -/
def digitAt (b : UInt8) (position : Nat) : Except Fault Nat :=
  match digit? b with
  | some n => .ok n
  | none => .error (.invalidDigit b position)

/-- Reads pairs of digits from `position` on, behind the bytes already read (last first). -/
def readPairs (position : Nat) (done : Bytes) : Bytes → Except Fault Bytes
  | high :: low :: rest =>
    match digitAt high position with
    | .error e => .error e
    | .ok h =>
      match digitAt low (position + 1) with
      | .error e => .error e
      | .ok l => readPairs (position + 2) (UInt8.ofNat (h * 16 + l) :: done) rest
  | _ => .ok done.reverse

/-- Reads the bytes of a hexadecimal text. -/
def decodeUtf8 (text : Bytes) : Except Fault Bytes :=
  if text.length % 2 = 1 then .error .oddLength else readPairs 0 [] text

/-- Reads a hexadecimal text. -/
def decode (text : List Char) : Except Fault Bytes :=
  decodeUtf8 (Text.utf8Chars text)

/-- A text without one leading mark `0x`. -/
def stripMark : List Char → List Char
  | '0' :: 'x' :: rest => rest
  | cs => cs

/-- A text without one leading mark `0x` or `0X`. -/
def stripAnyMark : List Char → List Char
  | '0' :: 'x' :: rest => rest
  | '0' :: 'X' :: rest => rest
  | cs => cs

/-! ## Reading undoes writing -/

theorem utf8EncodeChar_digitChar {n : Nat} (h : n < 16) :
    String.utf8EncodeChar (Text.digitChar n) = [UInt8.ofNat (Text.digitChar n).toNat] := by
  have hall : ∀ m : Fin 16, String.utf8EncodeChar (Text.digitChar m) =
      [UInt8.ofNat (Text.digitChar m).toNat] := by decide
  exact hall ⟨n, h⟩

theorem digit?_digitChar {n : Nat} (h : n < 16) :
    digit? (UInt8.ofNat (Text.digitChar n).toNat) = some n := by
  have hall : ∀ m : Fin 16, digit? (UInt8.ofNat (Text.digitChar m).toNat) = some m.val := by decide
  exact hall ⟨n, h⟩

theorem div_sixteen_lt (b : UInt8) : b.toNat / 16 < 16 := by
  have := b.toNat_lt
  omega

theorem mod_sixteen_lt (b : UInt8) : b.toNat % 16 < 16 := Nat.mod_lt _ (by decide)

theorem utf8Chars_bytePair (b : UInt8) :
    Text.utf8Chars (bytePair b) =
      [UInt8.ofNat (Text.digitChar (b.toNat / 16)).toNat,
        UInt8.ofNat (Text.digitChar (b.toNat % 16)).toNat] := by
  simp [Text.utf8Chars, bytePair, utf8EncodeChar_digitChar (div_sixteen_lt b),
    utf8EncodeChar_digitChar (mod_sixteen_lt b)]

theorem utf8Chars_encodeChars_cons (b : UInt8) (bs : Bytes) :
    Text.utf8Chars (encodeChars (b :: bs)) =
      UInt8.ofNat (Text.digitChar (b.toNat / 16)).toNat ::
        UInt8.ofNat (Text.digitChar (b.toNat % 16)).toNat :: Text.utf8Chars (encodeChars bs) := by
  have h := utf8Chars_bytePair b
  simp only [Text.utf8Chars, encodeChars, List.flatMap_cons, List.flatMap_append] at h ⊢
  simp [h]

theorem length_utf8Chars_encodeChars (bs : Bytes) :
    (Text.utf8Chars (encodeChars bs)).length = 2 * bs.length := by
  induction bs with
  | nil => rfl
  | cons b bs ih => rw [utf8Chars_encodeChars_cons, List.length_cons, List.length_cons, ih,
      List.length_cons]; omega

theorem readPairs_encodeChars (bs : Bytes) (position : Nat) (done : Bytes) :
    readPairs position done (Text.utf8Chars (encodeChars bs)) = .ok (done.reverse ++ bs) := by
  induction bs generalizing position done with
  | nil => simp [encodeChars, Text.utf8Chars, readPairs]
  | cons b bs ih =>
    have hb : b.toNat / 16 * 16 + b.toNat % 16 = b.toNat := Nat.div_add_mod' b.toNat 16
    rw [utf8Chars_encodeChars_cons]
    simp only [readPairs, digitAt, digit?_digitChar (div_sixteen_lt b),
      digit?_digitChar (mod_sixteen_lt b), hb, UInt8.ofNat_toNat]
    rw [ih, List.reverse_cons, List.append_assoc, List.singleton_append]

/-- Reading the digits of a byte string gives that byte string back. -/
theorem decode_encodeChars (bs : Bytes) : decode (encodeChars bs) = .ok bs := by
  have hlen : 2 * bs.length % 2 ≠ 1 := by omega
  rw [decode, decodeUtf8, length_utf8Chars_encodeChars, if_neg hlen, readPairs_encodeChars]
  rfl

end TransferRelay.Hex
