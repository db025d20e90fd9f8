import TransferRelay.BigEndian
import TransferRelay.Text.Digit

/-!
# Amounts

An `Amount` is an unsigned integer of 256 bits. `Amount.ofText?` reads the numerals that clients
send: decimal digits, or digits of another radix after the mark `0x`, `0o` or `0b`.
-/

namespace TransferRelay

/-- An unsigned integer of 256 bits. -/
structure Amount where
  val : Nat
  val_lt : val < Nat.pow 2 256
deriving DecidableEq

namespace Amount

@[ext]
theorem ext {a b : Amount} (h : a.val = b.val) : a = b := by
  cases a; cases b; cases h; rfl

/-- A number as an amount, if it is small enough. -/
def ofNat? (n : Nat) : Option Amount :=
  if h : n < Nat.pow 2 256 then some ⟨n, h⟩ else none

/-- An amount in decimal digits. -/
def text (a : Amount) : String :=
  toString a.val

/-- An amount as a word of 32 bytes. -/
def word (a : Amount) : Bytes :=
  BigEndian.ofNat 32 a.val

/-- The number that digits of a radix denote behind digits of value `high`, if 256 bits hold it. An
underscore separates digits and means nothing. -/
def readDigits (radix : Nat) (high : Nat) : List Char → Option Nat
  | [] => some high
  | c :: cs =>
    if c = '_' then readDigits radix high cs
    else
      match Text.digitOf? radix c with
      | some d =>
        if high * radix + d < Nat.pow 2 256 then readDigits radix (high * radix + d) cs else none
      | none => none

/-- The radix that the mark of a numeral selects, and the digits behind the mark. -/
def splitRadix : List Char → Nat × List Char
  | '0' :: 'x' :: cs => (16, cs)
  | '0' :: 'X' :: cs => (16, cs)
  | '0' :: 'o' :: cs => (8, cs)
  | '0' :: 'O' :: cs => (8, cs)
  | '0' :: 'b' :: cs => (2, cs)
  | '0' :: 'B' :: cs => (2, cs)
  | cs => (10, cs)

/-- The number that a numeral denotes, if 256 bits hold it. -/
def numeral? (cs : List Char) : Option Nat :=
  let (radix, digits) := splitRadix cs
  readDigits radix 0 digits

/-- The amount that a numeral with blanks around it denotes. -/
def ofText? (s : String) : Option Amount :=
  (numeral? (Text.trimChars s.toList)).bind ofNat?

/-- The amount that plain decimal digits denote. -/
def ofDecimal? (s : String) : Option Amount :=
  if s.toList.isEmpty || !s.toList.all (Text.isDigitOf 10) then none
  else (readDigits 10 0 s.toList).bind ofNat?

theorem length_word (a : Amount) : a.word.length = 32 :=
  BigEndian.length_ofNat 32 a.val

theorem toNat_word (a : Amount) : BigEndian.toNat a.word = a.val :=
  BigEndian.toNat_ofNat a.val_lt

theorem ofNat?_eq_some_iff {n : Nat} {a : Amount} : ofNat? n = some a ↔ a.val = n := by
  unfold ofNat?
  split
  · simp only [Option.some.injEq]
    exact ⟨fun h => h ▸ rfl, fun h => Amount.ext h.symm⟩
  · rename_i h
    simp only [reduceCtorEq, false_iff]
    exact fun hval => h (hval ▸ a.val_lt)

end Amount

end TransferRelay
