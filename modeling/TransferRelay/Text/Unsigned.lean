import TransferRelay.Text.Digit

/-!
# Unsigned numerals

`Text.readUnsigned` reads decimal digits, after a plus sign or none, as a number below a limit. The
text is judged from left to right: of a digit too many and a character that is no digit, the first
in the text is reported.
-/

namespace TransferRelay.Text

/-- Why a text is no number below the limit. -/
inductive UnsignedFault
  | empty
  | invalidDigit
  | tooLarge
deriving DecidableEq, Repr

/-- The wording of a fault. -/
def UnsignedFault.message : UnsignedFault → String
  | .empty => "cannot parse integer from empty string"
  | .invalidDigit => "invalid digit found in string"
  | .tooLarge => "number too large to fit in target type"

/-- Reads digits behind digits of value `high`. -/
def readUnsignedDigits (limit : Nat) (high : Nat) : List Char → Except UnsignedFault Nat
  | [] => .ok high
  | c :: cs =>
    match digitOf? 10 c with
    | none => .error .invalidDigit
    | some d =>
      if high * 10 + d < limit then readUnsignedDigits limit (high * 10 + d) cs
      else .error .tooLarge

/-- Reads a number below a limit. -/
def readUnsigned (limit : Nat) : List Char → Except UnsignedFault Nat
  | [] => .error .empty
  | '+' :: [] => .error .invalidDigit
  | '+' :: cs => readUnsignedDigits limit 0 cs
  | cs => readUnsignedDigits limit 0 cs

end TransferRelay.Text
