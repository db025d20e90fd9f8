import TransferRelay.Text.Digit

/-!
# Numerals of JSON

A `Numeral` has the parts of a number as they are written. `Numeral.push` reads one character more:
the numeral goes on, or has ended, or is none.

Exponents beyond `Numeral.maxExponent` are all one. They make a number too large, unless all digits
of the numeral are zero or the exponent is negative.
-/

namespace TransferRelay.Json

/-- The parts of a numeral as written. Absent digits are empty. -/
structure Numeral where
  negative : Bool
  integer : List Nat
  fraction : List Nat
  exponentNegative : Bool
  exponent : Option Nat
deriving DecidableEq, Repr

/-- How far a numeral has been read. -/
inductive Stage
  /-- Behind the sign. -/
  | sign
  /-- Behind a leading zero, which no digit follows. -/
  | zero
  /-- Among the digits before the point. -/
  | integer
  /-- Behind the point. -/
  | point
  /-- Among the digits behind the point. -/
  | fraction
  /-- Behind the exponent mark. -/
  | mark
  /-- Behind the sign of the exponent. -/
  | exponentSign
  /-- Among the digits of the exponent. -/
  | exponent
deriving DecidableEq, Repr

/-- Whether a numeral may end here. -/
def Stage.complete : Stage → Bool
  | .zero | .integer | .fraction | .exponent => true
  | _ => false

namespace Numeral

/-- What a character is behind a numeral. -/
inductive Next
  /-- A part of it. -/
  | more (stage : Stage) (numeral : Numeral)
  /-- None of it: the numeral ended in front. -/
  | ended
  /-- A digit that makes the number too large. -/
  | tooLarge
  /-- A character that cannot stand there. -/
  | broken

/-- A numeral of which nothing but the sign is known. -/
def start (negative : Bool) : Numeral :=
  ⟨negative, [], [], false, none⟩

/-- The digits in the order of the text, where they stand last first. -/
def inOrder (n : Numeral) : Numeral :=
  { n with integer := n.integer.reverse, fraction := n.fraction.reverse }

/-- Whether all digits are zero. -/
def isZero (n : Numeral) : Bool :=
  n.integer.all (· = 0) && n.fraction.all (· = 0)

/-- The greatest exponent that is told from those beyond it. -/
def maxExponent : Nat := 0x7fffffff

/-- One more digit of the exponent. -/
def pushExponent (n : Numeral) (d : Nat) : Next :=
  let high := n.exponent.getD 0
  if high * 10 + d ≤ maxExponent then .more .exponent { n with exponent := some (high * 10 + d) }
  else if n.exponentNegative || maxExponent < high || n.isZero then
    .more .exponent { n with exponent := some (maxExponent + 1) }
  else .tooLarge

/-- A character behind digits that may be followed by an exponent mark. -/
def behindDigits (n : Numeral) (c : Char) : Next :=
  if c = 'e' || c = 'E' then .more .mark n else .ended

/-- Reads one character. The digits before it stand last first. -/
def push (n : Numeral) (stage : Stage) (c : Char) : Next :=
  match stage, Text.digitOf? 10 c with
  | .sign, some 0 => .more .zero { n with integer := [0] }
  | .sign, some d => .more .integer { n with integer := [d] }
  | .sign, none => .broken
  | .zero, some _ => .broken
  | .zero, none => if c = '.' then .more .point n else n.behindDigits c
  | .integer, some d => .more .integer { n with integer := d :: n.integer }
  | .integer, none => if c = '.' then .more .point n else n.behindDigits c
  | .point, some d => .more .fraction { n with fraction := [d] }
  | .point, none => .broken
  | .fraction, some d => .more .fraction { n with fraction := d :: n.fraction }
  | .fraction, none => n.behindDigits c
  | .mark, some d => n.pushExponent d
  | .mark, none =>
    if c = '+' then .more .exponentSign n
    else if c = '-' then .more .exponentSign { n with exponentNegative := true }
    else .broken
  | .exponentSign, some d => n.pushExponent d
  | .exponentSign, none => .broken
  | .exponent, some d => n.pushExponent d
  | .exponent, none => .ended

end Numeral

end TransferRelay.Json
