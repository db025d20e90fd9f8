import TransferRelay.Text.Digit
import TransferRelay.Text.Split

/-!
# Ranges of characters

A property of characters is a list of ranges of code points. Long lists are written in rows: numbers
in hexadecimal with spaces between them, and a range as its first and its last number with a hyphen.
-/

namespace TransferRelay.Text

/-- The code points from a first to a last. -/
structure CodeRange where
  first : Nat
  last : Nat
deriving DecidableEq, Repr

/-- The number that hexadecimal digits write. -/
def hexNat? (cs : List Char) : Option Nat :=
  match cs with
  | [] => none
  | cs => (cs.mapM (digitOf? 16)).map (ofDigits 16)

namespace CodeRange

/-- The range that a text writes. -/
def ofText? (cs : List Char) : Option CodeRange :=
  match splitOn '-' cs with
  | [only] => (hexNat? only).map fun n => ⟨n, n⟩
  | [first, last] => do return ⟨← hexNat? first, ← hexNat? last⟩
  | _ => none

/-- The ranges that rows write. -/
def ofRows (rows : List String) : List CodeRange :=
  rows.flatMap fun row => (splitOn ' ' row.toList).filterMap ofText?

/-- Whether a character is in a range. -/
def contains (r : CodeRange) (c : Char) : Bool :=
  r.first ≤ c.toNat && c.toNat ≤ r.last

/-- Whether a character is in one of the ranges. -/
def covers (rs : List CodeRange) (c : Char) : Bool :=
  rs.any (·.contains c)

end CodeRange

end TransferRelay.Text
