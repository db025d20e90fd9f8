import TransferRelay.DomainName.MappingTable
import TransferRelay.Text.CodeRange

/-!
# The characters of domain names

A domain name can be written with more characters than it holds. `mapChar` gives the characters that
a written character stands for: a letter in either case is the letter in lowercase, a compatibility
form is what it is a form of, some characters are nothing at all, and some may not be written.
-/

namespace TransferRelay.DomainName

open Text (CodeRange)

/-- Characters at a regular distance and the characters that stand for the first of them. -/
structure Replacement where
  source : CodeRange
  step : Nat
  target : List Nat

namespace Replacement

/-- The replacement that a text writes. -/
def ofText? (cs : List Char) : Option Replacement :=
  match Text.splitOn '>' cs with
  | [source, target] => do
    let target ← (Text.splitOn ',' target).mapM Text.hexNat?
    match Text.splitOn '/' source with
    | [range] => return ⟨← CodeRange.ofText? range, 1, target⟩
    | [range, step] => return ⟨← CodeRange.ofText? range, ← Text.hexNat? step, target⟩
    | _ => none
  | _ => none

/-- The replacements that rows write. -/
def ofRows (rows : List String) : List Replacement :=
  rows.flatMap fun row => (Text.splitOn ' ' row.toList).filterMap ofText?

/-- The distance of a character from the first that is replaced, if it is replaced. -/
def distance? (r : Replacement) (c : Char) : Option Nat :=
  let distance := c.toNat - r.source.first
  if r.source.contains c && distance % r.step = 0 then some distance else none

/-- What stands for a character. -/
def imageOf? (r : Replacement) (c : Char) : Option (List Char) :=
  (r.distance? c).map fun distance => r.target.map fun n => Char.ofNat (n + distance)

end Replacement

/-- The characters beyond ASCII that stand for themselves. -/
def validRanges : List CodeRange :=
  CodeRange.ofRows validRows

/-- The characters that stand for nothing. -/
def ignoredRanges : List CodeRange :=
  CodeRange.ofRows ignoredRows

/-- The characters that stand for others. -/
def replacements : List Replacement :=
  Replacement.ofRows mappedRows ++ Replacement.ofRows mappedRowsAbove

/-- Whether a character stands for itself. -/
def isValid (c : Char) : Bool :=
  if c.toNat < 0x80 then !c.isUpper else CodeRange.covers validRanges c

/-- The characters that a character stands for. -/
def mapChar (c : Char) : Option (List Char) :=
  if isValid c then some [c]
  else if c.toNat < 0x80 then some [c.toLower]
  else if CodeRange.covers ignoredRanges c then some []
  else replacements.findSome? (·.imageOf? c)

/-- The characters that the characters of a text stand for. -/
def mapText (cs : List Char) : Option (List Char) :=
  (cs.mapM mapChar).map List.flatten

end TransferRelay.DomainName
