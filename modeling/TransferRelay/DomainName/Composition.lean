import TransferRelay.DomainName.CompositionTable
import TransferRelay.Text.CodeRange

/-!
# Composed text

A letter with marks can be written as one character or as several, and marks of different classes in
any order. `compose` chooses one spelling: the marks in the order of their classes, and as few
characters as there are composites for. It is the canonical composition of text whose characters are
those of domain names, of which each composite is made of two parts that compose to it.
-/

namespace TransferRelay.DomainName

open Text (CodeRange)

/-! ## Classes of marks -/

/-- The marks of each combining class. -/
def combiningRanges : List (Nat × List CodeRange) :=
  combiningRows.map fun (k, rows) => (k, CodeRange.ofRows rows)

/-- The combining class of a character, zero if it is no mark that can move. -/
def combiningClass (c : Char) : Nat :=
  if c.toNat < 0x300 then 0
  else
    match combiningRanges.find? fun entry => CodeRange.covers entry.2 c with
    | some (k, _) => k
    | none => 0

/-! ## Composites -/

/-- A character that is made of two parts. -/
structure Composite where
  whole : Nat
  first : Nat
  second : Nat

namespace Composite

/-- The composite that a text writes. -/
def ofText? (cs : List Char) : Option Composite :=
  match Text.splitOn '=' cs with
  | [whole, parts] =>
    match Text.splitOn ',' parts with
    | [first, second] =>
      do return ⟨← Text.hexNat? whole, ← Text.hexNat? first, ← Text.hexNat? second⟩
    | _ => none
  | _ => none

/-- The composites of domain names. -/
def all : List Composite :=
  compositeRows.flatMap fun row => (Text.splitOn ' ' row.toList).filterMap ofText?

end Composite

/-! ## Syllables of Hangul -/

namespace Hangul

/-- The first syllable. -/
def syllableBase : Nat := 0xAC00

/-- The first initial consonant. -/
def initialBase : Nat := 0x1100

/-- The first vowel. -/
def vowelBase : Nat := 0x1161

/-- The place in front of the first final consonant. -/
def finalBase : Nat := 0x11A7

/-- The number of initial consonants. -/
def initials : Nat := 19

/-- The number of vowels. -/
def vowels : Nat := 21

/-- The number of final consonants, one more for a syllable without. -/
def finals : Nat := 28

/-- The two parts of a syllable: its final consonant and the rest, or else its vowel and its initial
consonant. -/
def parts? (n : Nat) : Option (Nat × Nat) :=
  if syllableBase ≤ n && n < syllableBase + initials * vowels * finals then
    let i := n - syllableBase
    if i % finals = 0 then
      some (initialBase + i / (vowels * finals), vowelBase + i % (vowels * finals) / finals)
    else some (n - i % finals, finalBase + i % finals)
  else none

/-- The syllable of two parts. -/
def whole? (a b : Nat) : Option Nat :=
  if initialBase ≤ a && a < initialBase + initials && vowelBase ≤ b && b < vowelBase + vowels then
    some (syllableBase + ((a - initialBase) * vowels + (b - vowelBase)) * finals)
  else if syllableBase ≤ a && a < syllableBase + initials * vowels * finals &&
      (a - syllableBase) % finals = 0 && finalBase < b && b < finalBase + finals then
    some (a + (b - finalBase))
  else none

end Hangul

/-- The two parts of a character. -/
def parts? (c : Char) : Option (Char × Char) :=
  match Hangul.parts? c.toNat with
  | some (a, b) => some (Char.ofNat a, Char.ofNat b)
  | none =>
    (Composite.all.find? fun p => p.whole = c.toNat).map fun p =>
      (Char.ofNat p.first, Char.ofNat p.second)

/-- The character of two parts. -/
def whole? (a b : Char) : Option Char :=
  match Hangul.whole? a.toNat b.toNat with
  | some n => some (Char.ofNat n)
  | none =>
    (Composite.all.find? fun p => p.first = a.toNat && p.second = b.toNat).map fun p =>
      Char.ofNat p.whole

/-! ## Spellings -/

/-- The parts of a character, taken apart at most so often. -/
def decomposeWithin : Nat → Char → List Char
  | 0, c => [c]
  | n + 1, c =>
    match parts? c with
    | some (a, b) => decomposeWithin n a ++ [b]
    | none => [c]

/-- The parts of a character that are no composites. No character has more than four. -/
def decompose (c : Char) : List Char :=
  decomposeWithin 3 c

/-- Puts a mark behind the marks of lower classes that follow it. -/
def insertMark (c : Char) : List Char → List Char
  | [] => [c]
  | d :: ds =>
    if combiningClass d ≠ 0 && combiningClass d < combiningClass c then d :: insertMark c ds
    else c :: d :: ds

/-- A text with each run of marks in the order of their classes. -/
def orderMarks : List Char → List Char
  | [] => []
  | c :: cs => insertMark c (orderMarks cs)

/-- Joins each mark to the last character that no mark has moved over, where there is a composite.
The marks passed over stand last first. A mark is passed over for good by one of its own class. -/
def joinMarks (base : Char) (passed : List Char) : List Char → List Char
  | [] => base :: passed.reverse
  | c :: cs =>
    let blocked :=
      match passed with
      | [] => false
      | d :: _ => combiningClass c ≤ combiningClass d
    match if blocked then none else whole? base c with
    | some whole => joinMarks whole passed cs
    | none =>
      if combiningClass c = 0 then base :: passed.reverse ++ joinMarks c [] cs
      else joinMarks base (c :: passed) cs

/-- Joins the marks of a text that are behind its first character that is no mark. -/
def joinAll : List Char → List Char
  | [] => []
  | c :: cs => if combiningClass c = 0 then joinMarks c [] cs else c :: joinAll cs

/-- The spelling of a text that is chosen. -/
def compose (cs : List Char) : List Char :=
  joinAll (orderMarks (cs.flatMap decompose))

end TransferRelay.DomainName
