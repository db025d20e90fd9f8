import TransferRelay.DomainName.Composition
import TransferRelay.DomainName.JoiningTable

/-!
# Joiners

The two joiners of zero width show nothing themselves and may stand only where they change how
their neighbours are shown: both behind a virama, and the one that keeps letters apart also between
letters that would join.
-/

namespace TransferRelay.DomainName

open Text (CodeRange)

/-- How a letter joins to its neighbours. -/
inductive Joining
  | apart
  | left
  | right
  | both
  | transparent
deriving DecidableEq, Repr

/-- The characters of each way of joining. -/
def joiningRanges : List (Joining × List CodeRange) :=
  [ (.left, CodeRange.ofRows joinLeftRows),
    (.right, CodeRange.ofRows joinRightRows),
    (.both, CodeRange.ofRows joinBothRows),
    (.transparent, CodeRange.ofRows transparentRows) ]

/-- How a character joins to its neighbours. -/
def joining (c : Char) : Joining :=
  match joiningRanges.find? fun entry => CodeRange.covers entry.2 c with
  | some (j, _) => j
  | none => .apart

/-- The joiner that keeps letters apart. -/
def nonJoiner : Char := '\u200c'

/-- The joiner that joins. -/
def joiner : Char := '\u200d'

/-- Whether a character is a virama. -/
def isVirama (c : Char) : Bool :=
  combiningClass c = 9

/-- How the first character joins over which letters do not join. -/
def firstJoining? (cs : List Char) : Option Joining :=
  ((cs.map joining).dropWhile (· = .transparent)).head?

/-- Whether letters would join across a place. The text before it stands last first. -/
def wouldJoin (before after : List Char) : Bool :=
  (match firstJoining? before with
    | some j => j = .left || j = .both
    | none => false) &&
  match firstJoining? after with
  | some j => j = .right || j = .both
  | none => false

/-- Whether the joiners of a text stand where they may. The text before it stands last first. -/
def joinersFit (before : List Char) : List Char → Bool
  | [] => true
  | c :: cs =>
    let afterVirama :=
      match before with
      | [] => false
      | d :: _ => isVirama d
    let fits :=
      if c = joiner then afterVirama
      else if c = nonJoiner then afterVirama || wouldJoin before cs
      else true
    fits && joinersFit (c :: before) cs

end TransferRelay.DomainName
