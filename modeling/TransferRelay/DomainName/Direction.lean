import TransferRelay.DomainName.DirectionTable
import TransferRelay.Text.CodeRange

/-!
# Direction

In a name with letters written from right to left every label has to keep to one direction, so that
it is shown as one piece: `keepsDirection` is the rule for a label.
-/

namespace TransferRelay.DomainName

open Text (CodeRange)

/-- A class of direction. -/
inductive Direction
  | left
  | right
  | arabicLetter
  | arabicNumber
  | europeanNumber
  | numberSeparator
  | commonSeparator
  | numberTerminator
  | neutral
  | boundary
  | nonspacing
  | blank
deriving DecidableEq, Repr

/-- The characters of each class but that of left-to-right letters. -/
def directionRanges : List (Direction × List CodeRange) :=
  [ (.right, CodeRange.ofRows rightRows),
    (.arabicLetter, CodeRange.ofRows arabicLetterRows),
    (.arabicNumber, CodeRange.ofRows arabicNumberRows),
    (.europeanNumber, CodeRange.ofRows europeanNumberRows),
    (.numberSeparator, CodeRange.ofRows numberSeparatorRows),
    (.commonSeparator, CodeRange.ofRows commonSeparatorRows),
    (.numberTerminator, CodeRange.ofRows numberTerminatorRows),
    (.neutral, CodeRange.ofRows neutralRows),
    (.boundary, CodeRange.ofRows boundaryRows),
    (.nonspacing, CodeRange.ofRows nonspacingRows),
    (.blank, CodeRange.ofRows blankRows) ]

/-- The class of a character. -/
def direction (c : Char) : Direction :=
  match directionRanges.find? fun entry => CodeRange.covers entry.2 c with
  | some (d, _) => d
  | none => .left

namespace Direction

/-- Whether a class makes a name one with two directions. -/
def isRightward : Direction → Bool
  | .right | .arabicLetter | .arabicNumber => true
  | _ => false

/-- The classes that go with letters of both directions. -/
def isShared : Direction → Bool
  | .europeanNumber | .numberSeparator | .commonSeparator | .numberTerminator | .neutral | .boundary
  | .nonspacing => true
  | _ => false

/-- Whether classes may stand in a label from left to right. -/
def keepLeft (ds : List Direction) : Bool :=
  ds.all fun d => d = .left || d.isShared

/-- Whether classes may stand in a label from right to left. The two kinds of numbers do not mix. -/
def keepRight (ds : List Direction) : Bool :=
  (ds.all fun d => d.isRightward || d.isShared) &&
    !(ds.contains .arabicNumber && ds.contains .europeanNumber)

/-- The last class in front of the marks at the end. -/
def lastSpacing? (ds : List Direction) : Option Direction :=
  (ds.reverse.dropWhile (· = .nonspacing)).head?

end Direction

/-- Whether a label keeps to the direction of its first letter. -/
def keepsDirection (label : List Char) : Bool :=
  match label.map direction with
  | [] => true
  | .left :: ds =>
    Direction.keepLeft ds &&
      match Direction.lastSpacing? ds with
      | none => true
      | some last => last = .left || last = .europeanNumber
  | first :: ds =>
    (first = .right || first = .arabicLetter) && Direction.keepRight ds &&
      match Direction.lastSpacing? ds with
      | none => true
      | some last => last.isRightward || last = .europeanNumber

/-- Whether a label makes a name one with two directions. -/
def isRightward (label : List Char) : Bool :=
  label.any fun c => (direction c).isRightward

end TransferRelay.DomainName
