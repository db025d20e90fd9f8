import TransferRelay.DomainName.Direction
import TransferRelay.DomainName.Joining
import TransferRelay.DomainName.Mapping
import TransferRelay.DomainName.Punycode

/-!
# Domain names

`DomainName.labels?` reads a text as a domain name and gives its labels in the spelling that all
writings of the name share. A label may be empty. None of them may hold a character that the caller
excludes, begin with a mark, or misplace a joiner, and in a name with two directions each keeps to
one.
-/

namespace TransferRelay.DomainName

open Text (CodeRange)

/-- The marks. -/
def markRanges : List CodeRange :=
  CodeRange.ofRows markRows

/-- Whether a character is a mark. -/
def isMark (c : Char) : Bool :=
  0x300 ≤ c.toNat && CodeRange.covers markRanges c

/-- What a label begins with that is written in ASCII and is none. -/
def asciiPrefix : List Char := ['x', 'n', '-', '-']

/-- Whether all characters of a label are ASCII. -/
def isAscii (label : List Char) : Bool :=
  label.all fun c => c.toNat < 0x80

/-- The greatest length of a label in ASCII for another. -/
def maxEncoded : Nat := 2000

/-- The greatest length of a label that is not ASCII. -/
def maxPlain : Nat := 1000

/-- Whether a label is short enough to be written in ASCII. -/
def fitsLength (label : List Char) : Bool :=
  isAscii label || label.length ≤ maxPlain

/-- Whether the characters of a label stand where they may. -/
def isWellFormed (excluded : Char → Bool) (label : List Char) : Bool :=
  !label.any excluded && !(label.head?.any isMark) && joinersFit [] label

/-- The label that a label in ASCII is written for. It is in the shared spelling already. -/
def decodeLabel? (encoded : List Char) : Option (List Char) :=
  if encoded.length ≤ maxEncoded then
    (Punycode.decode? encoded).filter fun label =>
      !isAscii label && label.all isValid && compose label == label
  else none

/-- The label that a text in the shared spelling is or is written for. -/
def label? (excluded : Char → Bool) (text : List Char) : Option (List Char) :=
  let label :=
    if asciiPrefix.isPrefixOf text then
      if isAscii text then decodeLabel? (text.drop asciiPrefix.length) else none
    else some text
  label.filter fun label => fitsLength label && isWellFormed excluded label

/-- The labels of a domain name. -/
def labels? (excluded : Char → Bool) (text : List Char) : Option (List (List Char)) := do
  let mapped ← mapText text
  let labels ← (Text.splitOn '.' (compose mapped)).mapM (label? excluded)
  if labels.any isRightward && !labels.all keepsDirection then none else some labels

end TransferRelay.DomainName
