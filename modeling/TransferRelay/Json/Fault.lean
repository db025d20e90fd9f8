import TransferRelay.Json.Value
import TransferRelay.Text.Quoted

/-!
# Faults of JSON texts

A text that is no JSON has a `Json.Fault`: what is wrong, and the place where that shows. A `Place`
counts lines from one and, within a line, the bytes in front of it.
-/

namespace TransferRelay.Json

/-! ## Places -/

/-- A place in a text. -/
structure Place where
  line : Nat
  column : Nat
deriving DecidableEq, Repr

namespace Place

/-- The beginning of a text. -/
def start : Place := ⟨1, 0⟩

/-- The place some bytes behind the beginning of a character. A line feed ends its line. -/
def forward (p : Place) (bytes : Nat) (c : Char) : Place :=
  if c = '\n' then ⟨p.line + 1, 0⟩ else ⟨p.line, p.column + bytes⟩

/-- The place behind a character. -/
def after (p : Place) (c : Char) : Place :=
  p.forward c.utf8Size c

/-- The place behind the first byte of a character. -/
def into (p : Place) (c : Char) : Place :=
  p.forward 1 c

end Place

/-! ## Values of the wrong type -/

/-- A value that has the wrong type, as far as it is reported. -/
inductive Found
  | null
  | bool (value : Bool)
  | number (value : Number)
  | text (value : String)
  | sequence
  | map
deriving DecidableEq

namespace Found

/-- What is reported of a value. -/
def ofJson : Json → Found
  | .null => .null
  | .bool b => .bool b
  | .num n => .number n
  | .str s => .text s
  | .arr _ => .sequence
  | .obj _ => .map

/-- Text between grave accents, which mark what stands in the input. -/
def marked (s : String) : String :=
  "\x60" ++ s ++ "\x60"

/-- The wording for a value. -/
def wording : Found → String
  | .null => "null"
  | .bool b => "boolean " ++ marked (if b then "true" else "false")
  | .number (.whole n h) => "integer " ++ marked (Number.text (.whole n h))
  | .number (.double x) => "floating point " ++ marked (Number.text (.double x))
  | .text s => "string " ++ Text.quote s
  | .sequence => "sequence"
  | .map => "map"

end Found

/-! ## Faults -/

/-- What is wrong with a text. -/
inductive Cause
  /-- The text ends where a value is expected, or within a literal name or a number. -/
  | endInValue
  | endInList
  | endInObject
  | endInString
  /-- No value begins here. -/
  | noValue
  /-- A literal name is misspelt. -/
  | badLiteral
  | badNumber
  | numberTooLarge
  | controlCharacter
  | badEscape
  /-- Half of a pair of escapes without the other half. -/
  | loneHalf
  /-- Something other than an escape behind the first half of a pair. -/
  | endOfPair
  /-- Something other than a comma or the end behind an item. -/
  | noItemEnd
  /-- Something other than a comma or the end behind a member. -/
  | noMemberEnd
  | noColon
  | noName
  | trailingComma
  | trailingCharacters
  /-- Too many arrays and objects inside each other. -/
  | tooDeep
  /-- Where a value is announced as text, there is none. -/
  | notText (found : Found)
deriving DecidableEq

/-- The wording for a cause. -/
def Cause.wording : Cause → String
  | .endInValue => "EOF while parsing a value"
  | .endInList => "EOF while parsing a list"
  | .endInObject => "EOF while parsing an object"
  | .endInString => "EOF while parsing a string"
  | .noValue => "expected value"
  | .badLiteral => "expected ident"
  | .badNumber => "invalid number"
  | .numberTooLarge => "number out of range"
  | .controlCharacter => "control character (\\u0000-\\u001F) found while parsing a string"
  | .badEscape => "invalid escape"
  | .loneHalf => "lone leading surrogate in hex escape"
  | .endOfPair => "unexpected end of hex escape"
  | .noItemEnd => "expected " ++ Found.marked "," ++ " or " ++ Found.marked "]"
  | .noMemberEnd => "expected " ++ Found.marked "," ++ " or " ++ Found.marked "\x7d"
  | .noColon => "expected " ++ Found.marked ":"
  | .noName => "key must be a string"
  | .trailingComma => "trailing comma"
  | .trailingCharacters => "trailing characters"
  | .tooDeep => "recursion limit exceeded"
  | .notText found => "invalid type: " ++ found.wording ++ ", expected raw value"

/-- What is wrong with a text, and where that shows. -/
structure Fault where
  cause : Cause
  place : Place
deriving DecidableEq

/-- The wording for a fault. -/
def Fault.message (f : Fault) : String :=
  f.cause.wording ++ " at line " ++ toString f.place.line ++ " column " ++
    toString f.place.column

end TransferRelay.Json
