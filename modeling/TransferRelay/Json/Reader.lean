import TransferRelay.Json.QuotedString

/-!
# Reading JSON

`Json.read` reads a text, which holds exactly one value, or says what is wrong with it. At most
`Json.maxDepth` arrays and objects are inside each other. A `Reader` takes one character at a time:
it holds the arrays and objects around the value under way, innermost first, and what may come next.

An object may hold a value as text: its one member is then named `Json.embeddedName`. Such an object
stands for the value of that text.
-/

namespace TransferRelay.Json

/-- The greatest number of arrays and objects inside each other. -/
def maxDepth : Nat := 127

/-- The name that announces a value held as text, where it is the first of an object. -/
def embeddedName : String := "$serde_json::private::RawValue"

/-- An array or object around the value under way. -/
inductive Frame
  /-- An array with the items before, last first. -/
  | item (before : List Json)
  /-- An object with the members before, and the name of the value. -/
  | member (before : List (String × Json)) (name : String)
  /-- An object whose first name announces a value held as text. -/
  | announced

/-- What may come next between the tokens of a text. -/
inductive Expected
  /-- A value. -/
  | value
  /-- The first item of an array, or its end. -/
  | firstItem
  /-- An item behind a comma. -/
  | item (before : List Json)
  /-- A comma or the end of an array. -/
  | itemEnd (items : List Json)
  /-- The first name of an object, or its end. -/
  | firstName
  /-- A name behind a comma. -/
  | name (before : List (String × Json))
  /-- The colon behind a name. -/
  | colon (frame : Frame)
  /-- A comma or the end of an object. -/
  | memberEnd (members : List (String × Json))
  /-- The end of an object that stands for a value. -/
  | embeddedEnd (value : Json)
  /-- Nothing: the value is complete. -/
  | nothing (value : Json)

/-- What a string is. -/
inductive StringRole
  | value
  | firstName
  | name (before : List (String × Json))

/-- How far a text has been read. -/
inductive Reader
  /-- Between tokens. -/
  | between (frames : List Frame) (expected : Expected)
  /-- Within a literal name, of which some characters are still to come. -/
  | literal (frames : List Frame) (rest : List Char) (value : Json)
  /-- Within a number. -/
  | number (frames : List Frame) (stage : Stage) (numeral : Numeral)
  /-- Within a string. -/
  | string (frames : List Frame) (role : StringRole) (s : QuotedString)

namespace Reader

variable (read : String → Except Fault Json)

/-- What may come next behind a value that ends at a place. Where a text is announced that holds a
value, `read` reads it. -/
def give (value : Json) (behind : Place) : List Frame → Except Fault (List Frame × Expected)
  | [] => .ok ([], .nothing value)
  | .item before :: frames => .ok (frames, .itemEnd (value :: before))
  | .member before name :: frames =>
    .ok (frames, .memberEnd (Members.insert name value before))
  | .announced :: frames =>
    match value with
    | .str s => (read s).map (frames, .embeddedEnd ·)
    | value => .error ⟨.notText (.ofJson value), behind⟩

/-- The reader behind a value. -/
def afterValue (value : Json) (behind : Place) (frames : List Frame) : Except Fault Reader :=
  (give read value behind frames).map fun (frames, expected) => .between frames expected

/-- The reader behind the character that begins an array or object. -/
def enter (found : Found) (inside : Expected) (p : Place) (c : Char) (frames : List Frame) :
    Except Fault Reader :=
  match frames with
  | .announced :: _ => .error ⟨.notText found, p⟩
  | frames =>
    if frames.length < maxDepth then .ok (.between frames inside)
    else .error ⟨.tooDeep, p.into c⟩

/-- Reads the first character of a value. -/
def beginValue (frames : List Frame) (p : Place) (c : Char) : Except Fault Reader :=
  match c with
  | '[' => enter .sequence .firstItem p c frames
  | '\x7b' => enter .map .firstName p c frames
  | '"' => .ok (.string frames .value .start)
  | 't' => .ok (.literal frames ['r', 'u', 'e'] (.bool true))
  | 'f' => .ok (.literal frames ['a', 'l', 's', 'e'] (.bool false))
  | 'n' => .ok (.literal frames ['u', 'l', 'l'] .null)
  | '-' => .ok (.number frames .sign (.start true))
  | c =>
    match (Numeral.start false).push .sign c with
    | .more stage numeral => .ok (.number frames stage numeral)
    | _ => .error ⟨.noValue, p.into c⟩

/-- Whether a character may stand between tokens. -/
def isGap (c : Char) : Bool :=
  c = ' ' || c = '\t' || c = '\n' || c = '\r'

/-- Reads a character between tokens. -/
def stepBetween (frames : List Frame) (expected : Expected) (p : Place) (c : Char) :
    Except Fault Reader :=
  let wrong (cause : Cause) : Except Fault Reader := .error ⟨cause, p.into c⟩
  if isGap c then .ok (.between frames expected)
  else
    match expected with
    | .value => beginValue frames p c
    | .firstItem =>
      if c = ']' then afterValue read (.arr []) (p.after c) frames
      else beginValue (.item [] :: frames) p c
    | .item before =>
      if c = ']' then wrong .trailingComma else beginValue (.item before :: frames) p c
    | .itemEnd items =>
      if c = ',' then .ok (.between frames (.item items))
      else if c = ']' then afterValue read (.arr items.reverse) (p.after c) frames
      else wrong .noItemEnd
    | .firstName =>
      if c = '"' then .ok (.string frames .firstName .start)
      else if c = '\x7d' then afterValue read (.obj []) (p.after c) frames
      else wrong .noName
    | .name before =>
      if c = '"' then .ok (.string frames (.name before) .start)
      else if c = '\x7d' then wrong .trailingComma
      else wrong .noName
    | .colon frame => if c = ':' then .ok (.between (frame :: frames) .value) else wrong .noColon
    | .memberEnd members =>
      if c = ',' then .ok (.between frames (.name members))
      else if c = '\x7d' then afterValue read (.obj members) (p.after c) frames
      else wrong .noMemberEnd
    | .embeddedEnd value =>
      if c = '\x7d' then afterValue read value (p.after c) frames
      else if c = ',' then wrong .trailingComma
      else wrong .trailingCharacters
    | .nothing _ => wrong .trailingCharacters

/-- The value of a numeral that ends at a place. -/
def numberValue (numeral : Numeral) (behind : Place) : Except Fault Json :=
  match Number.ofNumeral? numeral.inOrder with
  | some n => .ok (.num n)
  | none => .error ⟨.numberTooLarge, behind⟩

/-- What may come next behind a numeral that ends at a place. -/
def afterNumeral (numeral : Numeral) (behind : Place) (frames : List Frame) :
    Except Fault (List Frame × Expected) := do
  let value ← numberValue numeral behind
  give read value behind frames

/-- The reader behind a string. -/
def afterString (text : String) (behind : Place) (frames : List Frame) :
    StringRole → Except Fault Reader
  | .value => afterValue read (.str text) behind frames
  | .firstName =>
    .ok (.between frames (.colon (if text = embeddedName then .announced else .member [] text)))
  | .name before => .ok (.between frames (.colon (.member before text)))

/-- Reads the character at a place. -/
def step (r : Reader) (p : Place) (c : Char) : Except Fault Reader :=
  match r with
  | .between frames expected => stepBetween read frames expected p c
  | .literal frames rest value =>
    match rest with
    | [] => .error ⟨.badLiteral, p.into c⟩
    | [d] =>
      if c = d then afterValue read value (p.after c) frames else .error ⟨.badLiteral, p.into c⟩
    | d :: rest =>
      if c = d then .ok (.literal frames rest value) else .error ⟨.badLiteral, p.into c⟩
  | .number frames stage numeral =>
    match numeral.push stage c with
    | .more stage numeral => .ok (.number frames stage numeral)
    | .broken => .error ⟨.badNumber, p.into c⟩
    | .tooLarge => .error ⟨.numberTooLarge, p.into c⟩
    | .ended =>
      match afterNumeral read numeral p frames with
      | .error e => .error e
      | .ok (frames, expected) => stepBetween read frames expected p c
  | .string frames role s =>
    match s.step p c with
    | .error e => .error e
    | .ok (.more s) => .ok (.string frames role s)
    | .ok (.ended text) => afterString read text (p.after c) frames role

/-- The value of a text that ends between tokens. -/
def finishBetween (expected : Expected) (p : Place) : Except Fault Json :=
  match expected with
  | .nothing value => .ok value
  | .value | .item _ | .name _ => .error ⟨.endInValue, p⟩
  | .firstItem | .itemEnd _ => .error ⟨.endInList, p⟩
  | .firstName | .colon _ | .memberEnd _ | .embeddedEnd _ => .error ⟨.endInObject, p⟩

/-- The value of a text that ends at a place. -/
def finish (r : Reader) (p : Place) : Except Fault Json :=
  match r with
  | .between _ expected => finishBetween expected p
  | .literal _ _ _ => .error ⟨.endInValue, p⟩
  | .number frames stage numeral =>
    if stage.complete then do
      let (_, expected) ← afterNumeral read numeral p frames
      finishBetween expected p
    else .error ⟨.endInValue, p⟩
  | .string _ _ _ => .error ⟨.endInString, p⟩

/-- Reads the rest of a text from a place on. -/
def run : Reader → Place → List Char → Except Fault Json
  | r, p, [] => r.finish read p
  | r, p, c :: cs =>
    match r.step read p c with
    | .error e => .error e
    | .ok r => run r (p.after c) cs

end Reader

/-- Reads a text in which fewer than `depth` texts that hold values are inside each other. -/
def readWithin : (depth : Nat) → String → Except Fault Json
  | 0, _ => .error ⟨.endInValue, .start⟩
  | depth + 1, s => Reader.run (readWithin depth) (.between [] .value) .start s.toList

/-- Reads a text. A text that holds a value is shorter than the text it stands in, so the length of
the outermost bounds how many are inside each other. -/
def read (s : String) : Except Fault Json :=
  readWithin (s.length + 1) s

/-- The value of a text, if it is JSON. -/
def parse (s : String) : Option Json :=
  (read s).toOption

theorem parse_eq_some_iff {s : String} {value : Json} :
    parse s = some value ↔ read s = .ok value := by
  unfold parse
  cases read s <;> simp [Except.toOption]

/-- The value of a text given as bytes, if they are JSON. -/
def parseUtf8 (bytes : ByteArray) : Option Json :=
  (String.fromUTF8? bytes).bind parse

end TransferRelay.Json
