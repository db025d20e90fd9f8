import TransferRelay.Config.Environment
import TransferRelay.Text.Alphanumeric

/-!
# Files of settings

A file of settings gives variables to an environment, one in a line: a name, an equals sign and a
value. `Environment.withFile` reads such a file.

* A line goes on over its end inside quotes. A number sign begins a comment at the start of a line
  and behind a blank.
* A value may be in single quotes, in which every character stands for itself, or in double quotes.
  Outside single quotes a backslash escapes, and a dollar sign stands in front of the name of a
  variable, whose text it inserts.
* What is set already stays. A line that is no setting ends the reading.
-/

namespace TransferRelay

namespace SettingsFile

/-! ## Lines -/

/-- The lines of a text, each with the line break at its end. -/
def rows : List Char → List (List Char)
  | [] => []
  | c :: cs =>
    if c = '\n' then [c] :: rows cs
    else
      match rows cs with
      | [] => [[c]]
      | row :: rest => (c :: row) :: rest

/-- What surrounds a place in a line, as far as the end of the line is concerned. -/
inductive Surround
  | plain
  /-- Behind a blank. -/
  | blank
  /-- Behind a backslash. -/
  | escape
  /-- Inside double quotes. -/
  | double
  /-- Inside double quotes, behind a backslash. -/
  | doubleEscape
  /-- Inside single quotes. -/
  | single
  /-- Inside single quotes, behind a backslash. -/
  | singleEscape
deriving DecidableEq, Repr

/-- What surrounds the place behind a character. -/
def Surround.next : Surround → Char → Surround
  | .plain, c =>
    if c = '\\' then .escape
    else if c = '"' then .double
    else if c = '\'' then .single
    else if Text.isBlank c && c ≠ '\n' && c ≠ '\r' then .blank
    else .plain
  | .blank, c =>
    if c = '\\' then .escape
    else if c = '"' then .double
    else if c = '\'' then .single
    else .plain
  | .escape, _ => .plain
  | .double, c => if c = '\\' then .doubleEscape else if c = '"' then .plain else .double
  | .doubleEscape, _ => .double
  | .single, c => if c = '\\' then .singleEscape else if c = '\'' then .plain else .single
  | .singleEscape, _ => .single

/-- Where a row ends. -/
inductive RowEnd
  /-- At its end, in the given surroundings. -/
  | open (surround : Surround)
  /-- At a comment, behind the given text. -/
  | comment (before : List Char)
deriving DecidableEq, Repr

/-- Finds where a row ends. -/
def rowEnd : Surround → List Char → RowEnd
  | surround, [] => .open surround
  | .blank, '#' :: _ => .comment []
  | surround, c :: cs =>
    match rowEnd (surround.next c) cs with
    | .comment before => .comment (c :: before)
    | ended => ended

/-- A text without the line break at its end. -/
def withoutBreak (cs : List Char) : List Char :=
  match cs.reverse with
  | '\n' :: '\r' :: rest => rest.reverse
  | '\n' :: rest => rest.reverse
  | _ => cs

/-- Whether a text is a comment as a whole. -/
def isComment (cs : List Char) : Bool :=
  (cs.dropWhile Text.isBlank).head? = some '#'

/-- A line of settings. -/
inductive Line
  | whole (text : List Char)
  /-- A line that the end of the file breaks off. -/
  | broken
deriving DecidableEq, Repr

/-- The lines that rows make. `done` is the part of a line that earlier rows hold. -/
def joinRows : (done : List Char) → Surround → List (List Char) → List Line
  | _, .plain, [] => []
  | _, _, [] => [.broken]
  | done, surround, row :: rest =>
    if isComment (done ++ row) then joinRows [] .plain rest
    else
      match rowEnd surround row with
      | .comment before => .whole (done ++ before) :: joinRows [] .plain rest
      | .open .plain => .whole (withoutBreak (done ++ row)) :: joinRows [] .plain rest
      | .open surround => joinRows (done ++ row) surround rest

/-- A text without the mark that some editors put in front of UTF-8. -/
def withoutMark : List Char → List Char
  | '\ufeff' :: cs => cs
  | cs => cs

/-- The lines of a file. -/
def lines (file : String) : List Line :=
  joinRows [] .plain (rows (withoutMark file.toList))

/-! ## Values -/

/-- A piece of a value. -/
inductive Piece
  | char (c : Char)
  /-- The text of a variable. -/
  | insert (name : String)
deriving DecidableEq, Repr

/-- How far a value has been read. Within the text that a dollar sign begins, `quoted` tells whether
that text is in double quotes; names stand last character first. -/
inductive Mode
  | plain
  /-- Behind the value. -/
  | ended
  /-- In a comment. -/
  | comment
  /-- In single quotes. -/
  | single
  /-- In double quotes. -/
  | double
  /-- Behind a backslash. -/
  | escape (quoted : Bool)
  /-- In the name of a variable. -/
  | name (quoted : Bool) (done : List Char)
  /-- In the name of a variable in braces. -/
  | braced (quoted : Bool) (done : List Char)
deriving DecidableEq, Repr

namespace Mode

/-- In double quotes or in none. -/
def within (quoted : Bool) : Mode :=
  if quoted then .double else .plain

/-- The character that an escaped character stands for. -/
def escaped? : Char → Option Char
  | 'n' => some '\n'
  | c => if c ∈ ['\\', '\'', '"', '$', ' '] then some c else none

/-- The piece for a name that stands last character first. -/
def inserted (done : List Char) : Piece :=
  .insert (String.ofList done.reverse)

/-- Reads one character. -/
def step : Mode → Char → Option (Mode × List Piece)
  | .plain, c =>
    if c = '$' then some (.name false [], [])
    else if c = '\'' then some (.single, [])
    else if c = '"' then some (.double, [])
    else if c = '\\' then some (.escape false, [])
    else if c = ' ' || c = '\t' then some (.ended, [])
    else some (.plain, [.char c])
  | .ended, c =>
    if c = ' ' || c = '\t' then some (.ended, [])
    else if c = '#' then some (.comment, [])
    else none
  | .comment, _ => some (.comment, [])
  | .single, c => if c = '\'' then some (.plain, []) else some (.single, [.char c])
  | .double, c =>
    if c = '$' then some (.name true [], [])
    else if c = '"' then some (.plain, [])
    else if c = '\\' then some (.escape true, [])
    else some (.double, [.char c])
  | .escape quoted, c => (escaped? c).map fun c => (within quoted, [.char c])
  | .name quoted done, c =>
    if Text.isAlphanumeric c then some (.name quoted (c :: done), [])
    else if c = '\x7b' && done.isEmpty then some (.braced quoted [], [])
    else if c = '$' then some (.name quoted [], [inserted done])
    else some (within quoted, [inserted done, .char c])
  | .braced quoted done, c =>
    if c = '\x7d' then some (within quoted, [inserted done])
    else some (.braced quoted (c :: done), [])

/-- The pieces behind the last character, if a value may end here. -/
def finish? : Mode → Option (List Piece)
  | .plain | .ended | .comment | .escape false => some []
  | .name false done => some [inserted done]
  | _ => none

end Mode

/-- Reads a value. -/
def readValue : Mode → List Char → Option (List Piece)
  | mode, [] => mode.finish?
  | mode, c :: cs => do
    let (mode, pieces) ← mode.step c
    return pieces ++ (← readValue mode cs)

/-- The text that pieces make in an environment. A variable without a text adds nothing. -/
def expand (e : Environment) (pieces : List Piece) : String :=
  String.join (pieces.map fun
    | .char c => c.toString
    | .insert name => (e.text? name).getD "")

/-! ## Settings -/

/-- A variable with its value. -/
structure Setting where
  name : String
  value : List Piece
deriving DecidableEq, Repr

/-- A text without the blank characters in front of it. -/
def skipBlanks (cs : List Char) : List Char :=
  cs.dropWhile Text.isBlank

/-- Reads the name of a variable. -/
def readName (cs : List Char) : Option (List Char × List Char) :=
  match cs with
  | c :: _ =>
    if c.isAlpha || c = '_' then
      some (cs.span fun c => c.isAlphanum || c = '_' || c = '.')
    else none
  | [] => none

/-- The text behind an equals sign, if there is one. -/
def behindEquals? : List Char → Option (List Char)
  | '=' :: cs => some cs
  | _ => none

/-- Reads a name and an equals sign. The word `export` may stand in front. -/
def readHead (cs : List Char) : Option (List Char × List Char) := do
  let (name, rest) ← readName cs
  match behindEquals? (skipBlanks rest) with
  | some value => return (name, value)
  | none =>
    if name = "export".toList then
      let (name, rest) ← readName (skipBlanks rest)
      return (name, ← behindEquals? (skipBlanks rest))
    else none

/-- What a line holds. -/
inductive Content
  | nothing
  | setting (s : Setting)
  | unreadable
deriving DecidableEq, Repr

/-- Whether nothing but a comment stands here. -/
def isVoid : List Char → Bool
  | [] => true
  | c :: _ => c = '#'

/-- Reads a setting. -/
def readSetting (cs : List Char) : Option Setting := do
  let (name, rest) ← readHead cs
  let rest := skipBlanks rest
  let value ← if isVoid rest then some [] else readValue .plain rest
  return ⟨String.ofList name, value⟩

/-- Reads a line. -/
def readLine (cs : List Char) : Content :=
  let cs := Text.trimChars cs
  if isVoid cs then .nothing
  else
    match readSetting cs with
    | some s => .setting s
    | none => .unreadable

/-- The variables that a piece inserts. -/
def Piece.mentions : Piece → List String
  | .char _ => []
  | .insert name => [name]

/-- The variables that a line sets or inserts. -/
def Line.mentions : Line → List String
  | .broken => []
  | .whole text =>
    match readLine text with
    | .setting s => s.name :: s.value.flatMap Piece.mentions
    | _ => []

/-- The variables that a file sets or inserts. Reading the file needs no others of an
environment. -/
def mentions (file : String) : List String :=
  (lines file).flatMap Line.mentions

end SettingsFile

namespace Environment

open SettingsFile

/-- An environment with the settings of lines, up to the first that is none. -/
def withLines (e : Environment) : List Line → Environment
  | [] => e
  | .broken :: _ => e
  | .whole text :: rest =>
    match readLine text with
    | .nothing => e.withLines rest
    | .unreadable => e
    | .setting s => (e.setMissing s.name (expand e s.value)).withLines rest

/-- An environment with the settings of a file. What is set already stays. -/
def withFile (e : Environment) (file : String) : Environment :=
  e.withLines (lines file)

end Environment

end TransferRelay
