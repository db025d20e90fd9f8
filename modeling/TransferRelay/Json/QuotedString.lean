import TransferRelay.Json.Fault
import TransferRelay.Text.Digit

/-!
# Strings of JSON

A `QuotedString` is a string under way, behind its first quotation mark. `QuotedString.step` reads
one character more.

An escape of four digits takes four bytes, whatever they are: only behind them is it judged.
Characters beyond 16 bits are a pair of such escapes, and half of a pair stands for nothing.
-/

namespace TransferRelay.Json

/-- A part of a string. -/
inductive StringPart
  /-- Characters. -/
  | plain
  /-- Behind a backslash. -/
  | escape
  /-- An escape of four digits, with the bytes still to come and the value of those read, if all of
  them are digits; `high` is the first half of a pair. -/
  | hex (high : Option Nat) (left : Nat) (value : Option Nat)
  /-- Behind the first half of a pair. -/
  | pair (high : Nat)
  /-- Behind the first half of a pair and a backslash. -/
  | pairEscape (high : Nat)
deriving DecidableEq, Repr

/-- A string under way. The characters already read stand last first. -/
structure QuotedString where
  done : List Char
  part : StringPart
deriving DecidableEq, Repr

namespace QuotedString

/-- What follows a character of a string. -/
inductive Next
  /-- More of the string. -/
  | more (s : QuotedString)
  /-- Nothing of it: the character was its last quotation mark. -/
  | ended (text : String)

/-- A string of which nothing has been read. -/
def start : QuotedString :=
  ⟨[], .plain⟩

/-- The character that an escape of one letter stands for. -/
def escaped? : Char → Option Char
  | '"' => some '"'
  | '\\' => some '\\'
  | '/' => some '/'
  | 'b' => some '\x08'
  | 'f' => some '\x0c'
  | 'n' => some '\n'
  | 'r' => some '\r'
  | 't' => some '\t'
  | _ => none

/-- Whether a number is the first half of a pair. -/
def isHighHalf (n : Nat) : Bool :=
  0xD800 ≤ n && n ≤ 0xDBFF

/-- Whether a number is the second half of a pair. -/
def isLowHalf (n : Nat) : Bool :=
  0xDC00 ≤ n && n ≤ 0xDFFF

/-- The string behind an escape of four digits that ends at a place. -/
def afterHex (done : List Char) (high : Option Nat) (value : Nat) (behind : Place) :
    Except Fault Next :=
  match high with
  | some h =>
    if isLowHalf value then
      .ok (.more ⟨Char.ofNat (0x10000 + (h - 0xD800) * 0x400 + (value - 0xDC00)) :: done, .plain⟩)
    else .error ⟨.loneHalf, behind⟩
  | none =>
    if isLowHalf value then .error ⟨.loneHalf, behind⟩
    else if isHighHalf value then .ok (.more ⟨done, .pair value⟩)
    else .ok (.more ⟨Char.ofNat value :: done, .plain⟩)

/-- Reads the character at a place. -/
def step (s : QuotedString) (p : Place) (c : Char) : Except Fault Next :=
  match s.part with
  | .plain =>
    if c = '"' then .ok (.ended (String.ofList s.done.reverse))
    else if c = '\\' then .ok (.more ⟨s.done, .escape⟩)
    else if c.toNat < 0x20 then .error ⟨.controlCharacter, p.into c⟩
    else .ok (.more ⟨c :: s.done, .plain⟩)
  | .escape =>
    if c = 'u' then .ok (.more ⟨s.done, .hex none 4 (some 0)⟩)
    else
      match escaped? c with
      | some e => .ok (.more ⟨e :: s.done, .plain⟩)
      | none => .error ⟨.badEscape, p.into c⟩
  | .hex high left value =>
    let value := value.bind fun v => (Text.digitOf? 16 c).map (v * 16 + ·)
    if c.utf8Size < left then .ok (.more ⟨s.done, .hex high (left - c.utf8Size) value⟩)
    else
      match value with
      | some v => afterHex s.done high v (p.forward left c)
      | none => .error ⟨.badEscape, p.forward left c⟩
  | .pair high =>
    if c = '\\' then .ok (.more ⟨s.done, .pairEscape high⟩) else .error ⟨.endOfPair, p.into c⟩
  | .pairEscape high =>
    if c = 'u' then .ok (.more ⟨s.done, .hex (some high) 4 (some 0)⟩)
    else .error ⟨.endOfPair, p.into c⟩

end QuotedString

end TransferRelay.Json
