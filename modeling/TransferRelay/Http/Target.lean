import TransferRelay.Text.Split

/-!
# Request targets

What a request asks for. `Target.parse?` reads the four forms of a request target: a path, an
absolute form with a scheme and an authority before the path, an authority alone, and an asterisk.
`Target.path?` gives the path that picks a resource: a query and a fragment are no part of it, and
behind an authority an empty path is the root.
-/

namespace TransferRelay.Http

/-- A request target. -/
inductive Target
  /-- A path, with its query and fragment cut off. -/
  | origin (path : List Char)
  /-- A path behind an authority. -/
  | absolute (path : List Char)
  /-- An authority without a path. -/
  | authority
  /-- The service as a whole. -/
  | asterisk
deriving DecidableEq, Repr

namespace Target

/-! ## Characters -/

/-- Whether a character stands for itself in an authority. -/
def isAuthorityChar (c : Char) : Bool :=
  c.isAlphanum || c ∈ "!$&'()*+,-.:;=@[]_~".toList

/-- Whether a character may stand in a path. -/
def isPathChar (c : Char) : Bool :=
  0x20 < c.toNat && c ∉ ['#', '<', '>', '?', Char.ofNat 0x60]

/-- Whether a character may stand in a query. -/
def isQueryChar (c : Char) : Bool :=
  0x20 < c.toNat && c ∉ ['"', '#', '<', '>']

/-! ## Authorities -/

/-- What an authority held so far. -/
structure Survey where
  colons : Nat := 0
  opened : Bool := false
  closed : Bool := false
  percent : Bool := false
  /-- Whether the last character was an at sign. -/
  atSign : Bool := false
deriving DecidableEq, Repr

/-- The greatest number of colons in an address. -/
def maxColons : Nat := 8

/-- One more character of an authority. Behind a user or an address, colons and percent signs count
from the beginning. -/
def Survey.add (s : Survey) (c : Char) : Option Survey :=
  let s := { s with atSign := c = '@' }
  if c = ':' then
    if s.colons < maxColons then some { s with colons := s.colons + 1 } else none
  else if c = '[' then
    if s.percent || s.opened then none else some { s with opened := true }
  else if c = ']' then
    if s.opened && !s.closed then some { s with closed := true, colons := 0, percent := false }
    else none
  else if c = '@' then some { s with colons := 0, percent := false }
  else if c = '%' then some { s with percent := true }
  else if isAuthorityChar c then some s
  else none

/-- Whether an authority may end here: there is one port at most, a bracket is closed, and something
stands behind a user. -/
def Survey.isComplete (s : Survey) : Bool :=
  s.opened = s.closed && s.colons ≤ 1 && !s.atSign && !s.percent

/-- Whether a text is an authority or empty. -/
def isAuthority (cs : List Char) : Bool :=
  match cs.foldlM Survey.add {} with
  | some s => s.isComplete
  | none => false

/-- Whether a character ends an authority. -/
def endsAuthority (c : Char) : Bool :=
  c = '/' || c = '?' || c = '#'

/-! ## Paths -/

/-- Whether text behind a path is a query, a fragment, both or none. A fragment may be anything. -/
def isSuffix : List Char → Bool
  | '?' :: query => (query.takeWhile (· ≠ '#')).all isQueryChar
  | _ => true

/-- The path at the front of a text. -/
def path (cs : List Char) : List Char :=
  cs.takeWhile fun c => c ≠ '?' && c ≠ '#'

/-- Whether a text is a path with a query and a fragment or without. -/
def isPath (cs : List Char) : Bool :=
  (path cs).all isPathChar && isSuffix (cs.drop (path cs).length)

/-! ## Schemes -/

/-- The greatest length of a scheme. -/
def maxScheme : Nat := 64

/-- Whether a character may stand in a scheme. -/
def isSchemeChar (c : Char) : Bool :=
  c.isAlphanum || c = '+' || c = '-' || c = '.' || c = '~'

/-- What stands behind a scheme and its two slashes. -/
def afterScheme? (cs : List Char) : Option (List Char) :=
  let scheme := cs.takeWhile isSchemeChar
  match cs.drop scheme.length with
  | ':' :: '/' :: '/' :: rest => if scheme.length ≤ maxScheme then some rest else none
  | _ => none

/-! ## Targets -/

/-- The greatest size of a target. -/
def maxSize : Nat := 65534

/-- Reads a target in absolute form, behind its scheme. -/
def absolute? (cs : List Char) : Option Target :=
  let authority := cs.takeWhile (!endsAuthority ·)
  let rest := cs.drop authority.length
  if !authority.isEmpty && isAuthority authority && isPath rest then some (.absolute (path rest))
  else none

/-- Reads a target. -/
def parse? (s : String) : Option Target :=
  if maxSize < s.utf8ByteSize then none
  else
    match s.toList with
    | [] => none
    | ['*'] => some .asterisk
    | '/' :: cs => if isPath ('/' :: cs) then some (.origin (path ('/' :: cs))) else none
    | cs =>
      match afterScheme? cs with
      | some rest => absolute? rest
      | none => if isAuthority cs then some .authority else none

/-- The path that picks a resource. -/
def path? : Target → Option String
  | origin path => some (String.ofList path)
  | absolute path => some (if path.isEmpty then "/" else String.ofList path)
  | authority => none
  | asterisk => some "*"

end Target

end TransferRelay.Http
