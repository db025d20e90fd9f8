import TransferRelay.Net.Host

/-!
# URLs

`Url.isValid` decides which texts are absolute URLs by the rules of the URL standard, without a base
to be relative to.

* Blanks and control characters around the text and line breaks and tabs in it do not count.
* The schemes of the web need a host, and take a backslash for a slash.
* The scheme of files takes a host or none, and a backslash for a slash as well.
* Other schemes may do without a host, and then take anything.
-/

namespace TransferRelay.Url

/-- A text without what does not count. -/
def strip (cs : List Char) : List Char :=
  let outer (c : Char) : Bool := c.toNat ≤ 0x20
  let trimmed := ((cs.dropWhile outer).reverse.dropWhile outer).reverse
  trimmed.filter fun c => c ≠ '\t' && c ≠ '\n' && c ≠ '\r'

/-! ## Schemes -/

/-- How the text behind a scheme is read. -/
inductive Kind
  | web
  | file
  | other
deriving DecidableEq, Repr

/-- The kind of a scheme in lowercase. -/
def Kind.ofScheme (scheme : String) : Kind :=
  if scheme ∈ ["http", "https", "ws", "wss", "ftp"] then .web
  else if scheme = "file" then .file
  else .other

/-- Whether a character may stand in a scheme behind its first. -/
def isSchemeChar (c : Char) : Bool :=
  c.isAlphanum || c = '+' || c = '-' || c = '.'

/-- The kind of the scheme of a text, and the text behind its colon. -/
def splitScheme (cs : List Char) : Option (Kind × List Char) :=
  let scheme := cs.takeWhile isSchemeChar
  match scheme, cs.dropWhile isSchemeChar with
  | first :: _, ':' :: rest =>
    if first.isAlpha then some (.ofScheme (String.ofList (scheme.map Char.toLower)), rest) else none
  | _, _ => none

/-! ## Authorities -/

/-- Whether a character ends an authority. Where a backslash is a slash, it does. -/
def endsAuthority (backslash : Bool) (c : Char) : Bool :=
  c = '/' || c = '?' || c = '#' || (backslash && c = '\\')

/-- The user of an authority, if it has one, and the text behind the last at sign. -/
def splitUser (cs : List Char) : Option (List Char) × List Char :=
  if cs.contains '@' then
    let behind := (cs.reverse.takeWhile (· ≠ '@')).reverse
    (some (cs.take (cs.length - behind.length - 1)), behind)
  else (none, cs)

/-- Whether a user has neither name nor password. -/
def isNobody (user : List Char) : Bool :=
  user = [] || user = [':']

/-- The text in front of a port, and the text behind its colon. A colon in brackets is none. -/
def splitPort : (inBrackets : Bool) → List Char → List Char × Option (List Char)
  | _, [] => ([], none)
  | inBrackets, c :: cs =>
    if c = ':' && !inBrackets then ([], some cs)
    else
      let inside := if c = '[' then true else if c = ']' then false else inBrackets
      let (host, port) := splitPort inside cs
      (c :: host, port)

/-- Whether a text begins with a port, which its end or a backslash ends. -/
def isPort (cs : List Char) : Bool :=
  let digits := cs.takeWhile Char.isDigit
  let fits := Text.ofDigits 10 (digits.filterMap (Text.digitOf? 10)) < 65536
  match cs.dropWhile Char.isDigit with
  | [] => fits
  | c :: _ => fits && c = '\\'

/-- Whether a text is an authority with a host whose name is looked up. -/
def isWebAuthority (cs : List Char) : Bool :=
  let (host, port) := splitPort false (splitUser cs).2
  Host.isDomainOrAddress host && port.all isPort

/-- Whether a text is an authority with a host that only its scheme understands. Without a host
there is neither port nor user; a user who is nobody is none, but one without even a colon must then
be at the end of the URL. -/
def isOtherAuthority (cs : List Char) (atEnd : Bool) : Bool :=
  let (user, rest) := splitUser cs
  let (host, port) := splitPort false rest
  if host.isEmpty then
    port.isNone && user.all fun u => isNobody u && (!u.isEmpty || atEnd)
  else Host.isOpaque host && port.all isPort

/-- Whether a text is a letter with a colon or a bar, which begins a path and is no host. -/
def isDrive : List Char → Bool
  | [letter, mark] => letter.isAlpha && (mark = ':' || mark = '|')
  | _ => false

/-! ## URLs -/

/-- Whether a text may stand behind the colon of a scheme. -/
def Kind.takes (kind : Kind) (rest : List Char) : Bool :=
  let isSlash (c : Char) : Bool := c = '/' || (kind ≠ .other && c = '\\')
  let authority (cs : List Char) : List Char :=
    cs.takeWhile fun c => !endsAuthority (kind ≠ .other) c
  match kind, rest with
  | .web, rest => isWebAuthority (authority (rest.dropWhile isSlash))
  | .file, a :: b :: rest =>
    if isSlash a && isSlash b then
      let host := authority rest
      host.isEmpty || isDrive host || Host.isDomainOrAddress host
    else true
  | .other, a :: b :: rest =>
    if isSlash a && isSlash b then
      isOtherAuthority (authority rest) ((authority rest).length = rest.length)
    else true
  | _, _ => true

/-- Whether a text is an absolute URL. -/
def isValid (s : String) : Bool :=
  match splitScheme (strip s.toList) with
  | none => false
  | some (kind, rest) => kind.takes rest

end TransferRelay.Url
