import TransferRelay.Text.Digit

/-!
# Socket addresses

A literal address with a port: four decimal octets, or eight hexadecimal groups in brackets, of
which one run of zeros may be written as two colons and the last two as an IPv4 address.
`SocketAddress.parse?` reads the whole text or nothing.
-/

namespace TransferRelay

/-- A network address. -/
inductive IpAddress
  | v4 (octets : List Nat)
  | v6 (groups : List Nat)
deriving DecidableEq, Repr

/-- A network address with a port. -/
structure SocketAddress where
  ip : IpAddress
  port : Nat
deriving DecidableEq, Repr

namespace SocketAddress

/-- A value read from the front of a text, and what is left of the text. -/
abbrev Reader (α : Type) := List Char → Option (α × List Char)

/-- Reads one given character. -/
def char (c : Char) : Reader Unit
  | d :: rest => if d = c then some ((), rest) else none
  | [] => none

/-- Reads all digits at the front as a number below a limit. -/
def number (radix limit : Nat) : Reader Nat := fun cs =>
  let ds := (cs.takeWhile (Text.isDigitOf radix)).filterMap (Text.digitOf? radix)
  let n := Text.ofDigits radix ds
  if ds.isEmpty || limit ≤ n then none else some (n, cs.dropWhile (Text.isDigitOf radix))

/-- Reads an octet: one to three digits, without a leading zero. -/
def octet : Reader Nat := fun cs =>
  let ds := cs.takeWhile (Text.isDigitOf 10)
  if 3 < ds.length || (ds.head? = some '0' && 1 < ds.length) then none
  else number 10 256 cs

/-- Reads four octets with points between them. -/
def ipv4 : Reader (List Nat) := fun cs => do
  let (a, cs) ← octet cs
  let ((), cs) ← char '.' cs
  let (b, cs) ← octet cs
  let ((), cs) ← char '.' cs
  let (c, cs) ← octet cs
  let ((), cs) ← char '.' cs
  let (d, cs) ← octet cs
  return ([a, b, c, d], cs)

/-- Reads a group: one to four hexadecimal digits. -/
def group : Reader Nat := fun cs =>
  if 4 < (cs.takeWhile (Text.isDigitOf 16)).length then none else number 16 65536 cs

/-- The two groups that an IPv4 address makes. -/
def groupsOfOctets : List Nat → List Nat
  | [a, b, c, d] => [a * 256 + b, c * 256 + d]
  | _ => []

/-- Reads up to `room` groups, the colon before the first of them only if some stand before it;
tells whether they end in an IPv4 address. -/
def groups : (room : Nat) → (first : Bool) → List Char → (List Nat × Bool) × List Char
  | 0, _, cs => (([], false), cs)
  | room + 1, first, cs =>
    let start := if first then some cs else (char ':' cs).map Prod.snd
    match start with
    | none => (([], false), cs)
    | some inner =>
      match (if 1 ≤ room then ipv4 inner else none) with
      | some (octets, rest) => ((groupsOfOctets octets, true), rest)
      | none =>
        match group inner with
        | none => (([], false), cs)
        | some (g, rest) =>
          let ((gs, mixed), rest) := groups room false rest
          ((g :: gs, mixed), rest)

/-- Reads eight groups. -/
def ipv6 : Reader (List Nat) := fun cs =>
  let ((head, mixed), rest) := groups 8 true cs
  if head.length = 8 then some (head, rest)
  else if mixed then none
  else do
    let ((), rest) ← char ':' rest
    let ((), rest) ← char ':' rest
    let ((tail, _), rest) := groups (8 - (head.length + 1)) true rest
    return (head ++ List.replicate (8 - head.length - tail.length) 0 ++ tail, rest)

/-- Reads the zone behind an IPv6 address, if there is one. -/
def zone : Reader Unit
  | '%' :: cs => (number 10 (Nat.pow 2 32) cs).map fun (_, rest) => ((), rest)
  | cs => some ((), cs)

/-- Reads an IPv6 address in brackets. -/
def bracketed : Reader (List Nat) := fun cs => do
  let ((), cs) ← char '[' cs
  let (gs, cs) ← ipv6 cs
  let ((), cs) ← zone cs
  let ((), cs) ← char ']' cs
  return (gs, cs)

/-- Reads an address. -/
def host : Reader IpAddress := fun cs =>
  match ipv4 cs with
  | some (octets, rest) => some (.v4 octets, rest)
  | none => (bracketed cs).map fun (gs, rest) => (.v6 gs, rest)

/-- Reads a text that is nothing but an address with a port. -/
def parse? (s : String) : Option SocketAddress := do
  let (a, cs) ← host s.toList
  let ((), cs) ← char ':' cs
  let (port, cs) ← number 10 65536 cs
  if cs.isEmpty then return ⟨a, port⟩ else none

end SocketAddress

namespace IpAddress

/-- Whether an address stands for every address of the machine. -/
def isUnspecified : IpAddress → Bool
  | .v4 octets => octets.all (· == 0)
  | .v6 groups => groups.all (· == 0)

/-- Whether an address stands for the machine itself. -/
def isLoopback : IpAddress → Bool
  | .v4 octets => octets.head? == some 127
  | .v6 groups => groups == [0, 0, 0, 0, 0, 0, 0, 1]

end IpAddress

end TransferRelay
