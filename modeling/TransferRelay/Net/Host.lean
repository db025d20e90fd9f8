import TransferRelay.DomainName.Name
import TransferRelay.Net.SocketAddress
import TransferRelay.Text.Blank

/-!
# Hosts

`Host.isDomainOrAddress` decides which texts are a host whose name is looked up: an IPv6 address in
brackets, a domain name, or a name that ends in a number and is an IPv4 address. `Host.isOpaque`
decides which are a host that only its scheme understands.
-/

namespace TransferRelay.Host

/-! ## Addresses -/

/-- The labels of a name. A point at the end begins no label. -/
def parts (name : List Char) : List (List Char) :=
  let parts := Text.splitOn '.' name
  match parts.reverse with
  | [] :: rest => if rest.isEmpty then parts else rest.reverse
  | _ => parts

/-- A part of an IPv4 address: hexadecimal behind `0x`, octal behind `0`, else decimal. -/
def ipv4Part? (part : List Char) : Option Nat :=
  let read (radix : Nat) (ds : List Char) : Option Nat :=
    (ds.mapM (Text.digitOf? radix)).map (Text.ofDigits radix)
  match part with
  | [] => none
  | '0' :: 'x' :: ds => read 16 ds
  | '0' :: 'X' :: ds => read 16 ds
  | '0' :: d :: ds => read 8 (d :: ds)
  | ds => read 10 ds

/-- Whether the last label of a name is a number. -/
def endsInNumber (name : List Char) : Bool :=
  match (parts name).getLast? with
  | none => false
  | some last => !last.isEmpty && (last.all Char.isDigit || (ipv4Part? last).isSome)

/-- Whether numbers make an IPv4 address: all but the last fit a byte, the last fills the rest. -/
def fitsIpv4 : (room : Nat) → List Nat → Bool
  | _, [] => false
  | room, [last] => last < Nat.pow 256 room
  | room, n :: rest => n < 256 && fitsIpv4 (room - 1) rest

/-- Whether a name that ends in a number is an IPv4 address. -/
def isIpv4 (name : List Char) : Bool :=
  match (parts name).mapM ipv4Part? with
  | some ns => ns.length ≤ 4 && fitsIpv4 4 ns
  | none => false

/-- Whether text between brackets is an IPv6 address. -/
def isIpv6 (cs : List Char) : Bool :=
  match SocketAddress.ipv6 cs with
  | some (_, []) => true
  | _ => false

/-! ## Names -/

/-- Whether a character stands in no host. -/
def isForbidden (c : Char) : Bool :=
  c.toNat = 0 ||
    c ∈ ['\t', '\n', '\r', ' ', '#', '/', ':', '<', '>', '?', '@', '[', '\\', ']', '^', '|']

/-- Whether a character stands in no domain name. -/
def isForbiddenInDomain (c : Char) : Bool :=
  isForbidden c || c.toNat ≤ 0x1F || c = '%' || c.toNat = 0x7F

/-- The value of a byte that is a hexadecimal digit. -/
def hexByte? (b : UInt8) : Option Nat :=
  Text.digitOf? 16 (Char.ofNat b.toNat)

/-- Bytes with their escapes resolved: a percent sign and two hexadecimal digits are a byte. -/
def resolveEscapes : Bytes → Bytes
  | 0x25 :: high :: low :: rest =>
    match hexByte? high, hexByte? low with
    | some h, some l => UInt8.ofNat (h * 16 + l) :: resolveEscapes rest
    | _, _ => 0x25 :: resolveEscapes (high :: low :: rest)
  | b :: rest => b :: resolveEscapes rest
  | [] => []

/-- The text of a host with its escapes resolved, if it is text at all. -/
def unescape? (cs : List Char) : Option (List Char) :=
  (String.fromUTF8? ⟨(resolveEscapes (Text.utf8Chars cs)).toArray⟩).map String.toList

/-- Whether a text is a domain name that is no number, or an IPv4 address. -/
def isDomain (cs : List Char) : Bool :=
  match (unescape? cs).bind (DomainName.labels? isForbiddenInDomain) with
  | none => false
  | some labels =>
    let name := List.intercalate ['.'] labels
    !name.isEmpty && (!endsInNumber name || isIpv4 name)

/-- Whether a text is an IPv6 address in brackets; `other` decides on a text that is in none. -/
def bracketedOr (other : List Char → Bool) : List Char → Bool
  | '[' :: rest =>
    match rest.reverse with
    | ']' :: inner => isIpv6 inner.reverse
    | _ => false
  | cs => other cs

/-- Whether a text is a host whose name is looked up. -/
def isDomainOrAddress (cs : List Char) : Bool :=
  bracketedOr isDomain cs

/-- Whether a text is a host that only its scheme understands. -/
def isOpaque (cs : List Char) : Bool :=
  bracketedOr (fun cs => !cs.any isForbidden) cs

end TransferRelay.Host
