import TransferRelay.Decimal.Shortest
import TransferRelay.Json.Numeral

/-!
# Numbers of JSON

A `Json.Number` is a whole number that fits 64 bits, with or without a sign, or a finite number of
double precision. `Number.ofNumeral?` reads the numeral of a text and `Number.text` writes a number.

* A numeral without point and exponent stays whole while it fits; a lone `-0` is the double -0.0.
* Any other numeral is a double. Its digits are collected while they fit 64 bits. Digits before
  the point that no longer fit only raise the exponent, digits behind it are dropped. The collected
  digits are rounded, then multiplied or divided by a rounded power of ten.
-/

namespace TransferRelay.Json

/-- A number of JSON. -/
inductive Number
  | whole (value : Int) (range : -0x8000000000000000 ≤ value ∧ value < 0x10000000000000000)
  | double (value : Binary64)
deriving DecidableEq

namespace Number

/-! ## Reading -/

/-- Appends digits to a number while it fits 64 bits, and returns those left over. -/
def collect (n : Nat) : List Nat → Nat × List Nat
  | [] => (n, [])
  | d :: ds => if n * 10 + d < Nat.pow 2 64 then collect (n * 10 + d) ds else (n, d :: ds)

/-- The largest power of ten that a double holds. -/
def maxPower : Nat := 308

/-- A power of ten, rounded. -/
def power (k : Nat) : Option Binary64 :=
  Binary64.ofNat? (Nat.pow 10 k)

/-- A double times a power of ten. -/
def scaleUp (x : Binary64) (k : Nat) : Option Binary64 :=
  if k ≤ maxPower then (power k).bind x.mulAbs
  else if x.magnitude = 0 then some x
  else none

/-- A double divided several times by the largest power of ten. -/
def shrink : (times : Nat) → Binary64 → Option Binary64
  | 0, x => some x
  | times + 1, x =>
    if x.magnitude = 0 then some x
    else ((power maxPower).bind x.divAbs).bind (shrink times)

/-- A double divided by a power of ten, in steps of the largest one. -/
def scaleDown (x : Binary64) (k : Nat) : Option Binary64 :=
  let times := (k - 1) / maxPower
  (shrink times x).bind fun y => (power (k - maxPower * times)).bind y.divAbs

/-- A double times a power of ten with any exponent. -/
def scale (x : Binary64) (e : Int) : Option Binary64 :=
  if 0 ≤ e then scaleUp x e.toNat else scaleDown x (-e).toNat

/-- A magnitude with a sign. -/
def signed (negative : Bool) (x : Binary64) : Number :=
  .double { x with negative := negative }

/-- The double that a numeral denotes. -/
def doubleOf (n : Numeral) : Option Number :=
  let (digits, surplus) := collect 0 n.integer
  let (digits, dropped) := collect digits n.fraction
  let shift : Int := surplus.length - (n.fraction.length - dropped.length : Nat)
  let power : Int := n.exponent.getD 0
  let e := if n.exponentNegative then -power else power
  (Binary64.ofNat? digits).bind fun x => (scale x (shift + e)).map (signed n.negative)

/-- The whole number with a sign, if it is one of JSON. -/
def wholeOf (negative : Bool) (n : Nat) : Option Number :=
  let value : Int := if negative then -n else n
  if h : -0x8000000000000000 ≤ value ∧ value < 0x10000000000000000 then some (.whole value h)
  else none

/-- The number that a numeral denotes, if a double can hold it. -/
def ofNumeral? (n : Numeral) : Option Number :=
  if n.fraction.isEmpty && n.exponent.isNone then
    match collect 0 n.integer with
    | (digits, []) =>
      if n.negative && digits = 0 then some (.double (.zero true))
      else
        match wholeOf n.negative digits with
        | some number => some number
        | none => doubleOf n
    | _ => doubleOf n
  else doubleOf n

/-- A natural number, if it fits 64 bits. -/
def ofNat? (n : Nat) : Option Number :=
  wholeOf false n

/-- The natural number that a number is. Doubles are none, whatever their value. -/
def toNat? : Number → Option Nat
  | .whole value _ => if 0 ≤ value then some value.toNat else none
  | .double _ => none

/-! ## Writing -/

/-- A positive double is written without exponent from `10 ^ -5` on and below `10 ^ 16`, with at
least one digit behind the point. -/
def positional (digits : List Char) (point : Int) : Option (List Char) :=
  let count : Int := digits.length
  if 16 < point then none
  else if count ≤ point then
    some (digits ++ List.replicate (point - count).toNat '0' ++ ['.', '0'])
  else if 0 < point then
    some (digits.take point.toNat ++ '.' :: digits.drop point.toNat)
  else if -5 < point then
    some ('0' :: '.' :: List.replicate (-point).toNat '0' ++ digits)
  else none

/-- One digit, the others behind a point, and the exponent with its sign. -/
def scientific (digits : List Char) (point : Int) : List Char :=
  let e := point - 1
  let mark := (if e < 0 then ['-'] else ['+']) ++ Nat.toDigits 10 e.natAbs
  match digits with
  | [] => []
  | [d] => d :: 'e' :: mark
  | d :: ds => d :: '.' :: ds ++ 'e' :: mark

/-- The text of a decimal with a point or an exponent. -/
def decimalText (d : Decimal) : List Char :=
  let digits := Nat.toDigits 10 d.digits
  let point : Int := digits.length + d.exponent
  (positional digits point).getD (scientific digits point)

/-- The text of a double: its shortest decimal, or that of zero. -/
def doubleText (x : Binary64) : String :=
  let sign := if x.negative then ['-'] else []
  let body := ((Decimal.shortest x).map decimalText).getD ['0', '.', '0']
  String.ofList (sign ++ body)

/-- The text of a number. -/
def text : Number → String
  | .whole value _ => toString value
  | .double x => doubleText x

end Number

end TransferRelay.Json
