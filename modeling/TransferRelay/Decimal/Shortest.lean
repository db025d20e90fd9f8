import TransferRelay.Binary64

/-!
# Shortest decimals

`Decimal.shortest` finds the decimal with the fewest digits that still rounds to a given positive
number of double precision; of several it takes the nearest, and of two equally near ones the one
with the even last digit.

The decimals that round to a number fill the interval between the midpoints to its neighbours. The
midpoints belong to it when the number has an even bit pattern. A grid of decimals meets the
interval only if one of the two grid points around the number does, so two candidates per grid are
enough.
-/

namespace TransferRelay

/-- The decimal `digits * 10 ^ exponent`. -/
structure Decimal where
  digits : Nat
  exponent : Int
deriving DecidableEq, Repr

namespace Decimal

/-- The interval of fractions that round to a number: numerators over a common denominator. -/
structure Interval where
  value : Nat
  low : Nat
  high : Nat
  den : Nat
  closed : Bool

/-- The interval of a positive number. Below a power of two the gap to the next lower number is
half as wide. -/
def Interval.of (x : Binary64) : Interval :=
  let gap := Nat.pow 2 x.scale
  let below := if x.significand = Nat.pow 2 52 ∧ 0 < x.scale then gap else 2 * gap
  ⟨4 * x.units, 4 * x.units - below, 4 * x.units + 2 * gap, 4 * Binary64.unit,
    x.magnitude % 2 = 0⟩

/-- Whether the fraction `num / den` lies in the interval. -/
def Interval.mem (i : Interval) (num den : Nat) : Bool :=
  let point := num * i.den
  let low := i.low * den
  let high := i.high * den
  (low < point && point < high) || (i.closed && (point == low || point == high))

/-- The fraction that the grid point `n * 10 ^ e` is. -/
def gridPoint (n : Nat) (e : Int) : Nat × Nat :=
  (n * Nat.pow 10 e.toNat, Nat.pow 10 (-e).toNat)

/-- The best point of the grid of multiples of `10 ^ e` in the interval, if there is one. -/
def Interval.onGrid (i : Interval) (e : Int) : Option Nat :=
  let up := Nat.pow 10 e.toNat
  let down := Nat.pow 10 (-e).toNat
  let n := i.value * down / (i.den * up)
  let twice := 2 * (i.value * down % (i.den * up))
  let inside (k : Nat) : Bool := 0 < k && i.mem (gridPoint k e).1 (gridPoint k e).2
  let nearest := if twice < i.den * up then n else if i.den * up < twice then n + 1 else n + n % 2
  let other := if nearest = n then n + 1 else n
  if inside nearest then some nearest else if inside other then some other else none

/-- The exponent of the leading decimal digit of `num / den`, at most one too large. -/
def leading (num den : Nat) : Int :=
  let digits (k : Nat) : Int := (Nat.toDigits 10 k).length
  digits num - digits den

/-- Tries the grids from the coarse to the fine. -/
def search (i : Interval) : (tries : Nat) → (e : Int) → Option Decimal
  | 0, _ => none
  | tries + 1, e =>
    match i.onGrid e with
    | some n => some ⟨n, e⟩
    | none => search i tries (e - 1)

/-- The decimal without trailing zeros in its digits. -/
def normalize : (tries : Nat) → Decimal → Decimal
  | 0, d => d
  | tries + 1, d =>
    if d.digits % 10 = 0 ∧ 0 < d.digits then normalize tries ⟨d.digits / 10, d.exponent + 1⟩ else d

/-- The shortest decimal of a number; zero has none. Seventeen digits tell all numbers apart, and
the search starts at most two grids above the first of them. -/
def shortest (x : Binary64) : Option Decimal :=
  if x.magnitude = 0 then none
  else
    let i := Interval.of x
    (search i 20 (leading i.value i.den + 1)).map (normalize 20)

end Decimal

end TransferRelay
