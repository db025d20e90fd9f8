/-!
# Finite double-precision numbers

A `Binary64` is a sign and the other 63 bits of a finite number of the binary64 format, so equality
is equality of bit patterns. Arithmetic is exact arithmetic on naturals, rounded once: `roundRatio`
gives the number nearest to a fraction and takes the one with the even bit pattern when two are
equally near.
-/

namespace TransferRelay

/-- The first magnitude that is not finite. -/
def Binary64.infinity : Nat := 2047 * Nat.pow 2 52

/-- A finite double-precision number. -/
structure Binary64 where
  negative : Bool
  magnitude : Nat
  finite : magnitude < Binary64.infinity
deriving DecidableEq

namespace Binary64

@[ext]
theorem ext {x y : Binary64} (hsign : x.negative = y.negative)
    (hmag : x.magnitude = y.magnitude) : x = y := by
  cases x; cases y; cases hsign; cases hmag; rfl

/-- Zero of either sign. -/
def zero (negative : Bool) : Binary64 :=
  ⟨negative, 0, by decide⟩

/-! ## Exact values

The value of a magnitude is `significand * 2 ^ scale / 2 ^ 1074`: every finite number is a whole
number of the smallest positive one. -/

/-- The whole number in front of the power of two. -/
def significand (x : Binary64) : Nat :=
  if x.magnitude < Nat.pow 2 52 then x.magnitude
  else Nat.pow 2 52 + x.magnitude % Nat.pow 2 52

/-- The power of two, counted from the smallest. -/
def scale (x : Binary64) : Nat :=
  x.magnitude / Nat.pow 2 52 - 1

/-- The denominator of all finite numbers. -/
def unit : Nat := Nat.pow 2 1074

/-- The absolute value, as a multiple of the smallest positive number. -/
def units (x : Binary64) : Nat :=
  x.significand * Nat.pow 2 x.scale

/-! ## Rounding -/

/-- The whole number nearest to a fraction, of two equally near ones the even one. -/
def roundDiv (num den : Nat) : Nat :=
  let q := num / den
  let twice := 2 * (num % den)
  if twice < den then q
  else if den < twice then q + 1
  else q + q % 2

/-- The least `scale` at which a fraction of units needs no more than 53 binary digits. -/
def scaleFor (num den : Nat) : Nat :=
  let guess := num.log2 - den.log2 - 53
  if num < den * Nat.pow 2 (guess + 53) then guess else guess + 1

/-- The finite number nearest to a non-negative fraction, if there is one. -/
def roundRatio (num den : Nat) : Option Binary64 :=
  let num := num * unit
  let scale := scaleFor num den
  let magnitude := scale * Nat.pow 2 52 + roundDiv num (den * Nat.pow 2 scale)
  if h : magnitude < infinity then some ⟨false, magnitude, h⟩ else none

/-- The finite number nearest to a natural number, if there is one. -/
def ofNat? (n : Nat) : Option Binary64 :=
  roundRatio n 1

/-- The product of two magnitudes, rounded. -/
def mulAbs (x y : Binary64) : Option Binary64 :=
  roundRatio (x.units * y.units) (unit * unit)

/-- The quotient of two magnitudes, rounded. -/
def divAbs (x y : Binary64) : Option Binary64 :=
  if y.units = 0 then none else roundRatio x.units y.units

end Binary64

end TransferRelay
