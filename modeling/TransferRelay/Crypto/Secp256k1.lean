import TransferRelay.BigEndian

/-!
# The curve secp256k1

Points of `y² = x³ + 7` over the field of `2^256 - 2^32 - 977` elements, with the group law in
affine coordinates. `publicKey` is the multiple of the base point that a private key stands for.
-/

namespace TransferRelay.Secp256k1

/-- The size of the field. -/
def fieldSize : Nat := Nat.pow 2 256 - Nat.pow 2 32 - 977

/-- The order of the base point. -/
def order : Nat := 0xfffffffffffffffffffffffffffffffebaaedce6af48a03bbfd25e8cd0364141

/-- A point of the curve. -/
inductive Point
  | infinity
  | affine (x y : Nat)
deriving DecidableEq, Repr

/-- The base point. -/
def base : Point :=
  .affine 0x79be667ef9dcbbac55a06295ce870b07029bfcdb2dce28d959f2815b16f81798
    0x483ada7726a3c4655da4fbfc0e1108a8fd17b448a68554199c47d08ffb10d4b8

/-- A power in the field. -/
def power (b e : Nat) : Nat :=
  if e = 0 then 1
  else
    let half := power (b * b % fieldSize) (e / 2)
    if e % 2 = 1 then half * b % fieldSize else half
termination_by e
decreasing_by omega

/-- The inverse of a field element other than zero. -/
def inverse (a : Nat) : Nat :=
  power a (fieldSize - 2)

/-- The difference of two field elements. -/
def sub (a b : Nat) : Nat :=
  (a + (fieldSize - b % fieldSize)) % fieldSize

/-- The third point on the line of a slope through two points, reflected in the axis. -/
def chord (slope x₁ y₁ x₂ : Nat) : Point :=
  let x := sub (slope * slope) (x₁ + x₂)
  .affine x (sub (slope * sub x₁ x) y₁)

/-- The group law. -/
def add : Point → Point → Point
  | .infinity, q => q
  | p, .infinity => p
  | .affine x₁ y₁, .affine x₂ y₂ =>
    if x₁ = x₂ then
      if (y₁ + y₂) % fieldSize = 0 then .infinity
      else chord (3 * x₁ * x₁ * inverse (2 * y₁) % fieldSize) x₁ y₁ x₂
    else chord (sub y₂ y₁ * inverse (sub x₂ x₁) % fieldSize) x₁ y₁ x₂

/-- A multiple of a point. -/
def multiply (k : Nat) (p : Point) : Point :=
  if k = 0 then .infinity
  else
    let rest := multiply (k / 2) (add p p)
    if k % 2 = 1 then add p rest else rest
termination_by k
decreasing_by omega

/-- The public key of a private key, as the 64 bytes of its coordinates. -/
def publicKey (key : Nat) : Bytes :=
  match multiply key base with
  | .infinity => []
  | .affine x y => BigEndian.ofNat 32 x ++ BigEndian.ofNat 32 y

end TransferRelay.Secp256k1
