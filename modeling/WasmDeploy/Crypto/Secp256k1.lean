import WasmDeploy.Bytes

/-!
# The curve secp256k1

This file gives the points of the curve `y ^ 2 = x ^ 3 + 7` over the field of the integers modulo a prime,
with their addition and their multiples.
-/

namespace WasmDeploy.Crypto.Secp256k1

/-- The prime of the field. -/
def fieldPrime : Nat :=
  0xfffffffffffffffffffffffffffffffffffffffffffffffffffffffefffffc2f

/-- The order of the generator. -/
def order : Nat :=
  0xfffffffffffffffffffffffffffffffebaaedce6af48a03bbfd25e8cd0364141

/-- The factor of the value that the division steps started with, once they arrive at zero. -/
def inverseFrom (current next : Nat) (currentFactor nextFactor : Int) : Int :=
  if next = 0 then currentFactor
  else inverseFrom next (current % next) nextFactor
    (currentFactor - (current / next : Nat) * nextFactor)
termination_by next
decreasing_by exact Nat.mod_lt _ (by omega)

/-- The inverse of a value modulo a number that has no divisor in common with it. -/
def inverse (value modulus : Nat) : Nat :=
  (inverseFrom (value % modulus) modulus 1 0 % modulus).toNat

/-- A field element minus another one. -/
def minus (left right : Nat) : Nat :=
  (left + fieldPrime - right % fieldPrime) % fieldPrime

/-- A power of a field element, by squaring. -/
def power (base exponent : Nat) : Nat :=
  if exponent = 0 then 1
  else
    let root := power base (exponent / 2)
    let square := root * root % fieldPrime
    if exponent % 2 = 0 then square else square * base % fieldPrime
termination_by exponent
decreasing_by omega

/-- A point of the curve. -/
inductive Point where
  | infinity
  | affine (x y : Nat)
deriving DecidableEq, Repr, Inhabited

namespace Point

/-- The third point, reflected, of the line with a slope through two points. -/
def alongSlope (slope x₁ y₁ x₂ : Nat) : Point :=
  let x := minus (minus (slope * slope) x₁) x₂
  .affine x (minus (slope * minus x₁ x) y₁)

/-- A point added to itself. -/
def double : Point → Point
  | .infinity => .infinity
  | .affine x y =>
      if y = 0 then .infinity
      else alongSlope (3 * x * x * inverse (2 * y) fieldPrime % fieldPrime) x y x

/-- The sum of two points. -/
def add : Point → Point → Point
  | .infinity, right => right
  | left, .infinity => left
  | .affine x₁ y₁, .affine x₂ y₂ =>
      if x₁ = x₂ then
        if y₁ = y₂ then double (.affine x₁ y₁) else .infinity
      else alongSlope (minus y₂ y₁ * inverse (minus x₂ x₁) fieldPrime % fieldPrime) x₁ y₁ x₂

/-- The negative of a point. -/
def neg : Point → Point
  | .infinity => .infinity
  | .affine x y => .affine x (minus 0 y)

/-- A multiple of a point, by doubling and adding. -/
def multiple (count : Nat) (point : Point) : Point :=
  if count = 0 then .infinity
  else
    let even := double (multiple (count / 2) point)
    if count % 2 = 0 then even else add even point
termination_by count
decreasing_by omega

/-- The point with an abscissa whose ordinate is even or odd as given. The prime is three modulo four, so
a power of a square is one of its roots. -/
def ofAbscissa? (x parity : Nat) : Option Point :=
  let square := (x * x * x + 7) % fieldPrime
  let root := power square ((fieldPrime + 1) / 4)
  if root * root % fieldPrime = square then
    some (.affine x (if root % 2 = parity then root else minus 0 root))
  else none

/-- The generator. -/
def generator : Point :=
  .affine 0x79be667ef9dcbbac55a06295ce870b07029bfcdb2dce28d959f2815b16f81798
    0x483ada7726a3c4655da4fbfc0e1108a8fd17b448a68554199c47d08ffb10d4b8

/-- The coordinates of a point; those of infinity are zero. -/
def coordinates : Point → Nat × Nat
  | .infinity => (0, 0)
  | .affine x y => (x, y)

/-- The coordinates of a point as bytes, 32 for each. -/
def toBytes (point : Point) : Bytes :=
  Bytes.ofNumberPadded 32 point.coordinates.1 ++ Bytes.ofNumberPadded 32 point.coordinates.2

end Point

end WasmDeploy.Crypto.Secp256k1
