/-!
# Binary64 numbers, exactly

This file opens a binary64 number into sign, significand and exponent, and closes a quotient of natural
numbers into the nearest binary64 number, a tie going to the even significand. Comparison, decimal text and
reading are built on these two, in exact arithmetic.
-/

namespace WasmDeploy.Number

/-- What the bits of a binary64 number stand for; a finite number is `significand * 2 ^ exponent`. -/
inductive Binary64 where
  | nan
  | infinite (negative : Bool)
  | finite (negative : Bool) (significand : Nat) (exponent : Int)
deriving DecidableEq, Repr

/-- The weight of the bit before the stored fraction of a significand, and of the last exponent bit. -/
def leadingBit : Nat := 0x10000000000000

/-- The weight of the sign bit. -/
def signBit : Nat := 0x8000000000000000

/-- The number that some bits stand for. -/
def Binary64.ofBits (bits : Nat) : Binary64 :=
  let negative := bits / signBit % 2 == 1
  let biased : Nat := bits / leadingBit % 2048
  let fraction := bits % leadingBit
  if biased = 2047 then
    if fraction = 0 then .infinite negative else .nan
  else if biased = 0 then .finite negative fraction (-1074)
  else .finite negative (leadingBit + fraction) ((biased : Int) - 1075)

/-- The number that a float stands for. -/
def Binary64.ofFloat (value : Float) : Binary64 :=
  .ofBits value.toBits.toNat

/-- A natural number scaled by a power of a base, as a numerator and a denominator. -/
def scaled (base value : Nat) (exponent : Int) : Nat × Nat :=
  if 0 ≤ exponent then (value * Nat.pow base exponent.toNat, 1)
  else (value, Nat.pow base (-exponent).toNat)

/-- A quotient rounded to the nearest natural number, a half going to the even neighbour. -/
def roundQuotient (numerator denominator : Nat) : Nat :=
  let quotient := numerator / denominator
  let twice := 2 * (numerator % denominator)
  if twice < denominator ∨ (twice = denominator ∧ quotient % 2 = 0) then quotient else quotient + 1

/-- The greatest exponent such that the power of two does not exceed the quotient of two positive
numbers. -/
def binaryExponent (numerator denominator : Nat) : Int :=
  let estimate : Int := (Nat.log2 numerator : Int) - Nat.log2 denominator
  let (power, unit) := scaled 2 denominator estimate
  if power ≤ numerator * unit then estimate else estimate - 1

/-- The bits of the binary64 number nearest to a quotient, sign apart. A quotient past the largest finite
number gives infinity. -/
def nearestBits (numerator denominator : Nat) : Nat :=
  if numerator = 0 then 0 else
    let exponent := max (binaryExponent numerator denominator - 52) (-1074)
    let (shifted, unit) := scaled 2 numerator (-exponent)
    let significand := roundQuotient shifted (unit * denominator)
    min ((exponent + 1074).toNat * leadingBit + significand) (2047 * leadingBit)

/-- The float nearest to a signed quotient. -/
def ofQuotient (negative : Bool) (numerator denominator : Nat) : Float :=
  Float.ofBits <| UInt64.ofNat <|
    (if negative then signBit else 0) + nearestBits numerator denominator

/-- Infinity of either sign. -/
def infinity (negative : Bool) : Float :=
  Float.ofBits <| UInt64.ofNat <| (if negative then signBit else 0) + 2047 * leadingBit

/-- The exact value of a finite number. -/
def Binary64.rational? : Binary64 → Option Rat
  | .finite negative significand exponent =>
      let (numerator, denominator) := scaled 2 significand exponent
      let magnitude : Rat := mkRat numerator denominator
      some (if negative then -magnitude else magnitude)
  | _ => none

end WasmDeploy.Number
