import WasmDeploy.Number.Binary64

/-!
# Decimal text of binary64 numbers

This file writes a float in decimal in two ways: with the fewest digits that read back as the same float,
and rounded to six significant digits. Both pick digits in exact arithmetic and then lay them out by one
rule, positional for moderate exponents and with an exponent otherwise.
-/

namespace WasmDeploy.Number

/-- A positive decimal number: its digits, the first before the point, times ten to the exponent. -/
structure Scientific where
  digits : List Char
  exponent : Int
deriving DecidableEq, Repr

/-- The number `value * 10 ^ exponent` without trailing zeros among its digits. -/
def Scientific.ofScaled (value : Nat) (exponent : Int) : Scientific :=
  let written := Nat.toDigits 10 value
  let kept := (written.reverse.dropWhile (· == '0')).reverse
  { digits := kept, exponent := exponent + (written.length - 1 : Nat) }

/-- The greatest exponent such that the power of ten does not exceed the quotient of two positive
numbers. -/
def decimalExponent (numerator denominator : Nat) : Int :=
  let estimate : Int := ((Nat.toDigits 10 numerator).length : Int) -
    (Nat.toDigits 10 denominator).length
  let (power, unit) := scaled 10 denominator estimate
  if power ≤ numerator * unit then estimate else estimate - 1

/-- The grid value nearest to a quotient, on the grid of multiples of a power of ten. -/
def onGrid (numerator denominator : Nat) (grid : Int) : Nat :=
  let (shifted, unit) := scaled 10 numerator (-grid)
  roundQuotient shifted (unit * denominator)

/-- A quotient rounded to a count of significant digits. -/
def Scientific.rounded (count : Nat) (numerator denominator : Nat) : Scientific :=
  let grid := decimalExponent numerator denominator - (count - 1 : Nat)
  .ofScaled (onGrid numerator denominator grid) grid

/-- The bits of the float nearest to `value * 10 ^ exponent`. -/
def bitsOfScaled (value : Nat) (exponent : Int) : Nat :=
  let (numerator, denominator) := scaled 10 value exponent
  nearestBits numerator denominator

/-- A neighbour of the quotient on a decimal grid that reads back as the given bits, the nearer one
first. -/
def readsBack? (bits numerator denominator : Nat) (grid : Int) : Option Nat :=
  let near := onGrid numerator denominator grid
  let (shifted, unit) := scaled 10 numerator (-grid)
  let floor := shifted / (unit * denominator)
  let far := if near = floor then floor + 1 else floor
  [near, far].find? fun candidate => bitsOfScaled candidate grid == bits

/-- The fewest digits that read back as the given bits, trying up to `left` more digits after `count`. -/
def shortestFrom (bits numerator denominator : Nat) (exponent : Int) :
    (left count : Nat) → Scientific
  | 0, count => .rounded count numerator denominator
  | left + 1, count =>
      match readsBack? bits numerator denominator (exponent - (count - 1 : Nat)) with
      | some value => .ofScaled value (exponent - (count - 1 : Nat))
      | none => shortestFrom bits numerator denominator exponent left (count + 1)

/-- The fewest digits that read back as the float `significand * 2 ^ exponent`; seventeen always do. -/
def Scientific.shortest (significand : Nat) (exponent : Int) : Scientific :=
  let (numerator, denominator) := scaled 2 significand exponent
  shortestFrom (nearestBits numerator denominator) numerator denominator
    (decimalExponent numerator denominator) 16 1

/-- How digits are laid out: positionally for exponents from `-4` up to a bound, and with a mark of the
fraction kept on whole numbers or not. -/
structure Layout where
  positionalBelow : Int
  marksWhole : Bool

/-- An exponent with its sign and at least two digits. -/
def exponentText (exponent : Int) : List Char :=
  let digits := Nat.toDigits 10 exponent.natAbs
  'e' :: (if exponent < 0 then '-' else '+') :: (if digits.length < 2 then '0' :: digits else digits)

/-- A positive decimal number as text. -/
def Layout.write (layout : Layout) (number : Scientific) : List Char :=
  if -4 ≤ number.exponent ∧ number.exponent < layout.positionalBelow then
    if number.exponent < 0 then
      '0' :: '.' :: List.replicate ((-number.exponent).toNat - 1) '0' ++ number.digits
    else
      let wholeLength := number.exponent.toNat + 1
      let whole := number.digits.take wholeLength
      let fraction := number.digits.drop wholeLength
      whole ++ List.replicate (wholeLength - whole.length) '0' ++
        (if fraction.isEmpty then if layout.marksWhole then ['.', '0'] else [] else '.' :: fraction)
  else
    let (lead, rest) := (number.digits.take 1, number.digits.drop 1)
    lead ++ (if rest.isEmpty then [] else '.' :: rest) ++ exponentText number.exponent

/-- Floats in values and messages are positional below `10 ^ 16`, and a whole one ends in `.0`. -/
def valueLayout : Layout := ⟨16, true⟩

/-- Durations in messages are positional below `10 ^ 6`, and a whole one has no fraction. -/
def durationLayout : Layout := ⟨6, false⟩

/-- A float as text, given how its digits are chosen and laid out. -/
def textOf (layout : Layout) (choose : Nat → Int → Scientific) (value : Float) : String :=
  match Binary64.ofFloat value with
  | .nan => "nan"
  | .infinite negative => if negative then "-inf" else "inf"
  | .finite negative significand exponent =>
      let magnitude :=
        if significand = 0 then if layout.marksWhole then ['0', '.', '0'] else ['0']
        else layout.write (choose significand exponent)
      String.ofList (if negative then '-' :: magnitude else magnitude)

/-- The shortest text that reads back as the float. -/
def shortestText (value : Float) : String :=
  textOf valueLayout Scientific.shortest value

/-- The text of a float rounded to six significant digits. -/
def sixDigitText (value : Float) : String :=
  textOf durationLayout
    (fun significand exponent =>
      let (numerator, denominator) := scaled 2 significand exponent
      .rounded 6 numerator denominator)
    value

end WasmDeploy.Number
