import WasmDeploy.Number.Binary64

/-!
# Times, durations and counts

This file gives the numbers that clocks, durations and asked-for counts are made of: exact ones, on which
arithmetic loses nothing, and binary64 ones. An exact number next to a binary64 one is rounded for a sum or
a difference but compared exactly.
-/

namespace WasmDeploy

/-- A time, a duration in seconds, or a count. -/
inductive Measure where
  | exact (value : Rat)
  | float (value : Float)
deriving Inhabited

namespace Measure

/-- A whole number. -/
def whole (value : Int) : Measure :=
  .exact value

/-- The nearest binary64 number. -/
def toFloat : Measure → Float
  | .exact value => Number.ofQuotient (value < 0) value.num.natAbs value.den
  | .float value => value

/-- The nearest binary64 number, unless the measure is past all finite ones. -/
def toFloat? : Measure → Option Float
  | .exact value =>
      if Number.nearestBits value.num.natAbs value.den < 2047 * Number.leadingBit then
        some (toFloat (.exact value))
      else none
  | .float value => some value

/-- A sum, exact if both parts are. There is none if an exact part has to be rounded but is past all
finite binary64 numbers. -/
def add? : Measure → Measure → Option Measure
  | .exact left, .exact right => some (.exact (left + right))
  | left, right => do
      let first ← left.toFloat?
      let second ← right.toFloat?
      return .float (first + second)

/-- Exact measures have an exact sum. -/
@[simp] theorem add?_exact (left right : Rat) :
    add? (.exact left) (.exact right) = some (.exact (left + right)) := rfl

/-- A difference, exact if both parts are. -/
def sub : Measure → Measure → Measure
  | .exact left, .exact right => .exact (left - right)
  | left, right => .float (left.toFloat - right.toFloat)

/-- How a measure compares with another; the float that is no number compares with none. -/
def compare? (left right : Measure) : Option Ordering :=
  let place : Measure → Option (Int × Rat)
    | .exact value => some (0, value)
    | .float value =>
        match Number.Binary64.ofFloat value with
        | .nan => none
        | .infinite negative => some (if negative then -1 else 1, 0)
        | number => (number.rational?).map ((0, ·))
  match place left, place right with
  | some (leftEnd, leftValue), some (rightEnd, rightValue) =>
      some <| if leftEnd < rightEnd then .lt else if rightEnd < leftEnd then .gt
        else if leftValue < rightValue then .lt else if rightValue < leftValue then .gt else .eq
  | _, _ => none

/-- Whether a measure is below another. -/
def isLess (left right : Measure) : Bool :=
  left.compare? right == some .lt

/-- Whether a measure is at most another. -/
def isAtMost (left right : Measure) : Bool :=
  left.compare? right == some .lt || left.compare? right == some .eq

/-- Whether a measure is zero or below. -/
def isNonPositive (value : Measure) : Bool :=
  value.isAtMost (whole 0)

/-- The shorter of two durations, the first one unless the second one is below it. -/
def shorter (first second : Measure) : Measure :=
  if second.isLess first then second else first

end Measure

end WasmDeploy
