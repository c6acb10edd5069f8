import WasmDeploy.Fault
import WasmDeploy.Number.Read

/-!
# Arithmetic on unchecked values

This file compares, subtracts and writes values that may turn out to be no numbers. Each operation says which
values it refuses. Between integers all of them are exact. A number that has too many digits to be written is
refused as well where a message would show it.
-/

namespace WasmDeploy

namespace Datum

mutual

/-- How two values compare under an operator. Numbers compare with numbers, texts with texts, bytes with bytes
and lists with lists; the float that is no number compares with none. -/
def order (operator : String) : (left right : Datum) → Except Fault (Option Ordering)
  | .text first, .text second =>
      .ok (some (if first = second then .eq else if first.isBefore second then .lt else .gt))
  | .bytes first, .bytes second =>
      .ok (some (if first = second then .eq else if first < second then .lt else .gt))
  | .list first, .list second => orderItems operator first second
  | left, right =>
      if left.number?.isSome && right.number?.isSome then .ok (left.compare? right)
      else reject (.incomparable operator left.kindName right.kindName)

/-- How two lists compare: as their first items that differ do, or as their lengths if there are none. -/
def orderItems (operator : String) : (left right : List Datum) → Except Fault (Option Ordering)
  | [], [] => .ok (some .eq)
  | [], _ => .ok (some .lt)
  | _, [] => .ok (some .gt)
  | left :: lefts, right :: rights =>
      if left.same right then orderItems operator lefts rights else order operator left right

end

/-- The greater of two values: the first one unless the second one is above it. -/
def larger (first second : Datum) : Except Fault Datum := do
  let order ← second.order ">" first
  return if order = some .gt then second else first

/-- The nearest float of a number. -/
def nearestFloat (value : Datum) : Except Fault Float :=
  match value.number? with
  | none => reject (.notNumber value.kindName)
  | some number =>
      match number.toFloat? with
      | some nearest => .ok nearest
      | none => reject .beyondFloat

/-- A difference, exact between integers. -/
def minus (left right : Datum) : Except Fault Datum :=
  match left.integer?, right.integer? with
  | some first, some second => .ok (.int (first - second))
  | _, _ => do
      let first ← left.nearestFloat
      let second ← right.nearestFloat
      return .float (first - second)

/-- How far a number is above another one, and zero if it is not. -/
def excess (value base : Datum) : Except Fault Datum := do
  let difference ← value.minus base
  return if difference.isPositive then difference else .int 0

/-- An integer as text. One with more digits than can be read back is not written. -/
def integerText (value : Int) : Except Fault String :=
  if Nat.pow 10 Number.maxIntegerDigits ≤ value.natAbs then reject .tooManyDigits
  else .ok (toString value)

/-- The whole part of a number as text. -/
def wholeText (value : Datum) : Except Fault String :=
  match value with
  | .float number =>
      match Number.Binary64.ofFloat number with
      | .nan => reject .nanNotWhole
      | .infinite _ => reject .infinityNotWhole
      | finite =>
          let exact := finite.rational?.getD 0
          integerText (exact.num.tdiv exact.den)
  | other =>
      match other.integer? with
      | some number => integerText number
      | none => reject (.notNumber other.kindName)

/-- The plain text of a value. -/
def plainText : Datum → Except Fault String
  | .int value => integerText value
  | value => .ok value.plain

mutual

/-- Whether a message can show a value: no integer in it has more digits than can be read back. -/
def isShowable : Datum → Bool
  | .int value => value.natAbs < Nat.pow 10 Number.maxIntegerDigits
  | .list items => areShowable items
  | .object members => areShowableMembers members
  | _ => true

/-- Whether a message can show the items of a list. -/
def areShowable : List Datum → Bool
  | [] => true
  | item :: rest => isShowable item && areShowable rest

/-- Whether a message can show the members of an object. -/
def areShowableMembers : List (Text × Datum) → Bool
  | [] => true
  | (_, value) :: rest => isShowable value && areShowableMembers rest

end

/-- Ends with a failure whose message shows the value, if a message can show it. -/
def refuse {α : Type} (value : Datum) (cause : Failure) : Except Fault α :=
  if value.isShowable then fail cause else reject .tooManyDigits

/-- Refusing a value gives no value. -/
theorem refuse_ne_ok {α : Type} (value : Datum) (cause : Failure) (result : α) :
    value.refuse cause ≠ .ok result := by
  unfold refuse
  split <;> simp [fail, reject]

/-- The difference of integers is exact. -/
@[simp] theorem minus_int (left right : Int) :
    minus (.int left) (.int right) = .ok (.int (left - right)) := rfl

end Datum

end WasmDeploy
