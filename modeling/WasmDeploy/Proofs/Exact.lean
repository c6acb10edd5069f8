import Mathlib.Algebra.Order.Field.Rat
import WasmDeploy.Datum.Arithmetic

/-!
# Exact measures

Between exact measures, comparing and subtracting are those of rational numbers. This file says so for every
operation that clocks and durations go through.
-/

namespace WasmDeploy

namespace Measure

variable (left right : Rat)

theorem compare?_exact :
    (exact left).compare? (exact right) =
      some (if left < right then .lt else if right < left then .gt else .eq) := by
  simp [compare?]

@[simp]
theorem sub_exact : (exact left).sub (exact right) = exact (left - right) := rfl

@[simp]
theorem isLess_exact : (exact left).isLess (exact right) = decide (left < right) := by
  rw [isLess, compare?_exact]
  split
  · next isLess => simp [isLess]
  · next notLess => split <;> simp [notLess]

@[simp]
theorem isAtMost_exact : (exact left).isAtMost (exact right) = decide (left ≤ right) := by
  rw [isAtMost, compare?_exact]
  split
  · next isLess => simp [isLess.le]
  · next notLess =>
    split
    · next isGreater => simp [isGreater]
    · next notGreater => simp [not_lt.mp notGreater]

@[simp]
theorem isNonPositive_exact : (exact left).isNonPositive = decide (left ≤ 0) :=
  isAtMost_exact left 0

@[simp]
theorem shorter_exact : (exact left).shorter (exact right) = exact (min left right) := by
  rw [shorter, isLess_exact]
  rcases lt_or_ge right left with isLess | notLess
  · simp [isLess, isLess.le]
  · simp [not_lt.mpr notLess, notLess]

end Measure

namespace Datum

theorem compare?_int (left right : Int) : compare? (.int left) (.int right) =
    some (if left < right then .lt else if right < left then .gt else .eq) := by
  have compared : compare? (.int left) (.int right) =
      (Measure.exact left).compare? (.exact right) := rfl
  rw [compared, Measure.compare?_exact]
  simp only [Rat.intCast_lt_intCast]

@[simp]
theorem same_int (value : Int) : same (.int value) (.int value) = true := by
  simp [same, compare?_int]

@[simp]
theorem isAtLeast_int (left right : Int) :
    isAtLeast (.int left) (.int right) = decide (right ≤ left) := by
  rw [isAtLeast, compare?_int]
  rcases Int.lt_trichotomy left right with isLess | rfl | isGreater
  · simp [isLess]
  · simp
  · simp [isGreater, isGreater.le, isGreater.not_gt]

@[simp]
theorem isPositive_int (value : Int) : isPositive (.int value) = decide (0 < value) := by
  rw [isPositive, compare?_int]
  rcases Int.lt_trichotomy value 0 with isLess | rfl | isGreater
  · simp [isLess, isLess.le]
  · simp
  · simp [isGreater, isGreater.not_gt]

@[simp]
theorem larger_int (first second : Int) :
    larger (.int first) (.int second) = .ok (.int (max first second)) := by
  have compared : order ">" (.int second) (.int first) = .ok ((Datum.int second).compare? (.int first)) := rfl
  rw [larger, compared, compare?_int]
  rcases Int.lt_trichotomy second first with isLess | rfl | isGreater
  · simp [isLess, isLess.le, bind, Except.bind, pure, Except.pure]
  · simp [bind, Except.bind, pure, Except.pure]
  · simp [isGreater, isGreater.le, isGreater.not_gt, bind, Except.bind, pure, Except.pure]

@[simp]
theorem excess_int (value base : Int) :
    excess (.int value) (.int base) = .ok (.int (max 0 (value - base))) := by
  have same : excess (.int value) (.int base) =
      .ok (if (Datum.int (value - base)).isPositive then .int (value - base) else .int 0) := rfl
  rw [same, isPositive_int]
  by_cases isAbove : 0 < value - base
  · rw [decide_eq_true isAbove, if_pos rfl, max_eq_right isAbove.le]
  · rw [decide_eq_false isAbove, if_neg Bool.false_ne_true, max_eq_left (not_lt.mp isAbove)]

end Datum

end WasmDeploy
