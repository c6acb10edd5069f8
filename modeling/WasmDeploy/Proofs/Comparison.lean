import Mathlib.Algebra.Order.Field.Rat
import Mathlib.Data.Prod.Lex
import WasmDeploy.Datum

/-!
# The order of numbers

Exact numbers and floats compare by their places in one linear order, in which the infinities lie beyond all that is
finite. The float that is no number has no place. So whatever compares at all compares as in a linear order.
-/

namespace WasmDeploy

namespace Measure

/-- The place of a number among all numbers. -/
def place? : Measure → Option (Int ×ₗ Rat)
  | .exact value => some (toLex (0, value))
  | .float value =>
      match Number.Binary64.ofFloat value with
      | .nan => none
      | .infinite negative => some (toLex (if negative then -1 else 1, 0))
      | number => (number.rational?).map fun exact => toLex (0, exact)

theorem compare?_eq_place? (left right : Measure) :
    left.compare? right =
      match left.place?, right.place? with
      | some first, some second =>
          some (if (ofLex first).1 < (ofLex second).1 then .lt
            else if (ofLex second).1 < (ofLex first).1 then .gt
            else if (ofLex first).2 < (ofLex second).2 then .lt
            else if (ofLex second).2 < (ofLex first).2 then .gt else .eq)
      | _, _ => none := by
  cases left with
  | exact left =>
      cases right with
      | exact right => rfl
      | float right =>
          simp only [compare?, place?]
          rcases Number.Binary64.ofFloat right with _ | _ | _ <;> rfl
  | float left =>
      cases right with
      | exact right =>
          simp only [compare?, place?]
          rcases Number.Binary64.ofFloat left with _ | _ | _ <;> rfl
      | float right =>
          simp only [compare?, place?]
          rcases Number.Binary64.ofFloat left with _ | _ | _ <;>
            rcases Number.Binary64.ofFloat right with _ | _ | _ <;> rfl

/-- A measure is at most another one if its place is no higher. -/
theorem isAtMost_iff (left right : Measure) :
    left.isAtMost right = true ↔
      ∃ first second, left.place? = some first ∧ right.place? = some second ∧ first ≤ second := by
  rw [isAtMost, compare?_eq_place?]
  rcases left.place? with _ | first
  · simp
  rcases right.place? with _ | second
  · simp
  simp only [Option.some.injEq, exists_and_left, exists_eq_left', Prod.Lex.le_iff, Bool.or_eq_true,
    beq_iff_eq]
  rcases lt_trichotomy (ofLex first).1 (ofLex second).1 with isLess | isSame | isGreater
  · simp [isLess]
  · rcases lt_trichotomy (ofLex first).2 (ofLex second).2 with isLess | isEqual | isGreater
    · simp [isSame, isLess, isLess.le]
    · simp [isSame, isEqual]
    · simp [isSame, isGreater, isGreater.not_gt]
  · simp [isGreater, isGreater.not_gt, isGreater.ne']

end Measure

namespace Datum

/-- The place of a number among all numbers; what is no number has none. -/
def place? (value : Datum) : Option (Int ×ₗ Rat) :=
  value.number?.bind Measure.place?

theorem isAtLeast_iff (left right : Datum) :
    left.isAtLeast right = true ↔
      ∃ first second, left.place? = some first ∧ right.place? = some second ∧ second ≤ first := by
  simp only [isAtLeast, compare?, place?]
  rcases left.number? with _ | left
  · simp
  rcases right.number? with _ | right
  · simp
  simp only [Option.bind_eq_bind, Option.bind_some, Measure.compare?_eq_place?]
  rcases left.place? with _ | first
  · simp
  rcases right.place? with _ | second
  · simp
  simp only [Option.some.injEq, exists_and_left, exists_eq_left', Prod.Lex.le_iff, Bool.or_eq_true,
    beq_iff_eq]
  rcases lt_trichotomy (ofLex first).1 (ofLex second).1 with isLess | isSame | isGreater
  · simp [isLess, isLess.not_gt, isLess.ne']
  · rcases lt_trichotomy (ofLex first).2 (ofLex second).2 with isLess | isEqual | isGreater
    · simp [isSame, isLess]
    · simp [isSame, isEqual]
    · simp [isSame, isGreater, isGreater.not_gt, isGreater.le]
  · simp [isGreater, isGreater.not_gt]

section

variable {first second third : Datum}

/-- What compares with a number compares with itself. -/
theorem isAtLeast_self (compared : first.isAtLeast second = true) : first.isAtLeast first = true := by
  rcases (isAtLeast_iff _ _).mp compared with ⟨place, _, isPlace, _, _⟩
  exact (isAtLeast_iff _ _).mpr ⟨place, place, isPlace, isPlace, le_rfl⟩

theorem isAtLeast_trans (left : first.isAtLeast second = true) (right : second.isAtLeast third = true) :
    first.isAtLeast third = true := by
  rcases (isAtLeast_iff _ _).mp left with ⟨place, between, isPlace, isBetween, isAbove⟩
  rcases (isAtLeast_iff _ _).mp right with ⟨_, last, isBetween', isLast, isBelow⟩
  obtain rfl := Option.some.inj (isBetween.symm.trans isBetween')
  exact (isAtLeast_iff _ _).mpr ⟨place, last, isPlace, isLast, isBelow.trans isAbove⟩

/-- Of numbers that compare, one is at least the other. -/
theorem isAtLeast_total (left : first.isAtLeast first = true) (right : second.isAtLeast second = true) :
    first.isAtLeast second = true ∨ second.isAtLeast first = true := by
  rcases (isAtLeast_iff _ _).mp left with ⟨place, _, isPlace, _, _⟩
  rcases (isAtLeast_iff _ _).mp right with ⟨place', _, isPlace', _, _⟩
  rcases le_total place' place with isAbove | isBelow
  · exact Or.inl ((isAtLeast_iff _ _).mpr ⟨place, place', isPlace, isPlace', isAbove⟩)
  · exact Or.inr ((isAtLeast_iff _ _).mpr ⟨place', place, isPlace', isPlace, isBelow⟩)

end

end Datum

end WasmDeploy
