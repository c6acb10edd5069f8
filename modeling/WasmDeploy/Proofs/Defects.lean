import WasmDeploy.Deployment

/-!
# How computations fail

Arithmetic on unchecked values ends with a defect where it has no value. This file shows that it never ends with
a failure that a deployment could report, so that such a failure always has another origin. A computation that
does end with failures can still avoid those of some kind.
-/

namespace WasmDeploy

variable {α β : Type}

/-- A composed computation has a value only if each of its parts does. -/
theorem bind_eq_ok {first : Except Fault α} {next : α → Except Fault β} {value : β}
    (ends : first >>= next = .ok value) : ∃ middle, first = .ok middle ∧ next middle = .ok value := by
  cases first with
  | error fault => cases ends
  | ok middle => exact ⟨middle, rfl, ends⟩

theorem map_eq_ok {result : Except Fault α} {change : α → β} {value : β}
    (ends : result.map change = .ok value) : ∃ before, result = .ok before ∧ change before = value := by
  cases result with
  | error fault => cases ends
  | ok before => exact ⟨before, rfl, Except.ok.inj ends⟩

theorem refuse_eq_error {value : Datum} {cause : Failure} {fault : Fault}
    (isRefused : (value.refuse cause : Except Fault α) = .error fault) :
    fault = .of cause ∨ fault = .defect .tooManyDigits ∧ value.isShowable = false := by
  unfold Datum.refuse at isRefused
  split at isRefused
  · cases isRefused
    exact .inl rfl
  · next unshowable =>
    cases isRefused
    exact .inr ⟨rfl, by simpa using unshowable⟩

/-- Whether a fault tells that a deadline has passed, be it as a failure or as the defect that stands for one. -/
def Fault.isOverdue : Fault → Bool
  | .failure (.timedOut ..) _ | .defect (.overdue _) => true
  | _ => false

/-- A computation ends with a value or with a defect, and with none that tells of a deadline. -/
def OnlyDefects (result : Except Fault α) : Prop :=
  ∀ fault, result = .error fault → ∃ cause, fault = .defect cause ∧ fault.isOverdue = false

namespace OnlyDefects

theorem ok (value : α) : OnlyDefects (.ok value) := by
  simp [OnlyDefects]

theorem pure (value : α) : OnlyDefects (pure value) :=
  ok value

theorem reject (cause : Defect) (other : (Fault.defect cause).isOverdue = false := by rfl) :
    OnlyDefects (reject cause : Except Fault α) := by
  rintro _ ⟨⟩
  exact ⟨cause, rfl, other⟩

theorem bind {first : Except Fault α} {next : α → Except Fault β} (defects : OnlyDefects first)
    (nextDefects : ∀ value, OnlyDefects (next value)) : OnlyDefects (first >>= next) := by
  cases first with
  | error fault =>
      rintro _ ⟨⟩
      exact defects fault rfl
  | ok value => exact nextDefects value

/-- A computation that ends with nothing but defects has no failure. -/
theorem ne_failure {result : Except Fault α} (defects : OnlyDefects result) (cause : Failure)
    (network : Option Network) : result ≠ .error (.failure cause network) := by
  intro failed
  rcases defects _ failed with ⟨_, ⟨⟩, _⟩

theorem map {result : Except Fault α} (change : α → β) (defects : OnlyDefects result) :
    OnlyDefects (result.map change) := by
  cases result with
  | error fault =>
      rintro _ ⟨⟩
      exact defects fault rfl
  | ok value => exact ok (change value)

end OnlyDefects

/-- A failure that is noted with a network was a failure before. -/
theorem Fault.of_onNetwork {fault : Fault} {known : Network} {cause : Failure}
    {network : Option Network} (noted : fault.onNetwork known = .failure cause network) :
    network = some known ∧ ∃ before, fault = .failure cause before := by
  cases fault with
  | failure cause before =>
      cases noted
      exact ⟨rfl, before, rfl⟩
  | _ => cases noted

/-- A fault is a failure of some kind, on whatever network. -/
def Fault.IsOf (kind : Failure → Prop) (fault : Fault) : Prop :=
  ∃ cause network, fault = .failure cause network ∧ kind cause

/-- A computation does not end with a failure of some kind. -/
def Avoids (kind : Failure → Prop) (result : Except Fault α) : Prop :=
  ∀ fault, result = .error fault → ¬fault.IsOf kind

theorem Fault.not_isOf_of {kind : Failure → Prop} {cause : Failure} (other : ¬kind cause) :
    ¬(Fault.of cause).IsOf kind := by
  rintro ⟨_, _, ⟨⟩, isKind⟩
  exact other isKind

namespace Avoids

variable {kind : Failure → Prop}

theorem ok (value : α) : Avoids kind (.ok value) := by
  simp [Avoids]

theorem pure (value : α) : Avoids kind (pure value : Except Fault α) :=
  ok value

theorem refuse {value : Datum} {cause : Failure} (other : ¬kind cause) :
    Avoids kind (value.refuse cause : Except Fault α) := by
  intro fault refused
  rcases refuse_eq_error refused with rfl | ⟨rfl, _⟩
  · exact Fault.not_isOf_of other
  · rintro ⟨_, _, ⟨⟩, _⟩

theorem of_onlyDefects {result : Except Fault α} (defects : OnlyDefects result) :
    Avoids kind result := by
  rintro fault failed ⟨cause, network, rfl, _⟩
  rcases defects _ failed with ⟨_, ⟨⟩, _⟩

theorem bind {first : Except Fault α} {next : α → Except Fault β} (avoids : Avoids kind first)
    (nextAvoids : ∀ value, first = .ok value → Avoids kind (next value)) :
    Avoids kind (first >>= next) := by
  cases first with
  | error fault =>
      rintro _ ⟨⟩
      exact avoids fault rfl
  | ok value => exact nextAvoids value rfl

end Avoids

namespace Datum

theorem onlyDefects_order (operator : String) (left right : Datum) :
    OnlyDefects (left.order operator right) := by
  apply order.induct (fun left right => OnlyDefects (left.order operator right))
    (fun lefts rights => OnlyDefects (orderItems operator lefts rights))
  · intro first second
    rw [order]
    exact .ok _
  · intro first second
    rw [order]
    exact .ok _
  · intro first second ih
    rwa [order]
  · intro left right noTexts noBytes noLists numbers
    rw [order, if_pos numbers]
    · exact .ok _
    all_goals assumption
  · intro left right noTexts noBytes noLists notNumbers
    rw [order, if_neg notNumbers]
    · exact .reject _
    all_goals assumption
  · rw [orderItems]
    exact .ok _
  · intro right nonempty
    rw [orderItems]
    · exact .ok _
    · exact nonempty
  · intro left nonempty
    rw [orderItems]
    · exact .ok _
    · exact nonempty
  · intro left lefts right rights same ih
    rwa [orderItems, if_pos same]
  · intro left lefts right rights differ ih
    rwa [orderItems, if_neg differ]

theorem onlyDefects_larger (first second : Datum) : OnlyDefects (first.larger second) :=
  .bind (onlyDefects_order _ second first) fun _ => .pure _

theorem onlyDefects_nearestFloat (value : Datum) : OnlyDefects value.nearestFloat := by
  simp only [nearestFloat]
  split
  · exact .reject _
  · split
    · exact .ok _
    · exact .reject _

theorem onlyDefects_minus (left right : Datum) : OnlyDefects (left.minus right) := by
  simp only [minus]
  split
  · exact .ok _
  · exact .bind (onlyDefects_nearestFloat left) fun _ =>
      .bind (onlyDefects_nearestFloat right) fun _ => .pure _

theorem onlyDefects_excess (value base : Datum) : OnlyDefects (value.excess base) :=
  .bind (onlyDefects_minus value base) fun _ => .pure _

end Datum

theorem onlyDefects_showable (time : Option Measure) : OnlyDefects (Run.showable time) := by
  simp only [Run.showable]
  split
  · exact .ok _
  · exact .reject _

end WasmDeploy
