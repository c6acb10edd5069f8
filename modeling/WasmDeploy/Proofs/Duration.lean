import WasmDeploy.Proofs.Binary64
import WasmDeploy.Proofs.Comparison
import WasmDeploy.Proofs.Exact
import WasmDeploy.Proofs.Settings
import WasmDeploy.Proofs.Tracker.States

/-!
# Durations that end

A duration is accepted unless it is zero or below, from the environment and by a tracker alike. This file shows what
that leaves: the finite numbers above zero, and besides them infinity and the float that is no number. A deadline that
is finite is found to have passed at every reading of the clock from the deadline onward. But a timeout of the other
two sorts gives a deadline that no reading of the clock reaches, so tracking never times out by itself.
-/

namespace WasmDeploy

open Number

namespace Measure

/-- The exact value of a finite measure. -/
def rational? : Measure → Option Rat
  | .exact value => some value
  | .float value => (Binary64.ofFloat value).rational?

/-- A measure is finite and above zero. -/
def IsPositive (measure : Measure) : Prop :=
  ∃ value, measure.rational? = some value ∧ 0 < value

/-- A measure does not end: it is positive infinity, or no number. -/
def IsUnending : Measure → Prop
  | .exact _ => False
  | .float value => (Binary64.ofFloat value).IsUnending

/-- A deadline has come at a reading of the clock. Exact measures are compared exactly, and others as they are
subtracted, which is once they are rounded. -/
def HasCome : Measure → Measure → Prop
  | .exact deadline, .exact now => deadline ≤ now
  | deadline, now => ∃ due reading, (Measure.float deadline.toFloat).rational? = some due ∧
      (Measure.float now.toFloat).rational? = some reading ∧ due ≤ reading

theorem isNonPositive_float_iff {value : Float} :
    (Measure.float value).isNonPositive = true ↔ (Binary64.ofFloat value).IsNotAbove := by
  rw [isNonPositive, isAtMost_iff]
  simp only [whole, place?, Binary64.IsNotAbove]
  cases Binary64.ofFloat value with
  | nan => simp [Binary64.rational?]
  | infinite negative => cases negative <;> simp [Binary64.rational?, Prod.Lex.le_iff]
  | finite negative significand exponent => simp [Binary64.rational?_finite, Prod.Lex.le_iff]

/-- What is not refused as zero or below is finite and above zero, or does not end. -/
theorem isNonPositive_eq_false_iff {measure : Measure} :
    measure.isNonPositive = false ↔ measure.IsPositive ∨ measure.IsUnending := by
  cases measure with
  | exact value => simp [IsPositive, IsUnending, rational?]
  | float value =>
      rw [← Bool.not_eq_true, isNonPositive_float_iff, Binary64.IsNotAbove, IsPositive, IsUnending, rational?,
        Binary64.IsUnending]
      cases Binary64.ofFloat value with
      | nan => simp [Binary64.rational?]
      | infinite negative => cases negative <;> simp [Binary64.rational?]
      | finite negative significand exponent => simp [Binary64.rational?_finite]

/-- The deadline of a timeout that does not end does not end either, from whatever time it counts. -/
theorem IsUnending.add? {start timeout deadline : Measure} (unending : timeout.IsUnending)
    (due : start.add? timeout = some deadline) : deadline.IsUnending := by
  cases timeout with
  | exact value => exact unending.elim
  | float value =>
      obtain ⟨first, -, rfl⟩ : ∃ first, start.toFloat? = some first ∧ float (first + value) = deadline := by
        cases start <;> simpa [Measure.add?, toFloat?, Option.bind_eq_some_iff] using due
      exact Binary64.IsUnending.add unending first

/-- No reading of the clock reaches a deadline that does not end. -/
theorem IsUnending.sub {deadline : Measure} (unending : deadline.IsUnending) (now : Measure) :
    (deadline.sub now).isNonPositive = false := by
  cases deadline with
  | exact value => exact unending.elim
  | float value =>
      rw [isNonPositive_eq_false_iff]
      refine .inr ?_
      cases now <;> exact Binary64.IsUnending.sub unending _

/-- A finite deadline has come when the clock reads it. -/
theorem hasCome_self {deadline : Measure} {value : Rat} (isFinite : deadline.rational? = some value) :
    deadline.HasCome deadline := by
  cases deadline with
  | exact rational => exact le_refl rational
  | float float => exact ⟨value, value, isFinite, isFinite, le_refl value⟩

/-- What is left of a deadline that has come is not above zero. -/
theorem HasCome.sub {deadline now : Measure} (hasCome : deadline.HasCome now) :
    (deadline.sub now).isNonPositive = true := by
  cases deadline with
  | exact deadline =>
      cases now with
      | exact now =>
          rw [sub_exact, isNonPositive_exact, decide_eq_true_iff]
          exact sub_nonpos.mpr hasCome
      | float now =>
          rcases hasCome with ⟨due, reading, isDue, isReading, notLess⟩
          exact isNonPositive_float_iff.mpr (Binary64.isNotAbove_sub isDue isReading notLess)
  | float deadline =>
      rcases hasCome with ⟨due, reading, isDue, isReading, notLess⟩
      exact isNonPositive_float_iff.mpr (Binary64.isNotAbove_sub isDue isReading notLess)

/-- A duration lasts: it is finite and above zero, or it does not end. -/
def Lasts (duration : Measure) : Prop :=
  duration.IsPositive ∨ duration.IsUnending

end Measure

variable {σ : Type}

namespace Tracker

open Run

/-! ## Trackers -/

theorem readDuration_eq_ok_iff (failure : Datum → Failure) {value : Datum} {duration : Measure} :
    readDuration failure value = .ok duration ↔ value.number? = some duration ∧ duration.Lasts := by
  rw [Measure.Lasts, ← Measure.isNonPositive_eq_false_iff, readDuration]
  cases value.number? with
  | none => simp [reject]
  | some number =>
      simp only [Option.some.injEq]
      split
      · next isUp =>
        constructor
        · exact fun taken => absurd taken (Datum.refuse_ne_ok value _ _)
        · rintro ⟨rfl, lasts⟩
          rw [isUp] at lasts
          cases lasts
      · next notUp =>
        constructor
        · rintro ⟨⟩
          exact ⟨rfl, by simpa using notUp⟩
        · rintro ⟨rfl, _⟩
          rfl

/-- A tracker is made of exactly those numbers that last. -/
theorem ofSettings_eq_ok_iff {timeout interval : Datum} {tracker : Tracker} :
    ofSettings timeout interval = .ok tracker ↔
      (timeout.number? = some tracker.timeout ∧ tracker.timeout.Lasts) ∧
        interval.number? = some tracker.pollInterval ∧ tracker.pollInterval.Lasts := by
  rw [← readDuration_eq_ok_iff .timeoutNotPositive, ← readDuration_eq_ok_iff .intervalNotPositive]
  constructor
  · intro made
    rcases bind_eq_ok made with ⟨first, isFirst, made⟩
    rcases bind_eq_ok made with ⟨second, isSecond, made⟩
    cases made
    exact ⟨isFirst, isSecond⟩
  · rintro ⟨isFirst, isSecond⟩
    rw [ofSettings, isFirst]
    simp only [bind, Except.bind, isSecond]
    rfl

/-- A number that a message can show is taken for a duration, or refused. -/
theorem readDuration_cases (failure : Datum → Failure) {value : Datum} {number : Measure}
    (isNumber : value.number? = some number) (showable : value.isShowable = true) :
    (∃ duration, readDuration failure value = .ok duration) ∨ readDuration failure value = fail (failure value) := by
  simp only [readDuration, isNumber, Datum.refuse, showable, if_true]
  split
  · exact .inr rfl
  · exact .inl ⟨number, rfl⟩

theorem ofSettings_of_refused {timeout interval : Datum} {first second : Measure}
    (isFirst : timeout.number? = some first) (isSecond : interval.number? = some second)
    (firstShowable : timeout.isShowable = true) (secondShowable : interval.isShowable = true)
    (refused : ∀ tracker, ofSettings timeout interval ≠ .ok tracker) :
    ∃ cause, ofSettings timeout interval = fail cause ∧ cause.kind = .configuration := by
  rcases readDuration_cases .timeoutNotPositive isFirst firstShowable with ⟨duration, taken⟩ | failed
  · rcases readDuration_cases .intervalNotPositive isSecond secondShowable with ⟨other, takenToo⟩ | failed
    · refine absurd ?_ (refused ⟨duration, other⟩)
      rw [ofSettings, taken]
      simp only [bind, Except.bind, takenToo]
      rfl
    · refine ⟨.intervalNotPositive interval, ?_, rfl⟩
      rw [ofSettings, taken]
      simp only [bind, Except.bind, failed]
      rfl
  · refine ⟨.timeoutNotPositive timeout, ?_, rfl⟩
    rw [ofSettings, failed]
    rfl

/-! ## Deadlines -/

/-- Once the deadline has come, a look at it times out. -/
theorem pause_yields_due (tracker : Tracker) (pending : PendingDeployment) {deadline : Measure}
    (known : Option Receipt) {world : World σ} (hasCome : deadline.HasCome world.now) :
    (tracker.pause pending deadline known).Yields world fun _ result final =>
      result = .error (tracker.overdue pending known) ∧ final = world.entering .timedOut := by
  have isUp := hasCome.sub
  apply yields_pause
  · exact fun _ => ⟨rfl, rfl⟩
  · intro left
    cases isUp.symm.trans left
  · intro left
    cases isUp.symm.trans left

/-- With a timeout that does not end, tracking never times out by itself. -/
theorem track_yields_unending {tracker : Tracker} (unending : tracker.timeout.IsUnending) (client : Client σ)
    (pending : PendingDeployment) (confirmations : Datum) (world : World σ) :
    (tracker.track client pending confirmations).Yields world fun added result _ =>
      ¬tracker.TimedOutItself pending (exchangesOf added) result := by
  rcases check : checkConfirmations confirmations with fault | _
  · refine ⟨[], ?_, ?_⟩
    · rw [tracker.track_outcome_of_refused client pending world check, List.append_nil]
    · rw [tracker.track_outcome_of_refused client pending world check]
      exact not_timedOutItself_of_refused check
  · apply (tracker.track_keepsStates client pending confirmations world check).mono
    intro added result final keeps timedOut
    rcases keeps.atDeadline timedOut with ⟨deadline, due, isUp⟩
    rw [(unending.add? due).sub final.now] at isUp
    cases isUp

end Tracker

/-! ## Durations of an environment -/

namespace Settings

open Setting

variable {bindings : List (String × Text)} {setting : Setting}

/-- A duration that an environment gives lasts. -/
theorem lasts_of_ofEnvironment {settings : Settings} {value : Datum}
    (isRead : ofEnvironment (.ofTexts bindings) = .ok settings) (isDuration : setting ∈ durations)
    (isValue : settings.get? setting = some value) : ∃ seconds, value = .float seconds ∧ (Measure.float seconds).Lasts := by
  have sound := areSound_iff.mpr (by rw [isRead]; rfl)
  rcases ofEnvironment_of_sound sound with ⟨_, isReadToo, holds⟩
  obtain rfl := Except.ok.inj (isRead.symm.trans isReadToo)
  rcases (holds setting value).mp isValue with ⟨text, _, reads⟩
  rcases (reads_iff_of_duration isDuration).mp reads with ⟨seconds, rfl, _, lasts⟩
  exact ⟨seconds, rfl, Measure.isNonPositive_eq_false_iff.mp lasts⟩

/-- A text that reads as no duration that lasts is refused. -/
theorem ofEnvironment_of_not_lasts {text : Text} (isDuration : setting ∈ durations)
    (given : setting.Given bindings text)
    (ends : ∀ seconds, readFloat? (Text.trimBlanks Text.isBlank text.characters) = some seconds →
      ¬(Measure.float seconds).Lasts) :
    ∃ cause, ofEnvironment (.ofTexts bindings) = fail cause ∧ cause.kind = .configuration := by
  have malformed : setting.IsMalformed bindings := by
    refine ⟨text, given, fun value reads => ?_⟩
    rcases (reads_iff_of_duration isDuration).mp reads with ⟨seconds, _, isRead, lasts⟩
    exact ends seconds isRead (Measure.isNonPositive_eq_false_iff.mp lasts)
  rcases exists_isFirstMalformed ⟨setting, malformed⟩ with ⟨first, isFirst⟩
  rcases ofEnvironment_of_malformed isFirst with ⟨cause, refused, isKind, _⟩
  exact ⟨cause, refused, isKind⟩

end Settings

/-! ## Durations that are accepted -/

/-- What is accepted for a duration, and what comes of it: a finite deadline is found to have passed once the clock
reads it, and a timeout that does not end never runs out. -/
structure AcceptsDurations (σ : Type) : Prop where
  parsed : ∀ bindings settings, Settings.ofEnvironment (.ofTexts bindings) = .ok settings →
    ∀ setting ∈ Setting.durations, ∀ value, settings.get? setting = some value →
      ∃ seconds, value = .float seconds ∧ (Measure.float seconds).Lasts
  unparsed : ∀ bindings, ∀ setting ∈ Setting.durations, ∀ text, setting.Given bindings text →
    (∀ seconds, readFloat? (Text.trimBlanks Text.isBlank text.characters) = some seconds →
      ¬(Measure.float seconds).Lasts) →
    ∃ cause, Settings.ofEnvironment (.ofTexts bindings) = fail cause ∧ cause.kind = .configuration
  built : ∀ timeout interval tracker, Tracker.ofSettings timeout interval = .ok tracker ↔
    (timeout.number? = some tracker.timeout ∧ tracker.timeout.Lasts) ∧
      interval.number? = some tracker.pollInterval ∧ tracker.pollInterval.Lasts
  unbuilt : ∀ (timeout interval : Datum) (first second : Measure), timeout.number? = some first →
    interval.number? = some second → timeout.isShowable = true → interval.isShowable = true →
    (∀ tracker, Tracker.ofSettings timeout interval ≠ .ok tracker) →
      ∃ cause, Tracker.ofSettings timeout interval = fail cause ∧ cause.kind = .configuration
  reached : ∀ (deadline : Measure) value, deadline.rational? = some value → deadline.HasCome deadline
  fires : ∀ (tracker : Tracker) pending (deadline : Measure) known (world : World σ), deadline.HasCome world.now →
    (tracker.pause pending deadline known).Yields world fun _ result final =>
      result = .error (tracker.overdue pending known) ∧ final = world.entering .timedOut
  unending : ∀ (tracker : Tracker), tracker.timeout.IsUnending → ∀ client pending confirmations (world : World σ),
    (tracker.track client pending confirmations).Yields world fun added result _ =>
      ¬tracker.TimedOutItself pending (exchangesOf added) result

/-- Durations are accepted if and only if they last, and those that do not end are never over. -/
theorem acceptsDurations : AcceptsDurations σ where
  parsed _ _ isRead _ isDuration _ isValue := Settings.lasts_of_ofEnvironment isRead isDuration isValue
  unparsed _ _ isDuration _ given ends := Settings.ofEnvironment_of_not_lasts isDuration given ends
  built _ _ _ := Tracker.ofSettings_eq_ok_iff
  unbuilt _ _ _ _ := Tracker.ofSettings_of_refused
  reached _ _ := Measure.hasCome_self
  fires tracker pending _ known _ hasCome := tracker.pause_yields_due pending known hasCome
  unending _ unending := Tracker.track_yields_unending unending

/-- Not every duration that is accepted is a number: the float that is none is taken for a timeout. -/
theorem exists_unending_duration :
    ¬∀ bindings settings, Settings.ofEnvironment (.ofTexts bindings) = .ok settings →
      ∀ setting ∈ Setting.durations, ∀ value, settings.get? setting = some value →
        ∃ seconds, value = .float seconds ∧ (Measure.float seconds).IsPositive := by
  intro positive
  have isRead : readFloat? (Text.trimBlanks Text.isBlank ("nan" : Text).characters) = some (0.0 / 0.0) := by
    decide +kernel
  have isNone : Binary64.ofFloat (0.0 / 0.0) = .nan := by decide +kernel
  have given : Setting.Given [("DEPLOY_TIMEOUT", "nan")] .timeout "nan" := ⟨by decide, by decide +kernel, by decide⟩
  have lasts : (Measure.float (0.0 / 0.0)).isNonPositive = false :=
    Measure.isNonPositive_eq_false_iff.mpr (.inr (.inl isNone))
  have sound : Settings.AreSound [("DEPLOY_TIMEOUT", "nan")] := Settings.areSound_iff.mpr (by decide +kernel)
  rcases Settings.ofEnvironment_of_sound sound with ⟨settings, taken, holds⟩
  have isTimeout := (holds .timeout _).mpr ⟨"nan", given, .duration (by decide) isRead lasts⟩
  rcases positive _ settings taken .timeout (by decide) _ isTimeout with ⟨_, ⟨⟩, value, isValue, _⟩
  rw [Measure.rational?, isNone] at isValue
  cases isValue

end WasmDeploy
