import Mathlib.Data.List.Forall2
import Mathlib.Tactic.Linarith
import WasmDeploy.Proofs.Coupling
import WasmDeploy.Proofs.Exact
import WasmDeploy.Proofs.Tracker.States
import WasmDeploy.Proofs.Tracker.Walk

/-!
# More time

A tracker that ends before its deadline does the same with a later one. The two runs are followed side by side on an
exact clock. Their clocks show the same time up to the one sleep that the earlier deadline cuts short. After that sleep
the earlier deadline has come, and a tracker that is to sleep once more times out. So whatever the clocks show from
there on, no run that ends otherwise gets to see it.
-/

namespace WasmDeploy

open Run

variable {σ α : Type}

/-! ## Entries without their times -/

/-- Two entries tell of the same, apart from the time and from how long a sleep takes. -/
inductive Entry.SameButTime : Entry → Entry → Prop where
  | event (time time' : Measure) (tracking : Option TrackingState) (event : Event) :
      SameButTime ⟨time, tracking, event⟩ ⟨time', tracking, event⟩
  | sleep (time time' : Measure) (tracking : Option TrackingState) (duration duration' : Measure) :
      SameButTime ⟨time, tracking, .sleep duration⟩ ⟨time', tracking, .sleep duration'⟩

theorem Entry.SameButTime.refl (entry : Entry) : entry.SameButTime entry :=
  .event entry.time entry.time entry.tracking entry.event

section

variable {entries entries' : List Entry}

/-- What is read of entries without a look at the time is the same. -/
theorem filterMap_eq_of_sameButTime {view : Entry → Option α}
    (timeless : ∀ entry entry' : Entry, entry.SameButTime entry' → view entry' = view entry)
    (same : List.Forall₂ Entry.SameButTime entries entries') :
    entries'.filterMap view = entries.filterMap view := by
  induction same with
  | nil => rfl
  | cons sameHere _ ih => rw [List.filterMap_cons, List.filterMap_cons, timeless _ _ sameHere, ih]

theorem requestsOf_eq_of_sameButTime (same : List.Forall₂ Entry.SameButTime entries entries') :
    requestsOf entries' = requestsOf entries :=
  filterMap_eq_of_sameButTime (by rintro _ _ ⟨⟩ <;> rfl) same

theorem exchangesOf_eq_of_sameButTime (same : List.Forall₂ Entry.SameButTime entries entries') :
    exchangesOf entries' = exchangesOf entries :=
  filterMap_eq_of_sameButTime (by rintro _ _ ⟨⟩ <;> rfl) same

theorem length_sleepsOf_eq_of_sameButTime (same : List.Forall₂ Entry.SameButTime entries entries') :
    (sleepsOf entries').length = (sleepsOf entries).length := by
  have sameMarks : (sleepsOf entries').map (fun _ => ()) = (sleepsOf entries).map fun _ => () := by
    rw [sleepsOf, sleepsOf, List.map_filterMap, List.map_filterMap]
    apply filterMap_eq_of_sameButTime _ same
    rintro _ _ (⟨_, _, _, event⟩ | _)
    · cases event <;> rfl
    · rfl
  simpa using congrArg List.length sameMarks

end

/-- A call whose end the clock can show. -/
theorem passCall_outcome_of_shown {world : World σ} {finish : Measure}
    (shown : world.elapse world.calls world.now = some finish) :
    (passCall : Run σ Unit).outcome world = (.ok (), world.afterCall finish) := by
  change Run.outcome (do
    let finish ← (showable (world.elapse world.calls world.now) : Except Fault _)
    modify (·.afterCall finish)) world = _
  rw [shown]
  rfl

/-! ## Clocks that drift apart -/

/-- How long a call takes is an exact time that depends on its place among the calls only. -/
structure Surroundings.TimesCalls (surroundings : Surroundings) (latency : Nat → Rat) : Prop where
  nonneg : ∀ call, 0 ≤ latency call
  elapse : ∀ call time, surroundings.elapse call (.exact time) = some (.exact (time + latency call))

/-- Two worlds are the same apart from times, and their clocks differ only once the first one has come to a limit. -/
structure World.Drifted (limit : Rat) (latency : Nat → Rat) (world other : World σ) : Prop where
  same : other = { world with now := other.now, journal := other.journal }
  times : world.TimesCalls latency
  clocks : ∃ time time', world.now = .exact time ∧ other.now = .exact time' ∧
    (time' = time ∨ limit ≤ time)
  entries : List.Forall₂ Entry.SameButTime world.entries other.entries

namespace World.Drifted

variable {limit : Rat} {latency : Nat → Rat} {world other : World σ}

theorem refl {start : Rat} (isNow : world.now = .exact start) (times : world.TimesCalls latency) :
    world.Drifted limit latency world :=
  ⟨rfl, times, ⟨start, start, isNow, isNow, Or.inl rfl⟩, List.forall₂_same.mpr fun entry _ => .refl entry⟩

theorem tracking (drifted : world.Drifted limit latency other) : other.tracking = world.tracking :=
  drifted.same ▸ rfl

theorem calls (drifted : world.Drifted limit latency other) : other.calls = world.calls :=
  drifted.same ▸ rfl

theorem surroundings (drifted : world.Drifted limit latency other) :
    other.toSurroundings = world.toSurroundings :=
  drifted.same ▸ rfl

theorem isCancelled (drifted : world.Drifted limit latency other) :
    other.isCancelled = world.isCancelled := by
  rw [drifted.same]
  rfl

theorem record (drifted : world.Drifted limit latency other) (event : Event) :
    (world.record event).Drifted limit latency (other.record event) where
  same := by
    rw [drifted.same]
    rfl
  times := drifted.times
  clocks := drifted.clocks
  entries := by
    rw [entries_record, entries_record, drifted.tracking]
    exact List.rel_append drifted.entries (.cons (.event _ _ _ _) .nil)

theorem accompanies : Accompanies (World.Drifted (σ := σ) limit latency) where
  horizon drifted := by rw [drifted.surroundings]
  posts drifted := by rw [drifted.same]
  endpoint drifted := by rw [drifted.same]
  record drifted event := drifted.record event
  entering := fun ⟨same, times, clocks, entries⟩ _ => ⟨by rw [same]; rfl, times, clocks, entries⟩
  posting := fun ⟨same, times, clocks, entries⟩ _ => ⟨by rw [same], times, clocks, entries⟩
  answering := fun ⟨same, times, clocks, entries⟩ _ => ⟨by rw [same], times, clocks, entries⟩
  passCall := by
    intro world other drifted
    rcases drifted.clocks with ⟨time, time', isNow, isNow', clocks⟩
    have passes : (passCall : Run σ Unit).outcome world =
        (.ok (), world.afterCall (.exact (time + latency world.calls))) :=
      passCall_outcome_of_shown (isNow ▸ drifted.times.elapse _ time)
    have passes' : (passCall : Run σ Unit).outcome other =
        (.ok (), other.afterCall (.exact (time' + latency world.calls))) := by
      apply passCall_outcome_of_shown
      rw [drifted.surroundings, drifted.calls, isNow']
      exact drifted.times.elapse _ time'
    rw [passes, passes']
    refine Or.inr ⟨rfl, ?_, drifted.times, ⟨_, _, rfl, rfl, ?_⟩, drifted.entries⟩
    · rw [drifted.same]
      rfl
    · rcases clocks with rfl | isUp
      · exact Or.inl rfl
      · have nonneg := drifted.times.nonneg world.calls
        exact Or.inr (by linarith)

end World.Drifted

namespace Tracker

variable {timeout longer interval limit limit' : Rat} {latency : Nat → Rat}
  {pending : PendingDeployment}

/-- The tracker has timed out. -/
def HasTimedOut (_ : Fault) (final : World σ) : Prop :=
  final.tracking = some .timedOut

theorem coupled_checkCancelled :
    Coupled (World.Drifted (σ := σ) limit latency) HasTimedOut (checkCancelled pending)
      (checkCancelled pending) := by
  apply coupled_get_bind
  intro world other drifted
  rw [drifted.isCancelled]
  split
  · exact coupled_throw _
  · exact coupled_pure ()

/-- A pause on an exact clock. -/
theorem pause_outcome_exact {world : World σ} {time : Rat} (isNow : world.now = .exact time)
    (known : Option Receipt) :
    ((⟨.exact timeout, .exact interval⟩ : Tracker).pause pending (.exact limit) known).outcome world =
      if limit ≤ time then
        (.error (overdue ⟨.exact timeout, .exact interval⟩ pending known), world.entering .timedOut)
      else
        (.ok (), (world.record (.sleep (.exact (min interval (limit - time))))).afterSleep
          (.exact (time + min interval (limit - time)))) := by
  change Run.outcome (if ((Measure.exact limit).sub world.now).isNonPositive then do
      Run.enter .timedOut
      throw (overdue ⟨.exact timeout, .exact interval⟩ pending known)
    else
      Run.sleep ((Measure.exact interval).shorter ((Measure.exact limit).sub world.now))) world = _
  simp only [isNow, Measure.sub_exact, Measure.isNonPositive_exact, Measure.shorter_exact,
    decide_eq_true_eq, sub_nonpos]
  split
  · rfl
  · change Run.outcome (do
      let finish ← (showable (world.now.add? (.exact (min interval (limit - time)))) : Except Fault _)
      Run.record (.sleep (.exact (min interval (limit - time))))
      modify (·.afterSleep finish)) world = _
    rw [isNow]
    rfl

/-- Before the earlier deadline both trackers sleep, and as long unless that deadline cuts the sleep short. -/
theorem coupled_pause (isLater : limit ≤ limit') (known : Option Receipt) :
    Coupled (World.Drifted (σ := σ) limit latency) HasTimedOut
      ((⟨.exact timeout, .exact interval⟩ : Tracker).pause pending (.exact limit) known)
      ((⟨.exact longer, .exact interval⟩ : Tracker).pause pending (.exact limit') known) := by
  intro world other drifted
  rcases drifted.clocks with ⟨time, time', isNow, isNow', clocks⟩
  rw [pause_outcome_exact isNow, pause_outcome_exact isNow']
  by_cases isUp : limit ≤ time
  · rw [if_pos isUp]
    exact Or.inl ⟨_, rfl, rfl⟩
  obtain rfl : time' = time := clocks.resolve_right isUp
  have isBefore : ¬limit' ≤ time' := fun isUp' => isUp (isLater.trans isUp')
  rw [if_neg isUp, if_neg isBefore]
  refine Or.inr ⟨rfl, ?_, drifted.times, ⟨_, _, rfl, rfl, ?_⟩, ?_⟩
  · rw [drifted.same]
    rfl
  · rcases le_total interval (limit - time') with isWhole | isCut
    · rw [min_eq_left isWhole, min_eq_left (by linarith)]
      exact Or.inl rfl
    · rw [min_eq_right isCut]
      exact Or.inr (by linarith)
  · change List.Forall₂ Entry.SameButTime (World.entries (world.record _)) (World.entries (other.record _))
    rw [World.entries_record, World.entries_record, drifted.tracking]
    exact List.rel_append drifted.entries (.cons (.sleep _ _ _ _ _) .nil)

/-- Another run from the same world does the same, apart from when: it ends in the same way and leaves the same world
but for the clock, and what it records on its way is the same but for times and the lengths of sleeps. -/
structure SameCourse (added : List Entry) (result : Except Fault TrackingResult) (final : World σ)
    (added' : List Entry) (result' : Except Fault TrackingResult) (final' : World σ) : Prop where
  result : result' = result
  requests : requestsOf added' = requestsOf added
  exchanges : exchangesOf added' = exchangesOf added
  sleeps : (sleepsOf added').length = (sleepsOf added).length
  tracking : final'.tracking = final.tracking
  entries : List.Forall₂ Entry.SameButTime added added'
  world : final' = { final with now := final'.now, journal := final'.journal }

theorem SameCourse.of_drifted {world final final' : World σ} {added added' : List Entry}
    (result : Except Fault TrackingResult) (drifted : final.Drifted limit latency final')
    (ends : final.entries = world.entries ++ added) (ends' : final'.entries = world.entries ++ added') :
    SameCourse added result final added' result final' := by
  have entries : List.Forall₂ Entry.SameButTime added added' := by
    have rest := List.forall₂_drop world.entries.length drifted.entries
    rwa [ends, ends', List.drop_left, List.drop_left] at rest
  exact {
    result := rfl
    requests := requestsOf_eq_of_sameButTime entries
    exchanges := exchangesOf_eq_of_sameButTime entries
    sleeps := length_sleepsOf_eq_of_sameButTime entries
    tracking := drifted.tracking
    entries
    world := drifted.same }

/-- Tracking that does not time out by itself does the same with a longer timeout. -/
theorem track_extended {timeout longer : Rat} (isLonger : timeout ≤ longer) (interval : Rat)
    {latency : Nat → Rat} {start : Rat} (client : Client σ) (pending : PendingDeployment)
    (confirmations : Datum) {world : World σ} (startsAt : world.now = .exact start)
    (times : world.TimesCalls latency) :
    (track ⟨.exact timeout, .exact interval⟩ client pending confirmations).Yields world
      fun added result final =>
        ¬TimedOutItself ⟨.exact timeout, .exact interval⟩ pending (exchangesOf added) result →
          (track ⟨.exact longer, .exact interval⟩ client pending confirmations).Yields world
            (SameCourse added result final) := by
  let tracker : Tracker := ⟨.exact timeout, .exact interval⟩
  let tracker' : Tracker := ⟨.exact longer, .exact interval⟩
  rcases check : checkConfirmations confirmations with fault | _
  · have refused := tracker.track_outcome_of_refused client pending world check
    have refused' := tracker'.track_outcome_of_refused client pending world check
    refine ⟨[], by rw [refused, List.append_nil], fun _ => ⟨[], by rw [refused', List.append_nil], ?_⟩⟩
    rw [refused, refused']
    exact .of_drifted _ (@World.Drifted.refl _ start _ _ _ startsAt times) (List.append_nil _).symm
      (List.append_nil _).symm
  rcases tracker.track_keepsStates client pending confirmations world check with ⟨added, entries, keeps⟩
  rcases tracker'.track_keepsStates client pending confirmations world check with ⟨added', entries', _⟩
  refine ⟨added, entries, fun isOther => ⟨added', entries', ?_⟩⟩
  have due : world.now.add? (.exact timeout) = some (.exact (start + timeout)) := by
    rw [startsAt, Measure.add?_exact]
  have due' : world.now.add? (.exact longer) = some (.exact (start + longer)) := by
    rw [startsAt, Measure.add?_exact]
  rw [tracker.track_outcome_of_due client pending check due] at entries keeps isOther ⊢
  rw [tracker'.track_outcome_of_due client pending check due'] at entries' ⊢
  have isLater : start + timeout ≤ start + longer := by
    linarith
  have accompanies : Accompanies (World.Drifted (σ := σ) (start + timeout) latency) :=
    World.Drifted.accompanies
  have parts : (accompanies.composition HasTimedOut).RelatesParts tracker tracker' client client pending
      (.exact (start + timeout)) (.exact (start + longer)) :=
    ⟨coupled_checkCancelled, accompanies.coupled_ask client, coupled_pause isLater⟩
  have coupled : Coupled (World.Drifted (start + timeout) latency) HasTimedOut
      (tracker.follow client pending confirmations (.exact (start + timeout)))
      (tracker'.follow client pending confirmations (.exact (start + longer))) :=
    parts.follow confirmations
  have begun : (world.entering .submitted).Drifted (start + timeout) latency (world.entering .submitted) :=
    .refl startsAt times
  rcases coupled _ _ begun with ⟨fault, _, isUp⟩ | ⟨same, drifted⟩
  · exact absurd (keeps.leaves.timedOut.mp isUp) isOther
  · rw [same]
    exact .of_drifted _ drifted entries entries'

/-- An endpoint that has no receipt when it is asked for one the first two times, and then tells of block 11 as soon as
it is asked for the height. -/
def lateAnswer : (request : Request) → Nat → Except Fault request.Reply × Nat
  | .transactionReceipt hash, asked =>
      (.ok (if asked < 2 then none
        else some ⟨hash, .success, .null, .int 21000, .null, .int 10, .int 0⟩), asked + 1)
  | .blockNumber, asked => (.ok (.int 11), asked)
  | .gasPrice, asked | .transactionCount _, asked | .sendRawTransaction _, asked =>
      (.error .unfinished, asked)

/-- The call of a tracker for which a request takes a quarter of a second. -/
def lateCall : TrackingCall Nat where
  client := .direct lateAnswer
  pending := ⟨.text "0xaa", .int 30000000⟩
  confirmations := .int 1
  world := { World.steady (1 / 4) 10 with endpoint := 0 }

/-- The earlier deadline cuts the second sleep short, and the receipt comes right after it. -/
theorem track_extended_late :
    (2 : Rat) ≤ 10 ∧ lateCall.world.TimesCalls (fun _ => 1 / 4) ∧
      (track ⟨.exact 2, .exact 1⟩ lateCall.client lateCall.pending lateCall.confirmations).Yields
        lateCall.world fun added result final => result.isOk = true ∧
          (track ⟨.exact 10, .exact 1⟩ lateCall.client lateCall.pending lateCall.confirmations).Yields
            lateCall.world (SameCourse added result final) := by
  have isLonger : (2 : Rat) ≤ 10 := by norm_num
  have times : lateCall.world.TimesCalls (fun _ => 1 / 4) := ⟨fun _ => by norm_num, fun _ _ => rfl⟩
  have isOk : ((track ⟨.exact 2, .exact 1⟩ lateCall.client lateCall.pending
      lateCall.confirmations).outcome lateCall.world).1.isOk = true := by
    decide +kernel
  have startsAt : lateCall.world.now = .exact 0 := rfl
  refine ⟨isLonger, times, ?_⟩
  rcases track_extended isLonger 1 lateCall.client lateCall.pending lateCall.confirmations startsAt
    times with ⟨added, entries, extended⟩
  refine ⟨added, entries, isOk, extended ?_⟩
  rintro ⟨⟨_, failed⟩, _⟩
  rw [failed] at isOk
  cases isOk

end Tracker

end WasmDeploy
