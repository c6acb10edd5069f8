import WasmDeploy.Proofs.Comparison
import WasmDeploy.Proofs.Tracker.Latest

/-!
# Fewer confirmations

Asking for fewer confirmations only stops tracking earlier. Two runs that ask for different counts do the same up to the
height that is high enough for the lower count. There the one that asks for fewer ends with success, and whatever the
other one does from there on comes after all that both have done. The two differ in what they log.
-/

namespace WasmDeploy

variable {σ α α' β β' : Type}

namespace Run

/-! ## Runs that stop earlier -/

/-- The first one of two runs stops no later than the second one: they end in the same way, or the first one ends early
and the second one has done all that the first one has. -/
inductive StopsFirst (early : α → Prop) :
    Except Fault α × World σ → Except Fault α × World σ → Prop where
  | together {result : Except Fault α} {final final' : World σ} (resembles : final.Resembles final') :
      StopsFirst early (result, final) (result, final')
  | earlier {value : α} {result' : Except Fault α} {final final' : World σ} (isEarly : early value)
      (continued : actsOf final.entries <+: actsOf final'.entries) :
      StopsFirst early (.ok value, final) (result', final')

/-- From worlds that differ in log records at most, the first operation stops no later than the second one. -/
def StopsEarlier (early : α → Prop) (operation operation' : Run σ α) : Prop :=
  ∀ world other : World σ, world.Resembles other →
    StopsFirst early (operation.outcome world) (operation'.outcome other)

/-- An operation only adds to what has been done. -/
def Continues (operation : Run σ α) : Prop :=
  ∀ world, actsOf world.entries <+: actsOf (operation.outcome world).2.entries

/-- An operation ends with a value and does nothing but write log records. -/
def EndsWith (operation : Run σ α) (value : α) : Prop :=
  ∀ world, ∃ final, operation.outcome world = (.ok value, final) ∧
    actsOf final.entries = actsOf world.entries

theorem Continues.of_yields {operation : Run σ α}
    {described : World σ → List Entry → Except Fault α → World σ → Prop}
    (yields : ∀ world, operation.Yields world (described world)) : Continues operation := by
  intro world
  rcases yields world with ⟨added, entries, _⟩
  rw [entries, actsOf_append]
  exact List.prefix_append _ _

theorem Continues.bind {first : Run σ α} {next : α → Run σ β} (continues : Continues first)
    (nextContinues : ∀ value, Continues (next value)) : Continues (first >>= next) := by
  intro world
  have continued := continues world
  rw [outcome_bind]
  generalize first.outcome world = ended at continued ⊢
  rcases ended with ⟨fault | value, middle⟩
  · exact continued
  · exact continued.trans (nextContinues value middle)

theorem EndsWith.continues {operation : Run σ α} {value : α} (ends : operation.EndsWith value) :
    Continues operation := by
  intro world
  rcases ends world with ⟨final, ending, unchanged⟩
  rw [ending]
  exact unchanged ▸ List.prefix_rfl

theorem endsWith_pure (value : α) : EndsWith (pure value : Run σ α) value :=
  fun world => ⟨world, rfl, rfl⟩

theorem endsWith_enter (state : TrackingState) : EndsWith (enter state : Run σ Unit) () :=
  fun world => ⟨world.entering state, rfl, rfl⟩

theorem endsWith_log (severity : Severity) (component : Component) (message : Message) :
    EndsWith (log severity component message : Run σ Unit) () :=
  fun world => ⟨_, rfl, actsOf_record_log world severity component message⟩

theorem EndsWith.bind {first : Run σ α} {next : α → Run σ β} {value : α} {value' : β}
    (ends : first.EndsWith value) (nextEnds : (next value).EndsWith value') :
    (first >>= next).EndsWith value' := by
  intro world
  rcases ends world with ⟨middle, ending, unchanged⟩
  rcases nextEnds middle with ⟨final, nextEnding, nextUnchanged⟩
  rw [outcome_bind, ending]
  exact ⟨final, nextEnding, nextUnchanged.trans unchanged⟩

theorem continues_get_bind {next : World σ → Run σ α} (continues : ∀ world, Continues (next world)) :
    Continues (get >>= next) :=
  fun world => continues world world

theorem continues_repeatUntil {step : α → Run σ (α ⊕ β)} (continues : ∀ start, Continues (step start))
    (times : Nat) (start : α) : Continues (repeatUntil step times start) := by
  induction times generalizing start with
  | zero => exact fun _ => List.prefix_rfl
  | succ times ih =>
      apply (continues start).bind
      rintro (next | value)
      · exact ih next
      · exact (endsWith_pure value).continues

section

variable {early : α → Prop} {earlyNext : β → Prop}

theorem Resembles.stopsEarlier {operation operation' : Run σ α}
    (resembles : Resembles Eq operation operation') : StopsEarlier early operation operation' := by
  intro world other same
  rcases resembles world other same with ⟨isMatched, final⟩
  generalize operation.outcome world = ended at isMatched final ⊢
  generalize operation'.outcome other = ended' at isMatched final ⊢
  rcases ended with ⟨result, _⟩
  rcases ended' with ⟨_, _⟩
  cases isMatched.eq
  exact .together final

/-- An operation that ends early stops no later than any that continues. -/
theorem EndsWith.stopsEarlier {operation operation' : Run σ α} {value : α}
    (ends : operation.EndsWith value) (isEarly : early value) (continues : Continues operation') :
    StopsEarlier early operation operation' := by
  intro world other same
  rcases ends world with ⟨final, ending, unchanged⟩
  rw [ending]
  apply StopsFirst.earlier isEarly
  rw [unchanged, ← same.acts]
  exact continues other

theorem stopsEarlier_get_bind {next next' : World σ → Run σ α}
    (stops : ∀ world other, world.Resembles other → StopsEarlier early (next world) (next' other)) :
    StopsEarlier early (get >>= next) (get >>= next') :=
  fun world other same => stops world other same world other same

theorem Resembles.stopsEarlier_bind {accords : α → α' → Prop} {first : Run σ α} {first' : Run σ α'}
    {next : α → Run σ β} {next' : α' → Run σ β} (resembles : Resembles accords first first')
    (stops : ∀ value value', accords value value' →
      StopsEarlier earlyNext (next value) (next' value')) :
    StopsEarlier earlyNext (first >>= next) (first' >>= next') := by
  intro world other same
  rcases resembles world other same with ⟨isMatched, middle⟩
  rw [outcome_bind, outcome_bind]
  generalize first.outcome world = ended at isMatched middle ⊢
  generalize first'.outcome other = ended' at isMatched middle ⊢
  rcases ended with ⟨result, final⟩
  rcases ended' with ⟨result', final'⟩
  dsimp only at isMatched middle
  cases isMatched with
  | ok accord => exact stops _ _ accord final final' middle
  | error fault => exact .together middle

/-- Where the first operation has stopped early, what is left of it ends early as well. -/
theorem StopsEarlier.bind {first first' : Run σ α} {next next' : α → Run σ β}
    (stops : StopsEarlier early first first')
    (nextStops : ∀ value, StopsEarlier earlyNext (next value) (next' value))
    (ends : ∀ value, early value → ∃ value', (next value).EndsWith value' ∧ earlyNext value')
    (continues : ∀ value, Continues (next' value)) :
    StopsEarlier earlyNext (first >>= next) (first' >>= next') := by
  intro world other same
  have stopped := stops world other same
  rw [outcome_bind, outcome_bind]
  generalize first.outcome world = ended at stopped ⊢
  generalize first'.outcome other = ended' at stopped ⊢
  cases stopped with
  | @together result final final' resembles =>
      cases result with
      | error fault => exact .together resembles
      | ok value => exact nextStops value final final' resembles
  | @earlier value result' middle middle' isEarly continued =>
      rcases ends value isEarly with ⟨value', endsWith, isEarlyNext⟩
      rcases endsWith middle with ⟨final, ending, unchanged⟩
      dsimp only
      rw [ending]
      apply StopsFirst.earlier isEarlyNext
      rw [unchanged]
      cases result' with
      | error fault => exact continued
      | ok value' => exact continued.trans (continues value' middle')

/-- A loop stops no later than another one if each of its turns does. -/
theorem stopsEarlier_repeatUntil {early : β → Prop} {step step' : α → Run σ (α ⊕ β)}
    (stops : ∀ start, StopsEarlier (fun turn => ∃ value, turn = .inr value ∧ early value)
      (step start) (step' start))
    (continues : ∀ start, Continues (step' start)) (times : Nat) (start : α) :
    StopsEarlier early (repeatUntil step times start) (repeatUntil step' times start) := by
  induction times generalizing start with
  | zero => exact (resembles_throw .unfinished).stopsEarlier
  | succ times ih =>
      apply (stops start).bind
      · rintro (next | value)
        · exact ih next
        · exact (resembles_pure rfl).stopsEarlier
      · rintro _ ⟨value, rfl, isEarly⟩
        exact ⟨value, endsWith_pure value, isEarly⟩
      · rintro (next | value)
        · exact continues_repeatUntil continues times next
        · exact (endsWith_pure value).continues

end

end Run

theorem Datum.isPositive_natCast {count : Nat} (isPositive : 0 < count) : (Datum.int count).isPositive = true := by
  rw [Datum.isPositive_int, decide_eq_true_iff]
  omega

/-- A count of confirmations that a result documents compares with itself. -/
theorem TrackingResult.Documents.isAtLeast_self {limit confirmations : Datum} {value : TrackingResult}
    (documents : value.Documents limit confirmations) :
    value.confirmations.isAtLeast value.confirmations = true := by
  by_cases unconfirmed : value.receipt.succeeded = false ∨ confirmations.isPositive = false
  · rw [documents.unconfirmed unconfirmed, Datum.isAtLeast_int, decide_eq_true_iff]
  · simp only [not_or, Bool.not_eq_false] at unconfirmed
    exact Datum.isAtLeast_self (documents.confirmed unconfirmed.1 unconfirmed.2)

/-- The confirmations of a successful transaction are at least as many as were asked for. -/
theorem TrackingResult.Documents.isAtLeast_natCast {limit : Datum} {count : Nat} {value : TrackingResult}
    (documents : value.Documents limit (.int count)) (isSuccess : value.receipt.succeeded = true) :
    value.confirmations.isAtLeast (.int count) = true := by
  rcases Nat.eq_zero_or_pos count with rfl | isPositive
  · rw [documents.unconfirmed (Or.inr (by simp))]
    simp
  · exact documents.confirmed isSuccess (Datum.isPositive_natCast isPositive)

namespace Tracker

open Run

/-! ## Two counts -/

/-- A depth is enough for one count but not for another one. -/
def IsBetween (fewer wanted : Nat) (depth : Datum) : Prop :=
  depth.isAtLeast (.int fewer) = true ∧ depth.isAtLeast (.int wanted) = false

/-- A height decides alike for both counts, or for the lower one only. -/
inductive Outpaces (fewer wanted : Nat) : Datum ⊕ Datum → Datum ⊕ Datum → Prop where
  | same (verdict : Datum ⊕ Datum) : Outpaces fewer wanted verdict verdict
  | between {depth : Datum} (isBetween : IsBetween fewer wanted depth) (highest : Datum) :
      Outpaces fewer wanted (.inr depth) (.inl highest)

/-- What early means for a turn: it has decided on a depth between the counts. -/
def DecidesBetween (fewer wanted : Nat) (verdict : Datum ⊕ Datum) : Prop :=
  ∃ depth, verdict = .inr depth ∧ IsBetween fewer wanted depth

variable {tracker : Tracker} {client : Client σ} {pending : PendingDeployment} {receipt : Receipt}
  {fewer wanted : Nat}

theorem isAtLeast_fewer (isFewer : fewer < wanted) {depth : Datum}
    (isEnough : depth.isAtLeast (.int wanted) = true) : depth.isAtLeast (.int fewer) = true := by
  apply Datum.isAtLeast_trans isEnough
  rw [Datum.isAtLeast_int, decide_eq_true_iff]
  omega

theorem assess_outpaces (isFewer : fewer < wanted) (highest height : Datum) :
    Matched (fun seen seen' => Outpaces fewer wanted seen.2 seen'.2)
      (assess receipt (.int fewer) highest height) (assess receipt (.int wanted) highest height) := by
  simp only [assess, bind, Except.bind, pure, Except.pure]
  rcases highest.larger height with fault | top
  · exact .error fault
  dsimp only
  rcases top.excess receipt.blockNumber with fault | depth
  · exact .error fault
  apply Matched.ok
  dsimp only
  by_cases isEnough : depth.isAtLeast (.int wanted) = true
  · rw [if_pos isEnough, if_pos (isAtLeast_fewer isFewer isEnough)]
    exact .same _
  · rw [if_neg isEnough]
    split
    · next isReached => exact .between ⟨isReached, by simpa using isEnough⟩ top
    · exact .same _

theorem judgeHeight_stopsEarlier (isFewer : fewer < wanted) (highest height : Datum) :
    StopsEarlier (DecidesBetween fewer wanted)
      (judgeHeight pending receipt (.int fewer) highest height : Run σ (Datum ⊕ Datum))
      (judgeHeight pending receipt (.int wanted) highest height) := by
  apply (resembles_lift (assess_outpaces isFewer highest height)).stopsEarlier_bind
  rintro ⟨depth, verdict⟩ ⟨depth', verdict'⟩ outpaces
  cases outpaces with
  | same verdict =>
      apply (resembles_log _ _ _ _).stopsEarlier_bind
      intro _ _ _
      exact (resembles_pure rfl).stopsEarlier
  | @between depth isBetween top =>
      have ends {verdict : Datum ⊕ Datum} {message : Message} :
          EndsWith (Run.log .debug .tracking message >>= fun _ => pure verdict : Run σ _) verdict :=
        (endsWith_log _ _ _).bind (endsWith_pure verdict)
      exact ends.stopsEarlier ⟨depth, rfl, isBetween⟩ ends.continues

theorem continues_pause (deadline : Measure) (known : Option Receipt) :
    Continues (tracker.pause pending deadline known : Run σ Unit) := by
  have yields (world : World σ) : (tracker.pause pending deadline known).Yields world fun _ _ _ => True :=
    yields_pause (fun _ => trivial) (fun _ _ _ _ _ => trivial) fun _ _ => trivial
  exact .of_yields yields

theorem poll_stopsEarlier (isFewer : fewer < wanted) (deadline : Measure) (highest : Datum) :
    StopsEarlier (DecidesBetween fewer wanted)
      (tracker.poll client pending deadline (some receipt) .blockNumber
        (judgeHeight pending receipt (.int fewer) highest))
      (tracker.poll client pending deadline (some receipt) .blockNumber
        (judgeHeight pending receipt (.int wanted) highest)) := by
  apply Resembles.stopsEarlier_bind ((resembling σ).relates_checkCancelled id)
  intro _ _ _
  apply (client.resembles_ask .blockNumber).stopsEarlier_bind
  rintro height _ rfl
  apply (judgeHeight_stopsEarlier isFewer highest height).bind
  · rintro (next | depth)
    · apply Resembles.stopsEarlier_bind ((resembling σ).relates_pause tracker deadline id)
      intro _ _ _
      exact (resembles_pure rfl).stopsEarlier
    · exact (resembles_pure rfl).stopsEarlier
  · rintro _ ⟨depth, rfl, isBetween⟩
    exact ⟨_, endsWith_pure _, depth, rfl, isBetween⟩
  · rintro (next | depth)
    · exact (continues_pause deadline _).bind fun _ => (endsWith_pure _).continues
    · exact (endsWith_pure _).continues

theorem continues_poll (deadline : Measure) (confirmations highest : Datum) :
    Continues (tracker.poll client pending deadline (some receipt) .blockNumber
      (judgeHeight pending receipt confirmations highest)) :=
  .of_yields (tracker.poll_yields client pending deadline (some receipt)
    (judges_judgeHeight pending receipt confirmations highest))

theorem awaitDepth_stopsEarlier (isFewer : fewer < wanted) (deadline : Measure) (polls : Nat)
    (highest : Datum) :
    StopsEarlier (IsBetween fewer wanted)
      (tracker.awaitDepth client pending receipt (.int fewer) deadline polls highest)
      (tracker.awaitDepth client pending receipt (.int wanted) deadline polls highest) :=
  stopsEarlier_repeatUntil (poll_stopsEarlier isFewer deadline)
    (continues_poll deadline (.int wanted)) polls highest

/-- Waiting for confirmations only adds to what has been done. -/
theorem continues_awaitConfirmations (confirmations : Datum) (deadline : Measure) :
    Continues (tracker.awaitConfirmations client pending receipt confirmations deadline) := by
  simp only [awaitConfirmations]
  split
  · apply (endsWith_log _ _ _).continues.bind
    intro _
    apply continues_get_bind
    intro world
    apply (continues_repeatUntil (continues_poll deadline confirmations) _ _).bind
    intro depth
    exact ((endsWith_enter .finalized).bind (endsWith_pure depth)).continues
  · exact (endsWith_pure _).continues

theorem awaitConfirmations_stopsEarlier (isFewer : fewer < wanted) (deadline : Measure) :
    StopsEarlier (IsBetween fewer wanted)
      (tracker.awaitConfirmations client pending receipt (.int fewer) deadline)
      (tracker.awaitConfirmations client pending receipt (.int wanted) deadline) := by
  rcases Nat.eq_zero_or_pos fewer with rfl | isPositive
  · have atOnce : EndsWith (tracker.awaitConfirmations client pending receipt (.int 0) deadline) (.int 0) :=
      endsWith_pure _
    exact atOnce.stopsEarlier ⟨by simp, by simpa using isFewer.ne'⟩ (continues_awaitConfirmations _ _)
  simp only [awaitConfirmations, if_pos (Datum.isPositive_natCast isPositive),
    if_pos (Datum.isPositive_natCast (isPositive.trans isFewer))]
  apply (resembles_log _ _ _ _).stopsEarlier_bind
  intro _ _ _
  apply stopsEarlier_get_bind
  intro world other same
  rw [same.alike.surroundings]
  apply (awaitDepth_stopsEarlier isFewer deadline _ _).bind
  · intro depth
    apply Resembles.stopsEarlier
    apply (resembling σ).bind ((resembling σ).enter _)
    intro _
    exact resembles_pure rfl
  · intro depth isBetween
    exact ⟨depth, (endsWith_enter _).bind (endsWith_pure _), isBetween⟩
  · intro depth
    exact ((endsWith_enter .finalized).bind (endsWith_pure depth)).continues

/-! ## Tracking -/

/-- What early means for a result: its depth is between the counts. -/
def ConfirmsBetween (fewer wanted : Nat) (result : TrackingResult) : Prop :=
  IsBetween fewer wanted result.confirmations

theorem confirm_stopsEarlier (isFewer : fewer < wanted) (deadline : Measure) :
    StopsEarlier (ConfirmsBetween fewer wanted)
      (tracker.confirm client pending receipt (.int fewer) deadline)
      (tracker.confirm client pending receipt (.int wanted) deadline) := by
  apply (awaitConfirmations_stopsEarlier isFewer deadline).bind
  · intro depth
    apply Resembles.stopsEarlier
    apply (resembling σ).bind ((resembling σ).enter _)
    intro _
    exact resembles_pure rfl
  · intro depth isBetween
    exact ⟨_, (endsWith_enter .success).bind (endsWith_pure _), isBetween⟩
  · intro depth
    exact ((endsWith_enter .success).bind (endsWith_pure _)).continues

theorem included_stopsEarlier (isFewer : fewer < wanted) (deadline : Measure) (receipt : Receipt) :
    StopsEarlier (ConfirmsBetween fewer wanted)
      (tracker.included client pending receipt (.int fewer) deadline)
      (tracker.included client pending receipt (.int wanted) deadline) := by
  apply Resembles.stopsEarlier_bind ((resembling σ).enter _)
  intro _ _ _
  apply (resembles_log _ _ _ _).stopsEarlier_bind
  intro _ _ _
  split
  · exact confirm_stopsEarlier isFewer deadline
  · exact Resembles.stopsEarlier ((resembling σ).composition.relates_conclude pending receipt)

theorem track_stopsEarlier (isFewer : fewer < wanted) :
    StopsEarlier (ConfirmsBetween fewer wanted)
      (tracker.track client pending (.int fewer)) (tracker.track client pending (.int wanted)) := by
  simp only [track, checkConfirmations_natCast]
  apply (resembles_lift (.refl _)).stopsEarlier_bind
  intro _ _ _
  apply Resembles.stopsEarlier_bind ((resembling σ).enter _)
  intro _ _ _
  apply Resembles.stopsEarlier_bind ((resembling σ).relates_timeAfter _)
  rintro deadline _ rfl
  apply (resembles_log _ _ _ _).stopsEarlier_bind
  intro _ _ _
  apply stopsEarlier_get_bind
  intro world other same
  rw [same.alike.surroundings]
  apply Resembles.stopsEarlier_bind (((resembling σ).relatesParts tracker deadline
    (fun _ (_ : tracker.Begins pending.txHash (.int fewer) _) => id) client.resembles_ask).awaitReceipt _)
  rintro receipt _ rfl
  exact included_stopsEarlier isFewer deadline receipt

/-- Whatever is done later, the first receipt with a block number stays the first one. -/
theorem firstMined_of_continued {added added' : List Entry} (continued : actsOf added <+: actsOf added')
    (isFirst : firstMined (exchangesOf added) = some receipt) :
    firstMined (exchangesOf added') = some receipt := by
  rcases continued with ⟨more, split⟩
  rw [← exchangesOf_actsOf added', ← split, exchangesOf_append, exchangesOf_actsOf, firstMined_append,
    isFirst, Option.some_or]

/-- A depth between the counts is no more than one that is enough for the higher count. -/
theorem isAtLeast_of_confirmsBetween {limit : Datum} {value value' : TrackingResult}
    (documents : value.Documents limit (.int fewer)) (documents' : value'.Documents limit (.int wanted))
    (sameReceipt : value.receipt = value'.receipt) (isEarly : ConfirmsBetween fewer wanted value) :
    value'.confirmations.isAtLeast value.confirmations = true := by
  rcases Datum.isAtLeast_total documents'.isAtLeast_self documents.isAtLeast_self with isMore | isLess
  · exact isMore
  by_cases isSuccess : value.receipt.succeeded = true
  · have isEnough := documents'.isAtLeast_natCast (sameReceipt ▸ isSuccess)
    cases (Datum.isAtLeast_trans isLess isEnough).symm.trans isEarly.2
  · have isReverted : value.receipt.succeeded = false := by simpa using isSuccess
    rw [documents.unconfirmed (Or.inl isReverted),
      documents'.unconfirmed (Or.inl (sameReceipt ▸ isReverted)), Datum.isAtLeast_int, decide_eq_true_iff]

/-- A run stops no later than another one from the same world. All that it does is the beginning of what the other one
does. Where the other one has a result, it has one in the same state and on the same receipt, with no more
confirmations. Where it fails itself, the other one does nothing more and fails in the same way. -/
structure StopsNoLater (added : List Entry) (result : Except Fault TrackingResult) (final : World σ)
    (added' : List Entry) (result' : Except Fault TrackingResult) (final' : World σ) : Prop where
  acts : actsOf added <+: actsOf added'
  requests : requestsOf added <+: requestsOf added'
  concludes : ∀ value', result' = .ok value' → ∃ value, result = .ok value ∧
    value.state = value'.state ∧ value.receipt = value'.receipt ∧
    value'.confirmations.isAtLeast value.confirmations = true
  fails : ∀ fault, result = .error fault → result' = .error fault ∧
    actsOf added' = actsOf added ∧ final'.tracking = final.tracking

theorem StopsNoLater.of_acts {added added' : List Entry} {result result' : Except Fault TrackingResult}
    {final final' : World σ} (acts : actsOf added <+: actsOf added')
    (concludes : ∀ value', result' = .ok value' → ∃ value, result = .ok value ∧
      value.state = value'.state ∧ value.receipt = value'.receipt ∧
      value'.confirmations.isAtLeast value.confirmations = true)
    (fails : ∀ fault, result = .error fault → result' = .error fault ∧
      actsOf added' = actsOf added ∧ final'.tracking = final.tracking) :
    StopsNoLater added result final added' result' final' where
  acts := acts
  requests := by
    rw [← requestsOf_actsOf added, ← requestsOf_actsOf added']
    exact acts.filterMap Entry.request?
  concludes := concludes
  fails := fails

/-- Tracking that asks for fewer confirmations stops no later. -/
theorem track_stopsNoLater (tracker : Tracker) (client : Client σ) (pending : PendingDeployment)
    {fewer wanted : Nat} (isFewer : fewer ≤ wanted) (world : World σ) :
    (tracker.track client pending (.int fewer)).Yields world fun added result final =>
      (tracker.track client pending (.int wanted)).Yields world (StopsNoLater added result final) := by
  rcases tracker.track_concludes client pending (.int fewer) world with ⟨added, entries, concludes⟩
  rcases tracker.track_concludes client pending (.int wanted) world with ⟨added', entries', concludes'⟩
  refine ⟨added, entries, added', entries', ?_⟩
  have stopped : StopsFirst (ConfirmsBetween fewer wanted)
      ((tracker.track client pending (.int fewer)).outcome world)
      ((tracker.track client pending (.int wanted)).outcome world) := by
    rcases isFewer.eq_or_lt with rfl | isFewer
    · exact .together (.refl _)
    · exact track_stopsEarlier isFewer world world (.refl world)
  generalize (tracker.track client pending (.int fewer)).outcome world = ended at *
  generalize (tracker.track client pending (.int wanted)).outcome world = ended' at *
  cases stopped with
  | @together result final final' resembles =>
      have acts : actsOf added' = actsOf added := by
        have same := resembles.acts
        rw [entries, entries', actsOf_append, actsOf_append] at same
        exact List.append_cancel_left same
      refine .of_acts (acts ▸ List.prefix_rfl) ?_ ?_
      · rintro value rfl
        exact ⟨value, rfl, rfl, rfl, (concludes value rfl).1.isAtLeast_self⟩
      · exact fun _ ends => ⟨ends, acts, resembles.alike.tracking⟩
  | @earlier value result' final final' isEarly continued =>
      rw [entries, entries', actsOf_append, actsOf_append, List.prefix_append_right_inj] at continued
      refine .of_acts continued ?_ (by simp)
      rintro value' rfl
      rcases concludes value rfl with ⟨documents, front, back, heard, unmined, isMined⟩
      rcases concludes' value' rfl with ⟨documents', front', back', heard', unmined', isMined'⟩
      have isFirst : firstMined (exchangesOf added) = some value.receipt :=
        heard ▸ firstMined_eq_some unmined isMined
      have isFirst' : firstMined (exchangesOf added') = some value'.receipt :=
        heard' ▸ firstMined_eq_some unmined' isMined'
      have sameReceipt : value.receipt = value'.receipt :=
        Option.some.inj ((firstMined_of_continued continued isFirst).symm.trans isFirst')
      refine ⟨value, rfl, ?_, sameReceipt, isAtLeast_of_confirmsBetween documents documents' sameReceipt isEarly⟩
      rw [documents.state, documents'.state, sameReceipt]

/-- Tracking with an endpoint whose heights go back before they go on. -/
def trackRewinding (confirmations : Nat) : Run Nat TrackingResult :=
  standard.track (.direct rewindingAnswer) ⟨.text "0xaa", .int 30000000⟩ (.int confirmations)

/-- How many confirmations the result has. -/
def rewoundDepth (confirmations : Nat) : Option String :=
  ((trackRewinding confirmations).outcome unheard).1.toOption.map fun value => value.confirmations.plain

theorem track_stopsNoLater_rewinding :
    1 ≤ 2 ∧ rewoundDepth 1 = some "1" ∧ rewoundDepth 2 = some "2" ∧
      (trackRewinding 1).Yields unheard fun added result final =>
        (trackRewinding 2).Yields unheard (StopsNoLater added result final) := by
  have isFewer : 1 ≤ 2 := by decide
  exact ⟨isFewer, by decide +kernel, by decide +kernel,
    standard.track_stopsNoLater (.direct rewindingAnswer) ⟨.text "0xaa", .int 30000000⟩ isFewer unheard⟩

end Tracker

end WasmDeploy
