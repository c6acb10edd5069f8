import WasmDeploy.Proofs.Coupling
import WasmDeploy.Proofs.Tracker.Depth
import WasmDeploy.Proofs.Tracker.Walk

/-!
# Cancelling

A request to cancel may come at any time, and it stays. This file says what tracking does from then on: it makes no
further request and sleeps once at most, and it ends as cancelled unless the call during which the request came has
decided how it ends. The journal tells when the request came, since it tells how many calls and sleeps have been made.
-/

namespace WasmDeploy

open Run

variable {σ α β : Type}

/-! ## When the request comes -/

/-- A request to cancel stays in place, however many calls and sleeps follow. -/
def Cancellation.Lasts (cancellation : Cancellation) : Prop :=
  ∀ {calls calls' sleeps sleeps' : Nat}, calls ≤ calls' → sleeps ≤ sleeps' →
    cancellation.isInPlace calls sleeps = true → cancellation.isInPlace calls' sleeps' = true

theorem Cancellation.lasts_afterCalls (count : Nat) : (afterCalls count).Lasts := by
  intro calls calls' sleeps sleeps' moreCalls _ inPlace
  simp only [afterCalls, decide_eq_true_iff] at inPlace ⊢
  exact inPlace.trans moreCalls

theorem Cancellation.lasts_afterSleeps (count : Nat) : (afterSleeps count).Lasts := by
  intro calls calls' sleeps sleeps' _ moreSleeps inPlace
  simp only [afterSleeps, decide_eq_true_iff] at inPlace ⊢
  exact inPlace.trans moreSleeps

namespace World

/-- Whether cancelling has been asked for once some entries were added to the journal. -/
def isCancelledAfter (world : World σ) (past : List Entry) : Bool :=
  world.cancellation.any fun cancellation =>
    cancellation.isInPlace (world.calls + (requestsOf past).length) (world.sleeps + (sleepsOf past).length)

/-- Once cancelling has been asked for, that stays so. -/
def StaysCancelled (world : World σ) : Prop :=
  ∀ cancellation, world.cancellation = some cancellation → cancellation.Lasts

@[simp]
theorem isCancelledAfter_nil (world : World σ) : world.isCancelledAfter [] = world.isCancelled := rfl

theorem StaysCancelled.isCancelledAfter_append {world : World σ} (stays : world.StaysCancelled)
    {past : List Entry} (isCancelled : world.isCancelledAfter past = true) (more : List Entry) :
    world.isCancelledAfter (past ++ more) = true := by
  rw [isCancelledAfter, Option.any_eq_true] at isCancelled ⊢
  rcases isCancelled with ⟨cancellation, isSome, inPlace⟩
  refine ⟨cancellation, isSome, stays cancellation isSome ?_ ?_ inPlace⟩
  · rw [requestsOf_append, List.length_append]
    omega
  · rw [sleepsOf_append, List.length_append]
    omega

end World

/-- The world keeps count of the calls and sleeps that are added to the journal. A request that has failed may not have
come to a call. -/
structure Counted (world : World σ) (added : List Entry) (result : Except Fault α) (final : World σ) :
    Prop where
  surroundings : final.toSurroundings = world.toSurroundings
  sleeps : final.sleeps = world.sleeps + (sleepsOf added).length
  atMost : final.calls ≤ world.calls + (requestsOf added).length
  calls : ∀ value, result = .ok value → final.calls = world.calls + (requestsOf added).length

namespace Counted

variable {world middle final : World σ} {first second added : List Entry} {value : α}
  {result : Except Fault β}

theorem append (left : Counted world first (.ok value) middle) (right : Counted middle second result final) :
    Counted world (first ++ second) result final where
  surroundings := right.surroundings.trans left.surroundings
  sleeps := by
    rw [right.sleeps, left.sleeps, sleepsOf_append, List.length_append]
    omega
  atMost := by
    have leftCalls := left.calls value rfl
    have rightCalls := right.atMost
    rw [requestsOf_append, List.length_append]
    omega
  calls := by
    intro value' ends
    rw [right.calls value' ends, left.calls value rfl, requestsOf_append, List.length_append]
    omega

theorem of_silent (silent : Silent added) (surroundings : final.toSurroundings = world.toSurroundings)
    (calls : final.calls = world.calls) (sleeps : final.sleeps = world.sleeps) :
    Counted world added result final where
  surroundings := surroundings
  sleeps := by simp [silent.sleeps, sleeps]
  atMost := by simp [calls]
  calls := by simp [silent.requests, calls]

theorem of_noted (noted : Noted world added final) : Counted world added result final :=
  .of_silent noted.silent noted.surroundings (noted.same ▸ rfl) (noted.same ▸ rfl)

theorem of_map {ending : Except Fault α} (conclusion : α → β)
    (counted : Counted world added (ending.map conclusion) final) : Counted world added ending final where
  surroundings := counted.surroundings
  sleeps := counted.sleeps
  atMost := counted.atMost
  calls := by
    rintro value rfl
    exact counted.calls (conclusion value) rfl

theorem staysCancelled (counted : Counted world added result final) (stays : world.StaysCancelled) :
    final.StaysCancelled := by
  intro cancellation isSome
  rw [counted.surroundings] at isSome
  exact stays cancellation isSome

/-- Where an operation has ended with a value, its journal tells what is asked for from there on. -/
theorem isCancelledAfter (counted : Counted world added (.ok value) final) (more : List Entry) :
    final.isCancelledAfter more = world.isCancelledAfter (added ++ more) := by
  rw [World.isCancelledAfter, World.isCancelledAfter, counted.calls value rfl, counted.sleeps,
    requestsOf_append, sleepsOf_append, List.length_append, List.length_append, ← Nat.add_assoc,
    ← Nat.add_assoc, counted.surroundings]

theorem isCancelled (counted : Counted world added (.ok value) final) :
    final.isCancelled = world.isCancelledAfter added := by
  rw [← World.isCancelledAfter_nil, counted.isCancelledAfter, List.append_nil]

/-- What has been asked for in the end shows in the journal. -/
theorem isCancelledAfter_of_isCancelled (counted : Counted world added result final)
    (stays : world.StaysCancelled) (isCancelled : final.isCancelled = true) :
    world.isCancelledAfter added = true := by
  rw [World.isCancelled, counted.surroundings, Option.any_eq_true] at isCancelled
  rcases isCancelled with ⟨cancellation, isSome, inPlace⟩
  rw [World.isCancelledAfter, Option.any_eq_true]
  exact ⟨cancellation, isSome, stays cancellation isSome counted.atMost counted.sleeps.le inPlace⟩

end Counted

/-- From the moment on at which cancelling has been asked for, no request is made and there is one sleep at most; if
that was so from the start, there is none. -/
structure Heeds (world : World σ) (added : List Entry) : Prop where
  atOnce : world.isCancelled = true → requestsOf added = [] ∧ sleepsOf added = []
  later : ∀ past future, added = past ++ future → world.isCancelledAfter past = true →
    requestsOf future = [] ∧ (sleepsOf future).length ≤ 1

namespace Heeds

variable {world middle : World σ} {first second added : List Entry} {value : α}

theorem of_silent (silent : Silent added) : Heeds world added where
  atOnce _ := ⟨silent.requests, silent.sleeps⟩
  later := by
    rintro past future rfl _
    have requests := silent.requests
    have sleeps := silent.sleeps
    rw [requestsOf_append, List.append_eq_nil_iff] at requests
    rw [sleepsOf_append, List.append_eq_nil_iff] at sleeps
    exact ⟨requests.2, by simp [sleeps.2]⟩

/-- Where nothing has been asked for at the start, one request with one sleep at most may follow. -/
theorem of_single {entry : Entry} {more : List Entry} (going : world.isCancelled = false)
    (single : requestsOf more = []) (rested : (sleepsOf (entry :: more)).length ≤ 1) :
    Heeds world (entry :: more) where
  atOnce isCancelled := by simp [going] at isCancelled
  later := by
    intro past future split isCancelled
    cases past with
    | nil => simp [going] at isCancelled
    | cons _ past =>
        rw [List.cons_append, List.cons.injEq] at split
        rcases split with ⟨rfl, rfl⟩
        rw [requestsOf_append, List.append_eq_nil_iff] at single
        rw [← List.cons_append, sleepsOf_append, List.length_append] at rested
        exact ⟨single.2, by omega⟩

theorem append (stays : world.StaysCancelled) (counted : Counted world first (.ok value) middle)
    (left : Heeds world first) (right : Heeds middle second) : Heeds world (first ++ second) where
  atOnce isCancelled := by
    have isCancelledNow : middle.isCancelled = true := by
      rw [counted.isCancelled]
      exact stays.isCancelledAfter_append (world.isCancelledAfter_nil.trans isCancelled) first
    rcases left.atOnce isCancelled with ⟨requests, sleeps⟩
    rcases right.atOnce isCancelledNow with ⟨moreRequests, moreSleeps⟩
    simp [requests, sleeps, moreRequests, moreSleeps]
  later := by
    intro past future split isCancelled
    rcases List.append_eq_append_iff.mp split with ⟨between, rfl, rfl⟩ | ⟨between, rfl, rfl⟩
    · rw [← counted.isCancelledAfter] at isCancelled
      exact right.later between future rfl isCancelled
    · -- The moment is in the first part, so nothing at all follows in the second one.
      have isCancelledNow : middle.isCancelled = true := by
        rw [counted.isCancelled]
        exact stays.isCancelledAfter_append isCancelled between
      rcases left.later past between rfl isCancelled with ⟨requests, sleeps⟩
      rcases right.atOnce isCancelledNow with ⟨moreRequests, moreSleeps⟩
      simpa [requests, moreRequests, moreSleeps] using sleeps

end Heeds

/-- What obeys a request to cancel: it heeds one that stays in place, and the world keeps count of it. -/
structure Obeys (world : World σ) (added : List Entry) (result : Except Fault α) (final : World σ) :
    Prop where
  heeds : world.StaysCancelled → Heeds world added
  counted : Counted world added result final

namespace Obeys

variable {world middle final : World σ} {first second added : List Entry} {value : α}
  {result : Except Fault β}

theorem append (left : Obeys world first (.ok value) middle) (right : Obeys middle second result final) :
    Obeys world (first ++ second) result final where
  heeds stays := .append stays left.counted (left.heeds stays)
    (right.heeds (left.counted.staysCancelled stays))
  counted := left.counted.append right.counted

theorem of_silent (silent : Silent added) (surroundings : final.toSurroundings = world.toSurroundings)
    (calls : final.calls = world.calls) (sleeps : final.sleeps = world.sleeps) :
    Obeys world added result final :=
  ⟨fun _ => .of_silent silent, .of_silent silent surroundings calls sleeps⟩

/-- The state of the tracker does not matter, nor what is noted in it. -/
theorem of_noted {state : TrackingState} (noted : Noted (world.entering state) added final) :
    Obeys world added result final :=
  .of_silent noted.silent noted.surroundings (noted.same ▸ rfl) (noted.same ▸ rfl)

/-- What is made of the value in the end, and the state of the tracker then, do not matter. -/
theorem ends {ending : Except Fault α} (obeys : Obeys world added ending middle)
    (hasEnded : ∀ value, result = .ok value → ∃ value', ending = .ok value')
    (surroundings : final.toSurroundings = middle.toSurroundings) (calls : final.calls = middle.calls)
    (sleeps : final.sleeps = middle.sleeps) : Obeys world added result final where
  heeds := obeys.heeds
  counted := {
    surroundings := surroundings.trans obeys.counted.surroundings
    sleeps := sleeps.trans obeys.counted.sleeps
    atMost := calls ▸ obeys.counted.atMost
    calls := by
      intro value isValue
      rcases hasEnded value isValue with ⟨value', isValue'⟩
      exact calls.trans (obeys.counted.calls value' isValue') }

end Obeys

namespace Run

/-- An operation keeps the counts. -/
def Counts (operation : Run σ α) : Prop :=
  ∀ world, operation.Yields world (Counted world)

theorem counts_pure (value : α) : Counts (pure value : Run σ α) :=
  fun _ => yields_pure (.of_silent .nil rfl rfl rfl)

theorem counts_bind {first : Run σ α} {next : α → Run σ β} (counts : Counts first)
    (nextCounts : ∀ value, Counts (next value)) : Counts (first >>= next) := by
  intro world
  apply yields_bind
  apply (counts world).mono
  rintro added (fault | value) middle counted
  · exact ⟨counted.surroundings, counted.sleeps, counted.atMost, nofun⟩
  · apply (nextCounts value middle).mono
    exact fun _ _ _ => counted.append

end Run

/-- A request that is answered is one call. -/
theorem Client.ask_counts (client : Client σ) (request : Request) (world : World σ) :
    (client.ask request).Yields world fun _ result final =>
      ∀ reply, result = .ok reply → final.calls = world.calls + 1 := by
  apply yields_record_bind
  apply yields_noting
  cases client with
  | direct answer =>
      apply yields_bind
      apply yields_passCall
      · intro finish _
        exact yields_answer fun _ _ => rfl
      · exact fun _ => nofun
  | http endpoint =>
      apply (performed_yields endpoint request _).mono
      rintro added result final (_ | _ | ⟨_, alike, _⟩)
      · exact nofun
      · exact nofun
      · exact fun _ _ => alike.calls

/-- Making a request starts with its record, and no other request and no sleep follow. -/
theorem Asked.exists_call {request : Request} {world final : World σ} {added : List Entry}
    {result : Except Fault request.Reply} (asked : Asked request world added result final) :
    ∃ more, added = ⟨world.now, world.tracking, .call request⟩ :: more ∧ requestsOf more = [] ∧
      sleepsOf more = [] := by
  rcases asked.spelled with ⟨between, carries, rfl⟩
  have silent := Silent.of_carries fun entry mem => (carries entry mem).1
  refine ⟨_, List.cons_append, ?_, ?_⟩
  · rw [requestsOf_append, silent.requests]
    rfl
  · rw [sleepsOf_append, silent.sleeps]
    rfl

theorem Client.counts_ask (client : Client σ) (request : Request) : Counts (client.ask request) := by
  intro world
  apply ((client.ask_yields request).and (client.ask_counts request world)).mono
  rintro added result final ⟨asked, counts⟩
  refine ⟨asked.after.surroundings, by simp [asked.sleeps, asked.after.sleeps], ?_, ?_⟩
  · rw [asked.requests, List.length_singleton]
    rcases asked.after.passes with ⟨calls, _⟩ | ⟨calls, _⟩ <;> omega
  · simpa [asked.requests] using counts

namespace Tracker

variable {tracker : Tracker} {pending : PendingDeployment} {deadline : Measure} {known : Option Receipt}
  {request : Request}

/-! ## One poll -/

theorem counts_checkCancelled : Counts (checkCancelled pending : Run σ Unit) :=
  fun _ => yields_checkCancelled (fun _ => .of_silent .nil rfl rfl rfl)
    fun _ => .of_silent .nil rfl rfl rfl

theorem counts_pause : Counts (tracker.pause pending deadline known : Run σ Unit) := by
  intro world
  apply yields_pause
  · exact fun _ => .of_silent .nil rfl rfl rfl
  · exact fun _ _ _ _ _ => ⟨rfl, rfl, Nat.le_refl _, fun _ _ => rfl⟩
  · exact fun _ _ => .of_silent .nil rfl rfl rfl

theorem counts_judge {γ : Type} {judge : γ → Run σ α} {verdict : γ → Except Fault α}
    (judges : Judges judge verdict) (reply : γ) : Counts (judge reply) := by
  intro world
  apply (judges reply world).mono
  exact fun _ _ _ described => .of_noted described.1

theorem counts_poll (tracker : Tracker) (client : Client σ) (pending : PendingDeployment)
    (deadline : Measure) (known : Option Receipt) {judge : request.Reply → Run σ (α ⊕ β)}
    {verdict : request.Reply → Except Fault (α ⊕ β)} (judges : Judges judge verdict) :
    Counts (tracker.poll client pending deadline known request judge) := by
  apply counts_bind counts_checkCancelled
  intro _
  apply counts_bind (client.counts_ask request)
  intro reply
  apply counts_bind (counts_judge judges reply)
  rintro (next | value)
  · exact counts_bind counts_pause fun _ => counts_pure _
  · exact counts_pure _

/-- What follows a verdict is one sleep at most. -/
theorem Settled.length_sleepsOf {verdict result : Except Fault (α ⊕ β)} {world final : World σ}
    {added : List Entry}
    (settled : tracker.Settled pending deadline known verdict world added result final) :
    (sleepsOf added).length ≤ 1 := by
  cases settled <;> simp

/-- A poll makes no request if cancelling has been asked for, and one request with one sleep at most otherwise. -/
theorem Polled.heeds {verdict : request.Reply → Except Fault (α ⊕ β)} {world final : World σ}
    {added : List Entry} {result : Except Fault (α ⊕ β)}
    (polled : tracker.Polled pending deadline known request verdict world added result final) :
    Heeds world added := by
  cases polled with
  | cancelled due => exact .of_silent .nil
  | failed going ask =>
      rcases ask.exists_call with ⟨more, rfl, noRequest, awake⟩
      exact .of_single going noRequest (by simp [ask.sleeps])
  | @judged _ notes rest _ _ _ _ _ going ask noted settled =>
      have rested := settled.length_sleepsOf
      rcases ask.exists_call with ⟨more, rfl, noRequest, awake⟩
      apply Heeds.of_single going
      · simp [noRequest, noted.silent.requests, settled.requests]
      · change (sleepsOf ((_ :: more) ++ (notes ++ rest))).length ≤ 1
        rwa [sleepsOf_append, sleepsOf_append, ask.sleeps, noted.silent.sleeps]

/-! ## A phase -/

/-- What a phase goes on from after replies that have left it undecided. -/
inductive Leads (request : Request) (verdict : α → request.Reply → Except Fault (α ⊕ β)) :
    α → List Exchange → α → Prop where
  | refl {start : α} : Leads request verdict start [] start
  | undecided {start next last : α} {reply : request.Reply} {exchanges : List Exchange}
      (judged : verdict start reply = .ok (.inl next)) (rest : Leads request verdict next exchanges last) :
      Leads request verdict start (⟨request, .ok reply⟩ :: exchanges) last

/-- How a phase ends: as cancelled, given up, or with what its last turn comes to. Then cancelling had not been asked
for before that turn, the turn started from what the ones before it had led to, and it did not sleep. -/
inductive EndsPhase (tracker : Tracker) (pending : PendingDeployment) (deadline : Measure)
    (known : Option Receipt) (request : Request) (verdict : α → request.Reply → Except Fault (α ⊕ β))
    (times : Nat) (origin : α) (world : World σ) (added : List Entry) (final : World σ) :
    Except Fault β → Prop where
  | cancelled :
      EndsPhase tracker pending deadline known request verdict times origin world added final
        (.error (.of (.cancelled pending.txHash)))
  | unfinished (polled : times ≤ (requestsOf added).length) :
      EndsPhase tracker pending deadline known request verdict times origin world added final
        (.error .unfinished)
  | turned {before last : List Entry} {start : α} {exchange : Exchange} {result : Except Fault β}
      (split : added = before ++ last) (going : world.isCancelledAfter before = false)
      (leads : Leads request verdict origin (exchangesOf before) start)
      (heard : exchangesOf last = [exchange]) (awake : sleepsOf last = [])
      (turn : tracker.Turned pending deadline known request (verdict start) final [exchange] 0
        (result.map Sum.inr)) :
      EndsPhase tracker pending deadline known request verdict times origin world added final result

/-- A phase that obeys a request to cancel, and how it ends. -/
structure Watched (tracker : Tracker) (pending : PendingDeployment) (deadline : Measure)
    (known : Option Receipt) (request : Request) (verdict : α → request.Reply → Except Fault (α ⊕ β))
    (times : Nat) (origin : α) (world : World σ) (added : List Entry) (result : Except Fault β)
    (final : World σ) : Prop where
  obeys : Obeys world added result final
  ends : tracker.EndsPhase pending deadline known request verdict times origin world added final result

section

variable {world final : World σ} {added : List Entry}

theorem Polled.going_of_heard {verdict : request.Reply → Except Fault (α ⊕ β)}
    {result : Except Fault (α ⊕ β)} {exchange : Exchange}
    (polled : tracker.Polled pending deadline known request verdict world added result final)
    (heard : exchangesOf added = [exchange]) : world.isCancelled = false := by
  cases polled with
  | cancelled due => cases heard
  | failed going ask => exact going
  | judged going ask noted settled => exact going

/-- A turn that is the last one is cancelled, or it hears of one request and does not sleep. -/
theorem Turned.ends {verdict : request.Reply → Except Fault (α ⊕ β)} {exchanges : List Exchange}
    {sleeps : Nat} {result : Except Fault β}
    (turned : tracker.Turned pending deadline known request verdict final exchanges sleeps
      (result.map Sum.inr)) :
    result = .error (.of (.cancelled pending.txHash)) ∨
      ∃ exchange, exchanges = [exchange] ∧ sleeps = 0 := by
  cases result with
  | error fault =>
      cases turned with
      | cancelled due => exact Or.inl rfl
      | spoiled judged => exact Or.inr ⟨_, rfl, rfl⟩
      | failed => exact Or.inr ⟨_, rfl, rfl⟩
      | timedOut judged isUp => exact Or.inr ⟨_, rfl, rfl⟩
      | stopped judged unshown => exact Or.inr ⟨_, rfl, rfl⟩
  | ok value =>
      cases turned with
      | decided judged => exact Or.inr ⟨_, rfl, rfl⟩

variable {verdict : α → request.Reply → Except Fault (α ⊕ β)} {start : α} {times : Nat}
  {result : Except Fault β}

theorem Polled.endsPhase
    (polled : tracker.Polled pending deadline known request (verdict start) world added
      (result.map Sum.inr) final) :
    tracker.EndsPhase pending deadline known request verdict times start world added final result := by
  have turned := polled.turned
  rcases turned.ends with rfl | ⟨exchange, heard, awake⟩
  · exact .cancelled
  · rw [heard, awake] at turned
    exact .turned (List.nil_append added).symm (polled.going_of_heard heard) .refl heard
      (List.eq_nil_of_length_eq_zero awake) turned

/-- A turn before the last one only says what the phase goes on from. -/
theorem EndsPhase.afterTurn {first : List Entry} {middle : World σ} {next : α}
    (polled : tracker.Polled pending deadline known request (verdict start) world first (.ok (.inl next))
      middle)
    (counted : Counted world first (.ok (Sum.inl next : α ⊕ β)) middle)
    (asked : (requestsOf first).length = 1)
    (ends : tracker.EndsPhase pending deadline known request verdict times next middle added final result) :
    tracker.EndsPhase pending deadline known request verdict (times + 1) start world (first ++ added) final
      result := by
  cases ends with
  | cancelled => exact .cancelled
  | unfinished polled =>
      apply EndsPhase.unfinished
      rw [requestsOf_append, List.length_append, asked]
      omega
  | @turned before _ _ _ _ split going leads heard awake turn =>
      rcases polled.turned.exists_undecided with ⟨reply, told, _, judged⟩
      rw [counted.isCancelledAfter] at going
      refine .turned (by rw [split, List.append_assoc]) going ?_ heard awake turn
      rw [exchangesOf_append, told]
      exact .undecided judged leads

theorem Polled.length_requestsOf {verdict : request.Reply → Except Fault (α ⊕ β)} {turn : α ⊕ β}
    (polled : tracker.Polled pending deadline known request verdict world added (.ok turn) final) :
    (requestsOf added).length = 1 := by
  cases polled with
  | judged going ask noted settled => simp [ask.requests, noted.silent.requests, settled.requests]

/-- Turns that are polls make a phase. -/
theorem watched_of_repeated
    (repeated : Repeated (fun start world added result final =>
      tracker.Polled pending deadline known request (verdict start) world added result final ∧
        Counted world added result final) times start world added result final) :
    tracker.Watched pending deadline known request verdict times start world added result final := by
  induction repeated with
  | exhausted => exact ⟨.of_silent .nil rfl rfl rfl, .unfinished (Nat.zero_le _)⟩
  | failed last =>
      exact ⟨⟨fun _ => last.1.heeds, Counted.of_map Sum.inr last.2⟩, Polled.endsPhase last.1⟩
  | ended last =>
      exact ⟨⟨fun _ => last.1.heeds, Counted.of_map Sum.inr last.2⟩, Polled.endsPhase last.1⟩
  | again first _ ih =>
      have obeys : Obeys _ _ _ _ := ⟨fun _ => first.1.heeds, first.2⟩
      exact ⟨obeys.append ih.obeys, ih.ends.afterTurn first.1 first.2 first.1.length_requestsOf⟩

end

theorem awaitReceipt_watched (tracker : Tracker) (client : Client σ) (pending : PendingDeployment)
    (deadline : Measure) (polls : Nat) (world : World σ) :
    (tracker.awaitReceipt client pending deadline polls).Yields world
      (tracker.Watched pending deadline none (.transactionReceipt pending.txHash)
        (fun (_ : Unit) => receiptVerdict) polls () world) := by
  apply (repeatUntil_yields (fun _ world =>
    (tracker.poll_yields client pending deadline none (judges_judgeReceipt pending) world).and
      (tracker.counts_poll client pending deadline none (judges_judgeReceipt pending) world)) polls ()
        world).mono
  exact fun _ _ _ repeated => watched_of_repeated repeated

theorem awaitDepth_watched (tracker : Tracker) (client : Client σ) (pending : PendingDeployment)
    (receipt : Receipt) (confirmations : Datum) (deadline : Measure) (polls : Nat) (highest : Datum)
    (world : World σ) :
    (tracker.awaitDepth client pending receipt confirmations deadline polls highest).Yields world
      (tracker.Watched pending deadline (some receipt) .blockNumber
        (heightVerdict receipt confirmations) polls highest world) := by
  apply (repeatUntil_yields (fun highest world =>
    (tracker.poll_yields client pending deadline (some receipt)
      (judges_judgeHeight pending receipt confirmations highest) world).and
      (tracker.counts_poll client pending deadline (some receipt)
        (judges_judgeHeight pending receipt confirmations highest) world)) polls highest world).mono
  exact fun _ _ _ repeated => watched_of_repeated repeated

/-! ## Integers -/

theorem heightVerdict_int {receipt : Receipt} {block : Int} (isBlock : receipt.blockNumber = .int block)
    (wanted : Nat) (highest height : Int) :
    ∃ verdict, heightVerdict receipt (.int wanted) (.int highest) (.int height) = .ok verdict ∧
      ∀ next, verdict = .inl next → ∃ number : Int, next = .int number := by
  rw [heightVerdict, assess_int isBlock highest]
  refine ⟨_, rfl, ?_⟩
  intro next goesOn
  split at goesOn
  · cases goesOn
  · exact ⟨_, (Sum.inl.inj goesOn).symm⟩

/-- The highest height seen is an integer if the heights and the block are. -/
theorem Leads.exists_int {receipt : Receipt} {block : Int} {wanted : Nat} {origin highest : Datum}
    {exchanges : List Exchange} (isBlock : receipt.blockNumber = .int block)
    (leads : Leads .blockNumber (heightVerdict receipt (.int wanted)) origin exchanges highest)
    (counts : ∀ exchange ∈ exchanges, exchange.CountsBlocks) (isInteger : ∃ number : Int, origin = .int number) :
    ∃ number : Int, highest = .int number := by
  induction leads with
  | refl => exact isInteger
  | undecided judged _ ih =>
      rw [List.forall_mem_cons] at counts
      rcases isInteger with ⟨earlier, rfl⟩
      rcases counts with ⟨⟨height, rfl⟩, countsLater⟩
      rcases heightVerdict_int isBlock wanted earlier height with ⟨_, isVerdict, isNext⟩
      cases isVerdict.symm.trans judged
      exact ih countsLater (isNext _ rfl)

/-! ## The last call -/

/-- How the last call decides the way in which tracking ends: it fails, it brings a receipt that tells of a revert or
that needs no confirmations, it brings a height that is high enough, or it comes back when the deadline has passed or
when the clock cannot show the end of a sleep. It also decides by bringing what cannot be told or judged: the gas of a
revert, or a height where some height or block that has been told of is no integer. -/
inductive Decisive (tracker : Tracker) (pending : PendingDeployment) (confirmations : Datum)
    (due : Option Measure) (told : List Exchange) (final : World σ) :
    Exchange → Except Fault TrackingResult → Prop where
  | failed {request : Request} {fault : Fault} :
      Decisive tracker pending confirmations due told final ⟨request, .error fault⟩ (.error fault)
  | reverted {receipt : Receipt} {reached : Bool} (isMined : receipt.blockNumber.isNull = false)
      (isReverted : receipt.succeeded = false) :
      Decisive tracker pending confirmations due told final
        ⟨.transactionReceipt pending.txHash, .ok (some receipt)⟩
        (.ok ⟨.reverted, receipt, pending.gasLimit, .int 0, reached⟩)
  | confirmedAtOnce {receipt : Receipt} (isMined : receipt.blockNumber.isNull = false)
      (isSuccess : receipt.succeeded = true) (unwanted : confirmations.isPositive = false) :
      Decisive tracker pending confirmations due told final
        ⟨.transactionReceipt pending.txHash, .ok (some receipt)⟩
        (.ok ⟨.success, receipt, pending.gasLimit, .int 0, false⟩)
  | confirmed {receipt : Receipt} {height depth : Datum} (isEnough : depth.isAtLeast confirmations = true) :
      Decisive tracker pending confirmations due told final ⟨.blockNumber, .ok height⟩
        (.ok ⟨.success, receipt, pending.gasLimit, depth, false⟩)
  | untold {receipt : Receipt} {cause : Defect} (isMined : receipt.blockNumber.isNull = false)
      (isUntold : Untold pending receipt) :
      Decisive tracker pending confirmations due told final
        ⟨.transactionReceipt pending.txHash, .ok (some receipt)⟩ (.error (.defect cause))
  | unjudged {height : Datum} {cause : Defect} (uncounted : ∃ exchange ∈ told, ¬exchange.CountsBlocks) :
      Decisive tracker pending confirmations due told final ⟨.blockNumber, .ok height⟩
        (.error (.defect cause))
  | timedOut {request : Request} {reply : request.Reply} {known : Option Receipt} {deadline : Measure}
      (isDue : due = some deadline) (isUp : (deadline.sub final.now).isNonPositive = true) :
      Decisive tracker pending confirmations due told final ⟨request, .ok reply⟩
        (.error (tracker.overdue pending known))
  | stopped {request : Request} {reply : request.Reply} {duration : Measure}
      (unshown : final.now.add? duration = none) :
      Decisive tracker pending confirmations due told final ⟨request, .ok reply⟩
        (.error (.defect .beyondFloat))

/-- How tracking ends, given what it has been told: as cancelled, or with its last call. Then cancelling had not been
asked for before that call, no sleep followed it, and it was decisive. Apart from that the clock may not be able to show
the deadline, and tracking is given up at the horizon of the world. -/
inductive EndsBy (tracker : Tracker) (pending : PendingDeployment) (confirmations : Datum)
    (due : Option Measure) (told : List Exchange) (world : World σ) (added : List Entry) (final : World σ) :
    Except Fault TrackingResult → Prop where
  | cancelled :
      EndsBy tracker pending confirmations due told world added final
        (.error (.of (.cancelled pending.txHash)))
  | decided {before last : List Entry} {exchange : Exchange} {result : Except Fault TrackingResult}
      (split : added = before ++ last) (going : world.isCancelledAfter before = false)
      (heard : exchangesOf last = [exchange]) (awake : sleepsOf last = [])
      (decisive : tracker.Decisive pending confirmations due told final exchange result) :
      EndsBy tracker pending confirmations due told world added final result
  | unlimited (undue : due = none) :
      EndsBy tracker pending confirmations due told world added final (.error (.defect .beyondFloat))
  | unfinished (polled : world.horizon ≤ (requestsOf added).length) :
      EndsBy tracker pending confirmations due told world added final (.error .unfinished)

section

variable {confirmations : Datum} {due : Option Measure} {receipt : Receipt} {fault : Fault}
  {told : List Exchange} {world middle final : World σ} {added first rest : List Entry}
  {result : Except Fault TrackingResult}

theorem EndsBy.after {value : α} (counted : Counted world first (.ok value) middle)
    (ends : tracker.EndsBy pending confirmations due told middle added final result) :
    tracker.EndsBy pending confirmations due told world (first ++ added) final result := by
  cases ends with
  | cancelled => exact .cancelled
  | decided split going heard awake decisive =>
      rw [counted.isCancelledAfter] at going
      exact .decided (by rw [split, List.append_assoc]) going heard awake decisive
  | unlimited undue => exact .unlimited undue
  | unfinished polled =>
      apply EndsBy.unfinished
      rw [counted.surroundings] at polled
      rw [requestsOf_append, List.length_append]
      omega

/-- The first phase ends tracking if it ends with a fault. -/
theorem EndsPhase.endsBy_of_receipt
    (ends : tracker.EndsPhase pending deadline none (.transactionReceipt pending.txHash)
      (fun (_ : Unit) => receiptVerdict) world.horizon () world added final (.error fault)) :
    tracker.EndsBy pending confirmations (some deadline) told world added final (.error fault) := by
  cases ends with
  | cancelled => exact .cancelled
  | unfinished polled => exact .unfinished polled
  | turned split going leads heard awake turn =>
      apply EndsBy.decided split going heard awake
      cases turn with
      | spoiled judged => exact absurd judged receiptVerdict_ne_error
      | failed => exact .failed
      | timedOut judged isUp => exact .timedOut rfl isUp
      | stopped judged unshown => exact .stopped unshown

/-- A height can be judged if all figures so far are integers. -/
theorem Leads.exists_uncounted {wanted : Nat} {exchanges : List Exchange} {highest height : Datum}
    (isMined : receipt.blockNumber.isNull = false)
    (leads : Leads .blockNumber (heightVerdict receipt (.int wanted)) receipt.blockNumber exchanges highest)
    (spoiled : heightVerdict receipt (.int wanted) highest height = .error fault)
    (placed : ⟨.transactionReceipt pending.txHash, .ok (some receipt)⟩ ∈ told)
    (heard : ∀ exchange ∈ exchanges ++ [⟨.blockNumber, .ok height⟩], exchange ∈ told) :
    ∃ exchange ∈ told, ¬exchange.CountsBlocks := by
  by_contra! counts
  rcases counts _ placed receipt (by simp [mined?, isMined]) with ⟨block, isBlock⟩
  rcases leads.exists_int isBlock (fun exchange mem => counts _ (heard exchange (by simp [mem])))
    ⟨block, isBlock⟩ with ⟨earlier, rfl⟩
  rcases counts ⟨.blockNumber, .ok height⟩ (heard _ (by simp)) with ⟨number, rfl⟩
  rcases heightVerdict_int isBlock wanted earlier number with ⟨_, isVerdict, _⟩
  cases isVerdict.symm.trans spoiled

/-- So does the second one, whatever it ends with. -/
theorem EndsPhase.endsBy_of_height {wanted : Nat} {ended : Except Fault Datum} {seen : World σ}
    (ends : tracker.EndsPhase pending deadline (some receipt) .blockNumber
      (heightVerdict receipt (.int wanted)) world.horizon receipt.blockNumber world added seen ended)
    (isMined : receipt.blockNumber.isNull = false)
    (placed : ⟨.transactionReceipt pending.txHash, .ok (some receipt)⟩ ∈ told)
    (heights : ∀ exchange ∈ exchangesOf added, exchange ∈ told)
    (same : ∀ fault, ended = .error fault → final = seen) :
    tracker.EndsBy pending (.int wanted) (some deadline) told world added final
      (ended.map fun depth => ⟨.success, receipt, pending.gasLimit, depth, false⟩) := by
  cases ends with
  | cancelled => exact .cancelled
  | unfinished polled => exact .unfinished polled
  | turned split going leads heard awake turn =>
      apply EndsBy.decided split going heard awake
      rw [split, exchangesOf_append, heard] at heights
      cases ended with
      | error fault =>
          obtain rfl := same fault rfl
          cases turn with
          | spoiled judged =>
              rcases onlyDefects_heightVerdict _ _ _ _ fault judged with ⟨cause, rfl, _⟩
              exact .unjudged (leads.exists_uncounted isMined judged placed heights)
          | failed => exact .failed
          | timedOut judged isUp => exact .timedOut rfl isUp
          | stopped judged unshown => exact .stopped unshown
      | ok depth =>
          cases turn with
          | decided judged => exact .confirmed (isAtLeast_of_heightVerdict judged)

theorem Concluded.obeys
    (concluded : Concluded pending confirmations receipt (fun seen =>
      tracker.Watched pending deadline (some receipt) .blockNumber
        (heightVerdict receipt confirmations) seen.horizon receipt.blockNumber seen) world added result final) :
    Obeys world added result final := by
  cases concluded with
  | untold isReverted noted incomparable other =>
      exact .of_silent noted.silent noted.surroundings (noted.same ▸ rfl) (noted.same ▸ rfl)
  | reverted isReverted noted told warned =>
      refine .of_silent (noted.silent.append warned.silent) ?_ ?_ ?_
      · exact warned.surroundings.trans noted.surroundings
      · rw [warned.same, noted.same]
        rfl
      · rw [warned.same, noted.same]
        rfl
  | confirmedAtOnce isSuccess unwanted noted =>
      exact .of_silent noted.silent noted.surroundings (noted.same ▸ rfl) (noted.same ▸ rfl)
  | unconfirmed isSuccess wanted noted phase =>
      have begun : Obeys world _ (.ok ()) _ := .of_noted noted
      exact begun.append (phase.obeys.ends nofun rfl rfl rfl)
  | confirmed isSuccess wanted noted phase =>
      have begun : Obeys world _ (.ok ()) _ := .of_noted noted
      exact begun.append (phase.obeys.ends (fun _ _ => ⟨_, rfl⟩) rfl rfl rfl)

theorem Concluded.endsBy {wanted : Nat} {polled before last : List Entry}
    (isMined : receipt.blockNumber.isNull = false) (split : polled = before ++ last)
    (going : world.isCancelledAfter before = false)
    (heard : exchangesOf last = [⟨.transactionReceipt pending.txHash, .ok (some receipt)⟩])
    (awake : sleepsOf last = []) (counted : Counted world polled (.ok receipt) middle)
    (known : ∀ exchange ∈ exchangesOf (polled ++ rest), exchange ∈ told)
    (concluded : Concluded pending (.int wanted) receipt (fun seen =>
      tracker.Watched pending deadline (some receipt) .blockNumber
        (heightVerdict receipt (.int wanted)) seen.horizon receipt.blockNumber seen) middle rest result
          final) :
    tracker.EndsBy pending (.int wanted) (some deadline) told world (polled ++ rest) final result := by
  have placed : ⟨.transactionReceipt pending.txHash, .ok (some receipt)⟩ ∈ told := by
    apply known
    simp [split, heard]
  have heights {notes more : List Entry} (isRest : rest = notes ++ more) :
      ∀ exchange ∈ exchangesOf more, exchange ∈ told := by
    intro exchange mem
    apply known
    simp [isRest, mem]
  have atOnce (silent : Silent rest)
      (decisive : tracker.Decisive pending (.int wanted) (some deadline) told final
        ⟨.transactionReceipt pending.txHash, .ok (some receipt)⟩ result) :
      tracker.EndsBy pending (.int wanted) (some deadline) told world (polled ++ rest) final result := by
    apply EndsBy.decided _ going _ _ decisive
    · exact last ++ rest
    · rw [split, List.append_assoc]
    · rw [exchangesOf_append, heard, silent.exchanges, List.append_nil]
    · rw [sleepsOf_append, awake, silent.sleeps, List.append_nil]
  cases concluded with
  | untold isReverted noted incomparable other =>
      exact atOnce noted.silent (.untold isMined ⟨isReverted, _, incomparable⟩)
  | reverted isReverted noted _ warned =>
      exact atOnce (noted.silent.append warned.silent) (.reverted isMined isReverted)
  | confirmedAtOnce isSuccess unwanted noted =>
      exact atOnce noted.silent (.confirmedAtOnce isMined isSuccess unwanted)
  | unconfirmed isSuccess isWanted noted phase =>
      have begun : Obeys middle _ (.ok ()) _ := .of_noted noted
      exact .after counted (.after begun.counted
        (phase.ends.endsBy_of_height isMined placed (heights rfl) fun _ _ => rfl))
  | confirmed isSuccess isWanted noted phase =>
      have begun : Obeys middle _ (.ok ()) _ := .of_noted noted
      exact .after counted (.after begun.counted
        (phase.ends.endsBy_of_height isMined placed (heights rfl) nofun))

/-- The call that brings the receipt in the end of the first phase. -/
theorem EndsPhase.exists_receipt {times : Nat}
    (ends : tracker.EndsPhase pending deadline none (.transactionReceipt pending.txHash)
      (fun (_ : Unit) => receiptVerdict) times () world added final (.ok receipt)) :
    receipt.blockNumber.isNull = false ∧ ∃ before last, added = before ++ last ∧
      world.isCancelledAfter before = false ∧
      exchangesOf last = [⟨.transactionReceipt pending.txHash, .ok (some receipt)⟩] ∧
      sleepsOf last = [] := by
  cases ends with
  | turned split going leads heard awake turn =>
      cases turn with
      | decided judged =>
          rcases Option.filter_eq_some_iff.mp ((receiptVerdict_eq_inr_iff _ _).mp judged) with
            ⟨rfl, isMined⟩
          exact ⟨by simpa using isMined, _, _, split, going, heard, awake⟩

end

/-- Tracking obeys a request to cancel, and ends as cancelled or by its last call. -/
theorem track_obeys (tracker : Tracker) (client : Client σ) (pending : PendingDeployment) (count : Nat)
    (world : World σ) :
    (tracker.track client pending (.int count)).Yields world fun added result final =>
      Obeys world added result final ∧
        tracker.EndsBy pending (.int count) (world.now.add? tracker.timeout) (exchangesOf added) world added
          final result := by
  apply (tracker.track_yields client pending (.int count) world
    (fun deadline begun => tracker.awaitReceipt_watched client pending deadline begun.horizon begun)
    fun deadline receipt seen =>
      tracker.awaitDepth_watched client pending receipt (.int count) deadline seen.horizon
        receipt.blockNumber seen).mono
  intro added result final tracked
  have begins {notes : List Entry} {begun : World σ} (noted : Noted (world.entering .submitted) notes begun) :
      Obeys world notes (.ok ()) begun := .of_noted noted
  cases tracked with
  | refused invalid => cases invalid.symm.trans (checkConfirmations_natCast count)
  | unlimited _ undue => exact ⟨.of_silent .nil rfl rfl rfl, .unlimited undue⟩
  | unmined _ due noted phase =>
      rw [due]
      exact ⟨(begins noted).append (phase.obeys.ends nofun rfl rfl rfl),
        .after (begins noted).counted phase.ends.endsBy_of_receipt⟩
  | @mined _ notes polled rest _ _ _ _ _ _ due noted phase concluded =>
      rw [due]
      rcases phase.ends.exists_receipt with ⟨isMined, before, last, split, going, heard, awake⟩
      have known : ∀ exchange ∈ exchangesOf (polled ++ rest),
          exchange ∈ exchangesOf (notes ++ (polled ++ rest)) := by
        rw [exchangesOf_append notes]
        exact fun _ => List.mem_append_right _
      exact ⟨(begins noted).append (phase.obeys.append concluded.obeys),
        .after (begins noted).counted
          (concluded.endsBy isMined split going heard awake phase.obeys.counted known)⟩

/-! ## Without a request to cancel -/

end Tracker

/-- The same world, but nothing can be asked for there. -/
def World.uncancelled (world : World σ) : World σ :=
  { world with cancellation := none }

/-- One world is the other one without a request to cancel. -/
def World.Uncancels (world other : World σ) : Prop :=
  other = world.uncancelled

namespace Tracker

variable {tracker : Tracker} {pending : PendingDeployment} {deadline : Measure} {known : Option Receipt}

/-- Cancelling has been asked for. -/
def IsCancelled (_ : Fault) (final : World σ) : Prop :=
  final.isCancelled = true

theorem accompanies_uncancels : Accompanies (World.Uncancels (σ := σ)) where
  horizon uncancels := uncancels ▸ rfl
  posts uncancels := uncancels ▸ rfl
  endpoint uncancels := uncancels ▸ rfl
  record uncancels _ := uncancels ▸ rfl
  entering uncancels _ := uncancels ▸ rfl
  posting uncancels _ := uncancels ▸ rfl
  answering uncancels _ := uncancels ▸ rfl
  passCall := by
    apply coupled_get_bind
    rintro world _ rfl
    apply coupled_bind (coupled_lift _)
    intro finish
    exact coupled_modify fun _ _ uncancels => uncancels ▸ rfl

theorem coupled_checkCancelled_uncancels :
    Coupled World.Uncancels IsCancelled (checkCancelled pending : Run σ Unit) (checkCancelled pending) := by
  rintro world _ rfl
  have outcome (world : World σ) : (checkCancelled pending).outcome world =
      if world.isCancelled = true then (.error (.of (.cancelled pending.txHash)), world) else (.ok (), world) := by
    change Run.outcome (if world.isCancelled = true then throw _ else pure ()) world = _
    split <;> rfl
  rw [outcome world, outcome world.uncancelled]
  by_cases isCancelled : world.isCancelled = true
  · rw [if_pos isCancelled]
    exact Or.inl ⟨_, rfl, isCancelled⟩
  · have isUncancelled : ¬world.uncancelled.isCancelled = true := Bool.false_ne_true
    rw [if_neg isCancelled, if_neg isUncancelled]
    exact Or.inr ⟨rfl, rfl⟩

theorem coupled_timeAfter_uncancels (duration : Measure) :
    Coupled World.Uncancels IsCancelled (timeAfter duration : Run σ Measure) (timeAfter duration) := by
  apply coupled_get_bind
  rintro world _ rfl
  exact coupled_lift _

theorem coupled_pause_uncancels :
    Coupled World.Uncancels IsCancelled (tracker.pause pending deadline known : Run σ Unit)
      (tracker.pause pending deadline known) := by
  apply coupled_get_bind
  rintro world _ rfl
  dsimp only [World.uncancelled]
  split
  · apply coupled_bind (accompanies_uncancels.coupled_enter _)
    intro _
    exact coupled_throw _
  · apply coupled_bind (coupled_timeAfter_uncancels _)
    intro finish
    apply coupled_bind (accompanies_uncancels.coupled_record _)
    intro _
    exact coupled_modify fun _ _ uncancels => uncancels ▸ rfl

theorem coupled_track_uncancels (client : Client σ) (confirmations : Datum) :
    Coupled World.Uncancels IsCancelled (tracker.track client pending confirmations)
      (tracker.track client pending confirmations) := by
  apply coupled_bind (coupled_lift _)
  intro _
  apply coupled_bind (accompanies_uncancels.coupled_enter _)
  intro _
  apply coupled_bind (coupled_timeAfter_uncancels _)
  intro deadline
  have parts : (accompanies_uncancels.composition IsCancelled).RelatesParts tracker tracker client client
      pending deadline deadline :=
    ⟨coupled_checkCancelled_uncancels, accompanies_uncancels.coupled_ask client,
      fun _ => coupled_pause_uncancels⟩
  exact parts.follow confirmations

/-- What tracking does about a request to cancel. Once that has come, no request is made and there is one sleep at
most. Tracking then ends as cancelled, unless its last call, before which the request had not come, is decisive. Where
none has come in the end, tracking does the same as without one. -/
structure HeedsCancellation (tracker : Tracker) (client : Client σ) (pending : PendingDeployment)
    (confirmations : Datum) (world : World σ) (added : List Entry) (result : Except Fault TrackingResult)
    (final : World σ) : Prop where
  heeds : Heeds world added
  ends : world.isCancelledAfter added = true → tracker.EndsBy pending confirmations
    (world.now.add? tracker.timeout) (exchangesOf added) world added final result
  unset : world.isCancelledAfter added = false →
    (tracker.track client pending confirmations).outcome world.uncancelled = (result, final.uncancelled)

theorem track_heedsCancellation (tracker : Tracker) (client : Client σ) (pending : PendingDeployment)
    (count : Nat) {world : World σ} (stays : world.StaysCancelled) :
    (tracker.track client pending (.int count)).Yields world
      (tracker.HeedsCancellation client pending (.int count) world) := by
  rcases tracker.track_obeys client pending count world with ⟨added, entries, obeys, ends⟩
  refine ⟨added, entries, obeys.heeds stays, fun _ => ends, ?_⟩
  intro unset
  have coupled : Coupled World.Uncancels IsCancelled (tracker.track client pending (.int count)) _ :=
    coupled_track_uncancels client (.int count)
  rcases coupled world world.uncancelled rfl with ⟨_, _, isCancelled⟩ | ⟨same, uncancels⟩
  · have isSet := obeys.counted.isCancelledAfter_of_isCancelled stays isCancelled
    cases unset.symm.trans isSet
  · exact Prod.ext same uncancels

/-- An endpoint that never has a receipt. -/
def receiptlessAnswer : (request : Request) → Unit → Except Fault request.Reply × Unit
  | .transactionReceipt _, state => (.ok none, state)
  | .gasPrice, state | .transactionCount _, state | .sendRawTransaction _, state
  | .blockNumber, state => (.error .unfinished, state)

/-- A world in which cancelling is asked for at some moment. -/
def cancelledBy (cancellation : Cancellation) : World Unit :=
  { World.steady (1 / 2) 10 with cancellation := some cancellation }

theorem staysCancelled_cancelledBy {cancellation : Cancellation} (lasts : cancellation.Lasts) :
    (cancelledBy cancellation).StaysCancelled := by
  rintro _ ⟨⟩
  exact lasts

/-- Tracking without a receipt heeds the request to cancel after as many calls and sleeps as given. -/
def HeedsAfter (cancellation : Cancellation) (calls sleeps : Nat) : Prop :=
  (standard.track (.direct receiptlessAnswer) ⟨.text "0xaa", .int 30000000⟩ (.int (1 : Nat))).Yields
    (cancelledBy cancellation) fun added result final =>
      (requestsOf added).length = calls ∧ (sleepsOf added).length = sleeps ∧
        (cancelledBy cancellation).isCancelledAfter added = true ∧
        standard.HeedsCancellation (.direct receiptlessAnswer) ⟨.text "0xaa", .int 30000000⟩
          (.int (1 : Nat)) (cancelledBy cancellation) added result final

theorem track_heedsCancellation_callOrSleep :
    (cancelledBy (.afterCalls 2)).StaysCancelled ∧ HeedsAfter (.afterCalls 2) 2 2 ∧
      (cancelledBy (.afterSleeps 1)).StaysCancelled ∧ HeedsAfter (.afterSleeps 1) 1 1 := by
  have duringCall := staysCancelled_cancelledBy (Cancellation.lasts_afterCalls 2)
  have duringSleep := staysCancelled_cancelledBy (Cancellation.lasts_afterSleeps 1)
  refine ⟨duringCall, ?_, duringSleep, ?_⟩
  · rcases standard.track_heedsCancellation (.direct receiptlessAnswer) ⟨.text "0xaa", .int 30000000⟩ 1
      duringCall with ⟨added, entries, heeds⟩
    have ran : (requestsOf added).length = 2 ∧ (sleepsOf added).length = 2 ∧
        (cancelledBy (.afterCalls 2)).isCancelledAfter added = true := by
      rw [show added = _ from entries.symm]
      decide +kernel
    exact ⟨added, entries, ran.1, ran.2.1, ran.2.2, heeds⟩
  · rcases standard.track_heedsCancellation (.direct receiptlessAnswer) ⟨.text "0xaa", .int 30000000⟩ 1
      duringSleep with ⟨added, entries, heeds⟩
    have ran : (requestsOf added).length = 1 ∧ (sleepsOf added).length = 1 ∧
        (cancelledBy (.afterSleeps 1)).isCancelledAfter added = true := by
      rw [show added = _ from entries.symm]
      decide +kernel
    exact ⟨added, entries, ran.1, ran.2.1, ran.2.2, heeds⟩

end Tracker

end WasmDeploy
