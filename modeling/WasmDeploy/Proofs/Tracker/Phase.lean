import WasmDeploy.Proofs.Tracker.Defects
import WasmDeploy.Proofs.Tracker.Poll

/-!
# What a phase of tracking can do

A phase of tracking repeats one poll. This file derives what a whole phase can do from what one poll can do: it
makes one kind of request, keeps the state of the tracker until it ends, sleeps only before the deadline, and
times out only at the deadline.
-/

namespace WasmDeploy

variable {σ α β : Type}

namespace Tracker

open Run

/-- Tracking has timed out by its own look at the deadline: it ends as it does when that has passed, although every
request was answered. -/
def TimedOutItself (tracker : Tracker) (pending : PendingDeployment) (exchanges : List Exchange)
    (result : Except Fault α) : Prop :=
  (∃ known, result = .error (tracker.overdue pending known)) ∧
    ∀ exchange ∈ exchanges, exchange.isAnswered = true

/-- Requests that were answered before do not matter to whether tracking has timed out by itself. -/
theorem timedOutItself_append_iff {tracker : Tracker} {pending : PendingDeployment}
    {first second : List Exchange} {result : Except Fault α}
    (answered : ∀ exchange ∈ first, exchange.isAnswered = true) :
    tracker.TimedOutItself pending (first ++ second) result ↔
      tracker.TimedOutItself pending second result := by
  simp only [TimedOutItself]
  simp only [List.mem_append]
  constructor
  · rintro ⟨failure, all⟩
    exact ⟨failure, fun exchange mem => all exchange (Or.inr mem)⟩
  · rintro ⟨failure, all⟩
    refine ⟨failure, ?_⟩
    rintro exchange (mem | mem)
    · exact answered exchange mem
    · exact all exchange mem

/-- Entries that a phase of tracking may add: requests of one kind, sleeps before the deadline, and all of them
in one state of the tracker. -/
structure Polling (tracker : Tracker) (deadline : Measure) (request : Request)
    (state : Option TrackingState) (added : List Entry) : Prop where
  requests : ∀ made ∈ requestsOf added, made = request
  exchanges : ∀ exchange ∈ exchangesOf added, exchange.request = request
  states : ∀ entry ∈ added, entry.tracking = state
  sleeps : ∀ sleep ∈ sleepsOf added, (deadline.sub sleep.1).isNonPositive = false ∧
    sleep.2 = tracker.pollInterval.shorter (deadline.sub sleep.1)

namespace Polling

variable {tracker : Tracker} {deadline : Measure} {request : Request}
  {state : Option TrackingState} {first second : List Entry}

theorem nil : tracker.Polling deadline request state [] :=
  ⟨by simp, by simp, by simp, by simp⟩

theorem append (left : tracker.Polling deadline request state first)
    (right : tracker.Polling deadline request state second) :
    tracker.Polling deadline request state (first ++ second) where
  requests := by
    simp only [requestsOf_append, List.mem_append]
    rintro made (mem | mem)
    · exact left.requests made mem
    · exact right.requests made mem
  exchanges := by
    simp only [exchangesOf_append, List.mem_append]
    rintro exchange (mem | mem)
    · exact left.exchanges exchange mem
    · exact right.exchanges exchange mem
  states := by
    simp only [List.mem_append]
    rintro entry (mem | mem)
    · exact left.states entry mem
    · exact right.states entry mem
  sleeps := by
    simp only [sleepsOf_append, List.mem_append]
    rintro sleep (mem | mem)
    · exact left.sleeps sleep mem
    · exact right.sleeps sleep mem

theorem of_asked {world final : World σ} {result : Except Fault request.Reply}
    (asked : Asked request world first result final) :
    tracker.Polling deadline request world.tracking first where
  requests := by simp [asked.requests]
  exchanges := by simp [asked.exchanges]
  states := asked.states
  sleeps := by simp [asked.sleeps]

theorem of_noted {world final : World σ} (noted : Noted world first final) :
    tracker.Polling deadline request world.tracking first where
  requests := by simp [noted.silent.requests]
  exchanges := by simp [noted.silent.exchanges]
  states := fun entry mem => (noted.logs entry mem).2
  sleeps := by simp [noted.silent.sleeps]

end Polling

/-- What a phase of tracking, or a part of it, can do. It ends with the state of the tracker that it found, unless
it times out by itself, which happens at the deadline. -/
structure Phase (tracker : Tracker) (pending : PendingDeployment) (deadline : Measure)
    (request : Request) (world : World σ) (added : List Entry) (result : Except Fault α)
    (final : World σ) : Prop where
  surroundings : final.toSurroundings = world.toSurroundings
  polling : tracker.Polling deadline request world.tracking added
  answered : ∀ value, result = .ok value →
    ∀ exchange ∈ exchangesOf added, exchange.isAnswered = true
  timesOut : tracker.TimedOutItself pending (exchangesOf added) result →
    final.tracking = some .timedOut ∧ (deadline.sub final.now).isNonPositive = true
  endsOtherwise : ¬tracker.TimedOutItself pending (exchangesOf added) result →
    final.tracking = world.tracking

section

variable {tracker : Tracker} {pending : PendingDeployment} {deadline : Measure}
  {known : Option Receipt} {request : Request} {world middle final : World σ}

theorem not_timedOutItself_ok (exchanges : List Exchange) (value : α) :
    ¬tracker.TimedOutItself pending exchanges (.ok value) := by
  rintro ⟨⟨known, ⟨⟩⟩, _⟩

theorem not_timedOutItself_of_other {exchanges : List Exchange} {fault : Fault}
    (other : fault.isOverdue = false) :
    ¬tracker.TimedOutItself pending exchanges (.error fault : Except Fault α) := by
  rintro ⟨⟨known, ends⟩, _⟩
  rw [Except.error.inj ends, isOverdue_overdue] at other
  cases other

/-- A part of a phase that ends as it began. -/
theorem Phase.keeps {added : List Entry} {result : Except Fault α}
    (surroundings : final.toSurroundings = world.toSurroundings)
    (polling : tracker.Polling deadline request world.tracking added)
    (answered : ∀ value, result = .ok value →
      ∀ exchange ∈ exchangesOf added, exchange.isAnswered = true)
    (tracking : final.tracking = world.tracking)
    (other : ¬tracker.TimedOutItself pending (exchangesOf added) result) :
    tracker.Phase pending deadline request world added result final where
  surroundings := surroundings
  polling := polling
  answered := answered
  timesOut := fun timedOut => absurd timedOut other
  endsOtherwise := fun _ => tracking

theorem Phase.done (value : α) : tracker.Phase pending deadline request world [] (.ok value) world :=
  Phase.keeps rfl .nil (by simp) rfl (not_timedOutItself_ok _ value)

theorem Phase.other {fault : Fault} (other : fault.isOverdue = false) :
    tracker.Phase pending deadline request world [] (.error fault : Except Fault α) world :=
  Phase.keeps rfl .nil (by simp) rfl (not_timedOutItself_of_other other)

/-- Which value a part might have ended with does not matter if it ended with a fault. -/
theorem Phase.error {added : List Entry} {fault : Fault}
    (part : tracker.Phase pending deadline request world added (.error fault : Except Fault α) final) :
    tracker.Phase pending deadline request world added (.error fault : Except Fault β) final where
  surroundings := part.surroundings
  polling := part.polling
  answered := by simp
  timesOut := by simpa [TimedOutItself] using part.timesOut
  endsOtherwise := by simpa [TimedOutItself] using part.endsOtherwise

/-- A part of a phase that ends with a value may be followed by another part. -/
theorem Phase.append {first second : List Entry} {value : α} {result : Except Fault β}
    (left : tracker.Phase pending deadline request world first (.ok value) middle)
    (right : tracker.Phase pending deadline request middle second result final) :
    tracker.Phase pending deadline request world (first ++ second) result final := by
  have answered := left.answered value rfl
  have tracking := left.endsOtherwise (not_timedOutItself_ok _ value)
  have whole : tracker.TimedOutItself pending (exchangesOf first ++ exchangesOf second) result ↔
      tracker.TimedOutItself pending (exchangesOf second) result :=
    timedOutItself_append_iff answered
  constructor
  · rw [right.surroundings, left.surroundings]
  · apply left.polling.append
    rw [← tracking]
    exact right.polling
  · intro value' ends exchange mem
    rw [exchangesOf_append] at mem
    rcases List.mem_append.mp mem with inFirst | inSecond
    · exact answered exchange inFirst
    · exact right.answered value' ends exchange inSecond
  · rw [exchangesOf_append, whole]
    exact right.timesOut
  · rw [exchangesOf_append, whole, ← tracking]
    exact right.endsOtherwise

theorem Phase.of_asked {added : List Entry} {result : Except Fault request.Reply}
    (asked : Asked request world added result final) :
    tracker.Phase pending deadline request world added result final := by
  apply Phase.keeps asked.after.surroundings (.of_asked asked)
  · rintro value rfl exchange mem
    rw [asked.exchanges, List.mem_singleton] at mem
    rw [mem]
    rfl
  · exact asked.after.tracking
  · rintro ⟨⟨known, rfl⟩, answered⟩
    rw [asked.exchanges] at answered
    have impossible := answered _ (List.mem_singleton_self _)
    simp [Exchange.isAnswered, Except.isOk, Except.toBool] at impossible

theorem Phase.of_noted {added : List Entry} (noted : Noted world added final) :
    tracker.Phase pending deadline request world added (.ok ()) final := by
  apply Phase.keeps noted.surroundings (.of_noted noted)
  · simp [noted.silent.exchanges]
  · exact noted.tracking
  · exact not_timedOutItself_ok _ ()

/-- What follows a verdict is part of a phase, if the verdict is spoiled by defects only. -/
theorem Settled.phase {added : List Entry} {verdict result : Except Fault (α ⊕ β)}
    (defects : OnlyDefects verdict)
    (settled : tracker.Settled pending deadline known verdict world added result final) :
    tracker.Phase pending deadline request world added result final := by
  cases settled with
  | @spoiled fault judged =>
      rcases defects fault judged with ⟨_, _, other⟩
      exact Phase.other other
  | decided judged => exact Phase.done _
  | timedOut judged isUp =>
      have timedOut : tracker.TimedOutItself pending []
          (.error (tracker.overdue pending known) : Except Fault (α ⊕ β)) :=
        ⟨⟨known, rfl⟩, by simp⟩
      exact ⟨rfl, .nil, by simp, fun _ => ⟨rfl, isUp⟩, fun not => absurd timedOut not⟩
  | stuck judged left => exact Phase.other rfl
  | slept judged left isShorter ends =>
      have polling : tracker.Polling deadline request world.tracking
          [⟨world.now, world.tracking, .sleep _⟩] :=
        ⟨by simp, by simp, by simp, by simpa using ⟨left, isShorter⟩⟩
      exact Phase.keeps rfl polling (by simp) rfl
        (not_timedOutItself_ok _ _)

/-- One poll is part of a phase, if its verdict is spoiled by defects only. -/
theorem Polled.phase {added : List Entry} {verdict : request.Reply → Except Fault (α ⊕ β)}
    {result : Except Fault (α ⊕ β)}
    (defects : ∀ reply, OnlyDefects (verdict reply))
    (polled : tracker.Polled pending deadline known request verdict world added result final) :
    tracker.Phase pending deadline request world added result final := by
  cases polled with
  | cancelled due => exact Phase.other rfl
  | failed going ask => exact (Phase.of_asked ask).error
  | @judged _ _ _ reply _ _ _ _ going ask noted settled =>
      exact (Phase.of_asked ask).append
        ((Phase.of_noted noted).append (settled.phase (defects reply)))

/-- Repeated parts of a phase make a phase. -/
theorem phase_repeatUntil {step : α → Run σ (α ⊕ β)}
    (steps : ∀ start world, (step start).Yields world
      (tracker.Phase pending deadline request world))
    (times : Nat) (start : α) (world : World σ) :
    (repeatUntil step times start).Yields world
      (tracker.Phase pending deadline request world) := by
  induction times generalizing start world with
  | zero => exact yields_throw (Phase.other rfl)
  | succ times ih =>
      apply yields_bind
      apply (steps start world).mono
      rintro added (fault | next | value) middle part
      · exact part.error
      · apply (ih next middle).mono
        intro more result final rest
        exact part.append rest
      · exact yields_pure (part.append (Phase.done value))

end

/-! ## The two phases -/

theorem onlyDefects_receiptVerdict (receipt : Option Receipt) :
    OnlyDefects (receiptVerdict receipt) := by
  simp only [receiptVerdict]
  split <;> exact .ok _

theorem onlyDefects_heightVerdict (receipt : Receipt) (confirmations highest height : Datum) :
    OnlyDefects (heightVerdict receipt confirmations highest height) :=
  (onlyDefects_assess receipt confirmations highest height).map Prod.snd

theorem receiptVerdict_eq_inr_iff (reply : Option Receipt) (receipt : Receipt) :
    receiptVerdict reply = .ok (.inr receipt) ↔ mined? reply = some receipt := by
  simp only [receiptVerdict]
  split
  · next taken => simp [taken]
  · next pending => simp [pending]

theorem mined?_of_receiptVerdict_eq_inl {reply : Option Receipt} {next : Unit}
    (undecided : receiptVerdict reply = .ok (.inl next)) : mined? reply = none := by
  simp only [receiptVerdict] at undecided
  split at undecided
  · simp at undecided
  · assumption

theorem awaitReceipt_phase (tracker : Tracker) (client : Client σ) (pending : PendingDeployment)
    (deadline : Measure) (polls : Nat) (world : World σ) :
    (tracker.awaitReceipt client pending deadline polls).Yields world
      (tracker.Phase pending deadline (.transactionReceipt pending.txHash) world) := by
  apply phase_repeatUntil
  intro _ world
  apply (tracker.poll_yields client pending deadline none (judges_judgeReceipt pending) world).mono
  intro added result final polled
  exact polled.phase onlyDefects_receiptVerdict

theorem awaitDepth_phase (tracker : Tracker) (client : Client σ) (pending : PendingDeployment)
    (receipt : Receipt) (confirmations : Datum) (deadline : Measure) (polls : Nat)
    (highest : Datum) (world : World σ) :
    (tracker.awaitDepth client pending receipt confirmations deadline polls highest).Yields world
      (tracker.Phase pending deadline .blockNumber world) := by
  apply phase_repeatUntil
  intro highest world
  apply (tracker.poll_yields client pending deadline (some receipt)
    (judges_judgeHeight pending receipt confirmations highest) world).mono
  intro added result final polled
  exact polled.phase (onlyDefects_heightVerdict receipt confirmations highest)

end Tracker

/-- The receipt that an exchange brings, if it has a block number. -/
def Exchange.mined? (exchange : Exchange) : Option Receipt :=
  match exchange with
  | ⟨.transactionReceipt _, .ok receipt⟩ => Tracker.mined? receipt
  | _ => none

/-- The first receipt with a block number that a conversation brings. -/
def firstMined (exchanges : List Exchange) : Option Receipt :=
  exchanges.findSome? Exchange.mined?

@[simp]
theorem firstMined_append (first second : List Exchange) :
    firstMined (first ++ second) = (firstMined first).or (firstMined second) :=
  List.findSome?_append

namespace Tracker

open Run

variable {tracker : Tracker} {pending : PendingDeployment} {deadline : Measure}
  {known : Option Receipt} {hash : Datum} {world final : World σ}

/-- A poll for the receipt ends with the receipt with a block number that it has brought, if it has. -/
theorem Polled.firstMined_eq {added : List Entry} {result : Except Fault (Unit ⊕ Receipt)}
    (polled : tracker.Polled pending deadline known (.transactionReceipt hash) receiptVerdict world
      added result final) :
    firstMined (exchangesOf added) =
      match result with
      | .ok (.inr receipt) => some receipt
      | _ => none := by
  cases polled with
  | cancelled due => rfl
  | failed going ask => simp [ask.exchanges, firstMined, Exchange.mined?]
  | @judged _ _ _ reply _ _ _ _ going ask noted settled =>
      rw [exchangesOf_append, exchangesOf_append, ask.exchanges, noted.silent.exchanges,
        settled.exchanges]
      have brought : firstMined [⟨.transactionReceipt hash, .ok reply⟩] = mined? reply := by
        simp only [firstMined, Exchange.mined?, List.findSome?]
        cases mined? reply <;> rfl
      rw [List.append_nil, List.append_nil, brought]
      cases settled with
      | @spoiled fault judged =>
          simp only [receiptVerdict] at judged
          split at judged <;> simp at judged
      | decided judged => exact (receiptVerdict_eq_inr_iff _ _).mp judged
      | timedOut judged isUp => exact mined?_of_receiptVerdict_eq_inl judged
      | stuck judged left => exact mined?_of_receiptVerdict_eq_inl judged
      | slept judged left isShorter ends => exact mined?_of_receiptVerdict_eq_inl judged

/-- The first phase ends with the first receipt with a block number that it has brought, and brings none if it
ends otherwise. -/
theorem awaitReceipt_firstMined (tracker : Tracker) (client : Client σ)
    (pending : PendingDeployment) (deadline : Measure) (polls : Nat) (world : World σ) :
    (tracker.awaitReceipt client pending deadline polls).Yields world fun added result _ =>
      firstMined (exchangesOf added) = result.toOption := by
  simp only [awaitReceipt]
  induction polls generalizing world with
  | zero => exact yields_throw rfl
  | succ polls ih =>
      apply yields_bind
      apply (tracker.poll_yields client pending deadline none (judges_judgeReceipt pending)
        world).mono
      rintro added (fault | next | receipt) middle polled
      · exact polled.firstMined_eq
      · apply (ih middle).mono
        intro more result final rest
        rw [exchangesOf_append, firstMined_append, polled.firstMined_eq, rest]
        rfl
      · apply yields_pure
        rw [List.append_nil]
        exact polled.firstMined_eq

/-- A conversation that asks for no receipt brings none. -/
theorem firstMined_of_noReceipts {exchanges : List Exchange}
    (noReceipts : ∀ exchange ∈ exchanges, ∀ hash, exchange.request ≠ .transactionReceipt hash) :
    firstMined exchanges = none := by
  apply List.findSome?_eq_none_iff.mpr
  rintro ⟨request, outcome⟩ mem
  simp only [Exchange.mined?]
  split
  · next hash _ isReceipt =>
    cases isReceipt
    exact absurd rfl (noReceipts _ mem hash)
  · rfl

end Tracker

end WasmDeploy
