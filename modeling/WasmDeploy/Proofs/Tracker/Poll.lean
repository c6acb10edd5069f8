import WasmDeploy.Proofs.Relay
import WasmDeploy.Tracker

/-!
# What one poll can do

Both phases of tracking repeat a poll: a look for a request to cancel, a request to the endpoint, a judgement of
the reply, and a look at the deadline followed by a sleep. This file says once what a poll can do. Everything
else about the two loops is derived from that.
-/

namespace WasmDeploy

variable {σ α β : Type}

/-- A world in which nothing has happened but that log records were written. -/
structure Noted (world : World σ) (added : List Entry) (final : World σ) : Prop where
  logs : ∀ entry ∈ added, entry.IsLog ∧ entry.tracking = world.tracking
  same : final = { world with journal := final.journal }

namespace Noted

variable {world middle final : World σ} {first second : List Entry}

theorem refl (world : World σ) : Noted world [] world :=
  ⟨by simp, rfl⟩

theorem log (world : World σ) (severity : Severity) (component : Component) (message : Message) :
    Noted world [⟨world.now, world.tracking, .log severity component message⟩]
      (world.record (.log severity component message)) :=
  ⟨by simp, rfl⟩

theorem trans (left : Noted world first middle) (right : Noted middle second final) :
    Noted world (first ++ second) final where
  logs := by
    intro entry mem
    rcases List.mem_append.mp mem with inFirst | inSecond
    · exact left.logs entry inFirst
    · rw [← show middle.tracking = world.tracking from left.same ▸ rfl]
      exact right.logs entry inSecond
  same := by rw [right.same, left.same]

theorem areLogs (noted : Noted world first middle) : ∀ entry ∈ first, entry.IsLog :=
  fun entry mem => (noted.logs entry mem).1

theorem silent (noted : Noted world first middle) : Silent first :=
  Silent.of_isLog noted.areLogs

theorem now (noted : Noted world first middle) : middle.now = world.now := noted.same ▸ rfl

theorem tracking (noted : Noted world first middle) : middle.tracking = world.tracking :=
  noted.same ▸ rfl

theorem surroundings (noted : Noted world first middle) :
    middle.toSurroundings = world.toSurroundings :=
  noted.same ▸ rfl

end Noted

/-- Judging replies only writes log records, and comes to a verdict that depends on the reply alone. -/
def Judges {γ : Type} (judge : γ → Run σ α) (verdict : γ → Except Fault α) : Prop :=
  ∀ reply world, (judge reply).Yields world fun added result final =>
    Noted world added final ∧ result = verdict reply

namespace Tracker

open Run

section

variable {world : World σ}

theorem yields_checkCancelled {pending : PendingDeployment}
    {described : List Entry → Except Fault Unit → World σ → Prop}
    (due : world.isCancelled = true →
      described [] (.error (.of (.cancelled pending.txHash))) world)
    (going : world.isCancelled = false → described [] (.ok ()) world) :
    (checkCancelled pending : Run σ Unit).Yields world described := by
  apply yields_get_bind
  split
  · next isCancelled => exact yields_throw (due isCancelled)
  · next notCancelled => exact yields_pure (going (by simpa using notCancelled))

theorem yields_pause {tracker : Tracker} {pending : PendingDeployment} {deadline : Measure}
    {known : Option Receipt} {described : List Entry → Except Fault Unit → World σ → Prop}
    (timedOut : (deadline.sub world.now).isNonPositive = true →
      described [] (.error (tracker.overdue pending known)) (world.entering .timedOut))
    (slept : (deadline.sub world.now).isNonPositive = false → ∀ duration finish,
      duration = tracker.pollInterval.shorter (deadline.sub world.now) →
      world.now.add? duration = some finish →
        described [⟨world.now, world.tracking, .sleep duration⟩] (.ok ())
          ((world.record (.sleep duration)).afterSleep finish))
    (stuck : (deadline.sub world.now).isNonPositive = false →
      world.now.add? (tracker.pollInterval.shorter (deadline.sub world.now)) = none →
        described [] (.error (.defect .beyondFloat)) world) :
    (tracker.pause pending deadline known).Yields world described := by
  apply yields_get_bind
  dsimp only
  split
  · next isUp =>
    apply yields_modify_bind rfl
    exact yields_throw (timedOut isUp)
  · next notUp =>
    have left : (deadline.sub world.now).isNonPositive = false := by simpa using notUp
    apply yields_bind
    apply yields_get_bind
    apply yields_lift
    rcases shown : world.now.add? (tracker.pollInterval.shorter (deadline.sub world.now))
      with _ | finish
    · exact stuck left shown
    · apply yields_record_bind
      apply yields_modify rfl
      exact slept left _ finish rfl shown

end

/-- What follows a verdict: one that is not undecided ends the poll, an undecided one leads to the deadline or to
a sleep. A clock that cannot show the end of the sleep ends the poll as well. -/
inductive Settled (tracker : Tracker) (pending : PendingDeployment) (deadline : Measure)
    (known : Option Receipt) (verdict : Except Fault (α ⊕ β)) (world : World σ) :
    List Entry → Except Fault (α ⊕ β) → World σ → Prop where
  | spoiled {fault : Fault} (judged : verdict = .error fault) :
      Settled tracker pending deadline known verdict world [] (.error fault) world
  | decided {value : β} (judged : verdict = .ok (.inr value)) :
      Settled tracker pending deadline known verdict world [] (.ok (.inr value)) world
  | timedOut {next : α} (judged : verdict = .ok (.inl next))
      (isUp : (deadline.sub world.now).isNonPositive = true) :
      Settled tracker pending deadline known verdict world []
        (.error (tracker.overdue pending known)) (world.entering .timedOut)
  | stuck {next : α} (judged : verdict = .ok (.inl next))
      (left : (deadline.sub world.now).isNonPositive = false)
      (unshown : world.now.add? (tracker.pollInterval.shorter (deadline.sub world.now)) = none) :
      Settled tracker pending deadline known verdict world [] (.error (.defect .beyondFloat)) world
  | slept {next : α} {duration finish : Measure} (judged : verdict = .ok (.inl next))
      (left : (deadline.sub world.now).isNonPositive = false)
      (isShorter : duration = tracker.pollInterval.shorter (deadline.sub world.now))
      (ends : world.now.add? duration = some finish) :
      Settled tracker pending deadline known verdict world
        [⟨world.now, world.tracking, .sleep duration⟩] (.ok (.inl next))
        ((world.record (.sleep duration)).afterSleep finish)

/-- The ends of a poll: cancelled before the request, with a failed request, or with a reply that was judged. -/
inductive Polled (tracker : Tracker) (pending : PendingDeployment) (deadline : Measure)
    (known : Option Receipt) (request : Request)
    (verdict : request.Reply → Except Fault (α ⊕ β)) (world : World σ) :
    List Entry → Except Fault (α ⊕ β) → World σ → Prop where
  | cancelled (due : world.isCancelled = true) :
      Polled tracker pending deadline known request verdict world []
        (.error (.of (.cancelled pending.txHash))) world
  | failed {asked : List Entry} {fault : Fault} {final : World σ}
      (going : world.isCancelled = false)
      (ask : Asked request world asked (.error fault) final) :
      Polled tracker pending deadline known request verdict world asked (.error fault) final
  | judged {asked notes rest : List Entry} {reply : request.Reply} {middle seen final : World σ}
      {result : Except Fault (α ⊕ β)} (going : world.isCancelled = false)
      (ask : Asked request world asked (.ok reply) middle) (noted : Noted middle notes seen)
      (settled : tracker.Settled pending deadline known (verdict reply) seen rest result final) :
      Polled tracker pending deadline known request verdict world (asked ++ (notes ++ rest)) result
        final

section

variable {tracker : Tracker} {pending : PendingDeployment} {deadline : Measure}
  {known : Option Receipt} {verdict result : Except Fault (α ⊕ β)} {world final : World σ}
  {added : List Entry}

/-- What follows a verdict makes no request. -/
theorem Settled.requests
    (settled : tracker.Settled pending deadline known verdict world added result final) :
    requestsOf added = [] := by
  cases settled <;> rfl

/-- What follows a verdict hears of no request. -/
theorem Settled.exchanges
    (settled : tracker.Settled pending deadline known verdict world added result final) :
    exchangesOf added = [] := by
  cases settled <;> rfl

end

theorem poll_yields (tracker : Tracker) (client : Client σ) (pending : PendingDeployment)
    (deadline : Measure) (known : Option Receipt) {request : Request}
    {judge : request.Reply → Run σ (α ⊕ β)} {verdict : request.Reply → Except Fault (α ⊕ β)}
    (judges : Judges judge verdict) (world : World σ) :
    (tracker.poll client pending deadline known request judge).Yields world
      (tracker.Polled pending deadline known request verdict world) := by
  apply yields_bind
  apply yields_checkCancelled
  · exact Polled.cancelled
  intro going
  apply yields_bind
  apply (client.ask_yields request).mono
  rintro asked (fault | reply) middle ask
  · exact Polled.failed going ask
  apply yields_bind
  apply (judges reply middle).mono
  rintro notes result final ⟨noted, rfl⟩
  rcases judged : verdict reply with fault | next | value
  · simpa using Polled.judged going ask noted (.spoiled judged)
  · apply yields_bind
    apply yields_pause
    · intro isUp
      simpa using Polled.judged going ask noted (.timedOut judged isUp)
    · intro left duration finish isShorter ends
      apply yields_pure
      simpa using Polled.judged going ask noted (.slept judged left isShorter ends)
    · intro left unshown
      simpa using Polled.judged going ask noted (.stuck judged left unshown)
  · apply yields_pure
    simpa using Polled.judged going ask noted (.decided judged)

/-- The verdict on a receipt: it decides if it has a block number. -/
def receiptVerdict (receipt : Option Receipt) : Except Fault (Unit ⊕ Receipt) :=
  match mined? receipt with
  | some receipt => .ok (.inr receipt)
  | none => .ok (.inl ())

theorem judges_judgeReceipt (pending : PendingDeployment) :
    Judges (judgeReceipt pending : Option Receipt → Run σ (Unit ⊕ Receipt)) receiptVerdict := by
  intro receipt world
  simp only [judgeReceipt, receiptVerdict]
  rcases mined? receipt with _ | receipt
  · apply yields_record_bind
    exact yields_pure ⟨Noted.log world _ _ _, rfl⟩
  · exact yields_pure ⟨Noted.refl world, rfl⟩

/-- The verdict on a height: it decides if the highest height seen is far enough above the block. -/
def heightVerdict (receipt : Receipt) (confirmations highest height : Datum) :
    Except Fault (Datum ⊕ Datum) :=
  (assess receipt confirmations highest height).map Prod.snd

theorem judges_judgeHeight (pending : PendingDeployment) (receipt : Receipt)
    (confirmations highest : Datum) :
    Judges (judgeHeight pending receipt confirmations highest : Datum → Run σ (Datum ⊕ Datum))
      (heightVerdict receipt confirmations highest) := by
  intro height world
  simp only [judgeHeight, heightVerdict]
  apply yields_lift_bind
  · intro fault failed
    exact ⟨Noted.refl world, by rw [failed]; rfl⟩
  · rintro ⟨depth, verdict⟩ assessed
    apply yields_record_bind
    exact yields_pure ⟨Noted.log world _ _ _, by rw [assessed]; rfl⟩

end Tracker

end WasmDeploy
