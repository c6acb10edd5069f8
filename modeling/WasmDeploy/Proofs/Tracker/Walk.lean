import WasmDeploy.Proofs.Congruence
import WasmDeploy.Proofs.Tracker.Defects

/-!
# Going through tracking

This file goes through tracking once for every relation that composing keeps. Two trackers that have fixed their
deadlines are related if their requests, their looks for a request to cancel and their pauses are. What the two clients
and the two deadlines have to do with each other is up to those.
-/

namespace WasmDeploy

variable {σ α β : Type}

namespace Tracker

open Run

/-- Follows a submitted transaction until it is confirmed or reverted, once the deadline has been fixed. -/
def follow (tracker : Tracker) (client : Client σ) (pending : PendingDeployment)
    (confirmations : Datum) (deadline : Measure) : Run σ TrackingResult := do
  Run.log .info .tracking (.ok s!"Waiting for transaction {pending.txHash.plain} to be mined...")
  let receipt ← awaitReceipt tracker client pending deadline (← get).horizon
  tracker.included client pending receipt confirmations deadline

/-- Tracking fixes its deadline and then follows the transaction. -/
theorem track_outcome_of_due (tracker : Tracker) (client : Client σ) (pending : PendingDeployment)
    {confirmations : Datum} {world : World σ} {deadline : Measure}
    (valid : checkConfirmations confirmations = .ok ())
    (due : world.now.add? tracker.timeout = some deadline) :
    (tracker.track client pending confirmations).outcome world =
      (tracker.follow client pending confirmations deadline).outcome (world.entering .submitted) := by
  have fixed : (timeAfter tracker.timeout).outcome (world.entering .submitted) =
      (.ok deadline, world.entering .submitted) := by
    change (showable (world.now.add? tracker.timeout), _) = _
    rw [due]
    rfl
  rw [track, valid, outcome_ok_bind, enter, outcome_modify_bind, outcome_bind, fixed]
  rfl

end Tracker

namespace Run

open Tracker

/-- The parts of tracking that a relation has to be known to keep, so that it keeps the whole. -/
structure Composition.RelatesParts (composition : Composition σ) (tracker tracker' : Tracker)
    (client client' : Client σ) (pending : PendingDeployment) (deadline deadline' : Measure) : Prop where
  checks : composition.related (checkCancelled pending) (checkCancelled pending)
  asks : ∀ request, composition.related (client.ask request) (client'.ask request)
  pauses : ∀ known, composition.related (tracker.pause pending deadline known)
    (tracker'.pause pending deadline' known)

namespace Composition

variable {composition : Composition σ}

theorem relates_judgeReceipt (composition : Composition σ) (pending : PendingDeployment)
    (reply : Option Receipt) :
    composition.related (judgeReceipt pending reply) (judgeReceipt pending reply) := by
  simp only [judgeReceipt]
  split
  · exact composition.pure _
  · apply composition.bind (composition.log _ _ _)
    intro _
    exact composition.pure _

theorem relates_judgeHeight (composition : Composition σ) (pending : PendingDeployment)
    (receipt : Receipt) (confirmations highest height : Datum) :
    composition.related (judgeHeight pending receipt confirmations highest height)
      (judgeHeight pending receipt confirmations highest height) := by
  apply composition.bind (composition.lift (onlyDefects_assess _ _ _ _))
  rintro ⟨depth, verdict⟩
  apply composition.bind (composition.log _ _ _)
  intro _
  exact composition.pure _

theorem relates_conclude (composition : Composition σ) (pending : PendingDeployment) (receipt : Receipt) :
    composition.related (conclude pending receipt) (conclude pending receipt) := by
  apply composition.bind (composition.enter _)
  intro _
  apply composition.bind (composition.lift (onlyDefects_usedUpGas pending receipt))
  intro gasLimitReached
  apply composition.bind
  · apply composition.bind (composition.log _ _ _)
    intro _
    split
    · exact composition.log _ _ _
    · exact composition.pure ()
  · intro _
    exact composition.pure _

namespace RelatesParts

variable {tracker tracker' : Tracker} {client client' : Client σ} {pending : PendingDeployment}
  {deadline deadline' : Measure}
  (parts : composition.RelatesParts tracker tracker' client client' pending deadline deadline')

include parts

theorem poll (known : Option Receipt) {request : Request} {judge : request.Reply → Run σ (α ⊕ β)}
    (judges : ∀ reply, composition.related (judge reply) (judge reply)) :
    composition.related (tracker.poll client pending deadline known request judge)
      (tracker'.poll client' pending deadline' known request judge) := by
  apply composition.bind parts.checks
  intro _
  apply composition.bind (parts.asks request)
  intro reply
  apply composition.bind (judges reply)
  rintro (next | value)
  · apply composition.bind (parts.pauses known)
    intro _
    exact composition.pure _
  · exact composition.pure _

theorem awaitReceipt (polls : Nat) :
    composition.related (tracker.awaitReceipt client pending deadline polls)
      (tracker'.awaitReceipt client' pending deadline' polls) := by
  apply composition.repeatUntil
  intro _
  exact parts.poll none (composition.relates_judgeReceipt pending)

theorem awaitDepth (receipt : Receipt) (confirmations : Datum) (polls : Nat) (highest : Datum) :
    composition.related
      (tracker.awaitDepth client pending receipt confirmations deadline polls highest)
      (tracker'.awaitDepth client' pending receipt confirmations deadline' polls highest) := by
  apply composition.repeatUntil
  intro highest
  exact parts.poll (some receipt) (composition.relates_judgeHeight pending receipt confirmations highest)

theorem awaitConfirmations (receipt : Receipt) (confirmations : Datum) :
    composition.related
      (tracker.awaitConfirmations client pending receipt confirmations deadline)
      (tracker'.awaitConfirmations client' pending receipt confirmations deadline') := by
  simp only [Tracker.awaitConfirmations]
  split
  · apply composition.bind (composition.log _ _ _)
    intro _
    apply composition.get_bind
    intro world other sameHorizon
    rw [sameHorizon]
    apply composition.bind (parts.awaitDepth receipt confirmations _ _)
    intro depth
    apply composition.bind (composition.enter _)
    intro _
    exact composition.pure _
  · exact composition.pure _

theorem included (receipt : Receipt) (confirmations : Datum) :
    composition.related (tracker.included client pending receipt confirmations deadline)
      (tracker'.included client' pending receipt confirmations deadline') := by
  apply composition.bind (composition.enter _)
  intro _
  apply composition.bind (composition.log _ _ _)
  intro _
  split
  · apply composition.bind (parts.awaitConfirmations receipt confirmations)
    intro depth
    apply composition.bind (composition.enter _)
    intro _
    exact composition.pure _
  · exact composition.relates_conclude pending receipt

theorem follow (confirmations : Datum) :
    composition.related (tracker.follow client pending confirmations deadline)
      (tracker'.follow client' pending confirmations deadline') := by
  apply composition.bind (composition.log _ _ _)
  intro _
  apply composition.get_bind
  intro world other sameHorizon
  rw [sameHorizon]
  apply composition.bind (parts.awaitReceipt _)
  intro receipt
  exact parts.included receipt confirmations

end RelatesParts

end Composition

end Run

end WasmDeploy
