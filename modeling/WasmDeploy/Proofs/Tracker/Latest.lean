import WasmDeploy.Proofs.Deployment.Walk
import WasmDeploy.Proofs.Resemblance
import WasmDeploy.Proofs.Tracker.Depth

/-!
# Waiting without a memory

A tracker that compares only the latest height with the one wanted has no highest height to keep. This file gives that
tracker and shows that it makes the same requests at the same times, sleeps the same and ends in the same way as the
one that keeps the highest height. The two differ in the depths that they log.
-/

namespace WasmDeploy

open Run

variable {σ : Type}

namespace Tracker

/-! ## The tracker without a memory -/

/-- What a height says by itself: its depth, and its distance from the block if that is enough. -/
def assessLatest (receipt : Receipt) (confirmations height : Datum) :
    Except Fault (Datum × (Unit ⊕ Datum)) := do
  let distance ← height.minus receipt.blockNumber
  let depth ← height.excess receipt.blockNumber
  return (depth, if distance.isAtLeast confirmations then .inr distance else .inl ())

/-- Takes the distance of a height from the block, if it is enough. -/
def judgeLatest (pending : PendingDeployment) (receipt : Receipt) (confirmations height : Datum) :
    Run σ (Unit ⊕ Datum) := do
  let (depth, verdict) ← (assessLatest receipt confirmations height : Except Fault _)
  Run.log .debug .tracking (depthLine pending depth confirmations)
  return verdict

/-- Polls for the height of the chain, as often as given, until the latest one is far enough above the block. -/
def awaitLatest (tracker : Tracker) (client : Client σ) (pending : PendingDeployment) (receipt : Receipt)
    (confirmations : Datum) (deadline : Measure) (polls : Nat) : Run σ Datum :=
  Run.repeatUntil
    (fun _ => tracker.poll client pending deadline (some receipt) .blockNumber
      (judgeLatest pending receipt confirmations))
    polls ()

section

variable (tracker : Tracker) (client : Client σ) (pending : PendingDeployment) (confirmations : Datum)

/-- Waits until a successful receipt has the confirmations asked for, in a given way. -/
def confirmationsBy (await : (polls : Nat) → Run σ Datum) : Run σ Datum := do
  if confirmations.isPositive then
    Run.log .info .tracking (confirmationsLine confirmations)
    let depth ← await (← get).horizon
    Run.enter .finalized
    return depth
  else
    return .int 0

/-- Follows a transaction that has a receipt with a block number, given a way to wait for confirmations. -/
def includedBy (receipt : Receipt) (await : (polls : Nat) → Run σ Datum) : Run σ TrackingResult := do
  Run.enter .included
  Run.log .info .tracking (inclusionLine receipt)
  if receipt.succeeded then
    let depth ← confirmationsBy confirmations await
    Run.enter .success
    return {
      state := .success
      receipt
      gasLimit := pending.gasLimit
      confirmations := depth
      gasLimitReached := false }
  else
    conclude pending receipt

/-- Follows a submitted transaction until it is confirmed or reverted, given a way to wait for confirmations. -/
def trackBy (await : Receipt → (deadline : Measure) → (polls : Nat) → Run σ Datum) :
    Run σ TrackingResult := do
  (checkConfirmations confirmations : Except Fault _)
  Run.enter .submitted
  let deadline ← Run.timeAfter tracker.timeout
  Run.log .info .tracking (.ok s!"Waiting for transaction {pending.txHash.plain} to be mined...")
  let receipt ← awaitReceipt tracker client pending deadline (← get).horizon
  includedBy pending confirmations receipt (await receipt deadline)

end

/-- Follows a submitted transaction with no memory of the heights before the latest one. -/
def trackLatest (tracker : Tracker) (client : Client σ) (pending : PendingDeployment)
    (confirmations : Datum) : Run σ TrackingResult :=
  tracker.trackBy client pending confirmations fun receipt deadline polls =>
    tracker.awaitLatest client pending receipt confirmations deadline polls

theorem track_eq_trackBy (tracker : Tracker) (client : Client σ) (pending : PendingDeployment)
    (confirmations : Datum) :
    tracker.track client pending confirmations =
      tracker.trackBy client pending confirmations fun receipt deadline polls =>
        tracker.awaitDepth client pending receipt confirmations deadline polls receipt.blockNumber :=
  rfl

/-! ## One poll -/

/-- The memory goes with having none as long as the depth of what has been heard is below the one wanted. -/
def IsShallow (block : Int) (wanted : Nat) (highest : Datum) (_ : Unit) : Prop :=
  ∃ earlier, highest = .int (block + depthOver block earlier) ∧ depthOver block earlier < wanted

section

variable {pending : PendingDeployment} {receipt : Receipt} {block : Int} {wanted : Nat}
  {earlier : List Int} (isBlock : receipt.blockNumber = .int block)
  (shallow : depthOver block earlier < wanted)

include isBlock

theorem assessLatest_int (height : Int) :
    assessLatest receipt (.int wanted) (.int height) =
      .ok (.int (max 0 (height - block)),
        if (wanted : Int) ≤ height - block then .inr (.int (height - block)) else .inl ()) := by
  simp only [assessLatest, isBlock, Datum.minus_int, Datum.excess_int, Datum.isAtLeast_int,
    decide_eq_true_eq, bind, Except.bind, pure, Except.pure]

include shallow

/-- With and without a memory a height decides alike. -/
theorem assess_matched (height : Int) :
    Matched (fun seen latest => Sum.LiftRel (IsShallow block wanted) Eq seen.2 latest.2)
      (assess receipt (.int wanted) (.int (block + depthOver block earlier)) (.int height))
      (assessLatest receipt (.int wanted) (.int height)) := by
  rcases assess_assessed isBlock shallow height with ⟨assessment, isAssessment, assessed⟩
  rw [isAssessment, assessLatest_int isBlock]
  cases assessed with
  | low isLow stillShallow =>
      rw [if_neg (by omega)]
      exact .ok (.inl ⟨_, rfl, stillShallow⟩)
  | high isHigh isDepth =>
      rw [if_pos (by omega), isDepth]
      exact .ok (.inr rfl)

theorem resembles_judge (height : Int) :
    Resembles (Sum.LiftRel (IsShallow block wanted) Eq)
      (judgeHeight pending receipt (.int wanted) (.int (block + depthOver block earlier)) (.int height) :
        Run σ (Datum ⊕ Datum))
      (judgeLatest pending receipt (.int wanted) (.int height)) := by
  apply resembles_bind (resembles_lift (assess_matched isBlock shallow height))
  rintro ⟨depth, verdict⟩ ⟨depth', verdict'⟩ accord
  apply resembles_bind (resembles_log _ _ _ _)
  intro _ _ _
  exact resembles_pure accord

end

/-- Polling with and without a memory resemble each other. -/
theorem resembles_awaitLatest (tracker : Tracker) {client : Client σ} {pending : PendingDeployment}
    {receipt : Receipt} {block : Int} {wanted : Nat} (counts : client.CountsBlocks pending.txHash)
    (isBlock : receipt.blockNumber = .int block) (isWanted : 0 < wanted) (deadline : Measure)
    (polls : Nat) :
    Resembles Eq
      (tracker.awaitDepth client pending receipt (.int wanted) deadline polls receipt.blockNumber)
      (tracker.awaitLatest client pending receipt (.int wanted) deadline polls) := by
  have begun : IsShallow block wanted receipt.blockNumber () := by
    refine ⟨[], ?_, ?_⟩
    · rw [isBlock, depthOver_nil, Int.add_zero]
    · rw [depthOver_nil]
      omega
  apply resembles_repeatUntil _ polls begun
  rintro _ _ ⟨earlier, rfl, shallow⟩
  apply resembles_bind ((resembling σ).relates_checkCancelled id)
  intro _ _ _
  apply resembles_bind_of_ensures _ (client.resembles_ask .blockNumber) counts.heights
  rintro _ _ rfl ⟨height, rfl⟩
  apply resembles_bind (resembles_judge isBlock shallow height)
  rintro (next | depth) (next' | depth') (shallow | same)
  · apply resembles_bind ((resembling σ).relates_pause tracker deadline id)
    intro _ _ _
    exact resembles_pure (.inl shallow)
  · exact resembles_pure (.inr same)

/-! ## Tracking -/

section

variable {pending : PendingDeployment} {confirmations : Datum}

theorem resembles_confirmationsBy {await await' : Nat → Run σ Datum}
    (resembles : confirmations.isPositive = true →
      ∀ polls, Resembles Eq (await polls) (await' polls)) :
    Resembles Eq (confirmationsBy confirmations await) (confirmationsBy confirmations await') := by
  simp only [confirmationsBy]
  split
  · next isPositive =>
    apply (resembling σ).bind (resembles_log _ _ _ _)
    intro _
    apply resembles_get_bind
    intro world other same
    rw [same.alike.surroundings]
    apply (resembling σ).bind (resembles isPositive _)
    intro depth
    apply (resembling σ).bind ((resembling σ).enter _)
    intro _
    exact resembles_pure rfl
  · exact resembles_pure rfl

theorem resembles_includedBy (receipt : Receipt) {await await' : Nat → Run σ Datum}
    (resembles : confirmations.isPositive = true →
      ∀ polls, Resembles Eq (await polls) (await' polls)) :
    Resembles Eq (includedBy pending confirmations receipt await)
      (includedBy pending confirmations receipt await') := by
  apply (resembling σ).bind ((resembling σ).enter _)
  intro _
  apply (resembling σ).bind (resembles_log _ _ _ _)
  intro _
  split
  · apply (resembling σ).bind (resembles_confirmationsBy resembles)
    intro depth
    apply (resembling σ).bind ((resembling σ).enter _)
    intro _
    exact resembles_pure rfl
  · exact (resembling σ).composition.relates_conclude pending receipt

/-- Ways to wait for confirmations have to resemble each other only where there are confirmations to wait for. -/
theorem resembles_trackBy (tracker : Tracker) {client : Client σ}
    (counts : client.CountsBlocks pending.txHash) {await await' : Receipt → Measure → Nat → Run σ Datum}
    (resembles : ∀ receipt (block : Int), receipt.blockNumber = .int block →
      confirmations.isPositive = true →
        ∀ deadline polls, Resembles Eq (await receipt deadline polls) (await' receipt deadline polls)) :
    Resembles Eq (tracker.trackBy client pending confirmations await)
      (tracker.trackBy client pending confirmations await') := by
  apply (resembling σ).bind (resembles_lift (.refl _))
  intro _
  apply (resembling σ).bind ((resembling σ).enter _)
  intro _
  apply (resembling σ).bind ((resembling σ).relates_timeAfter _)
  intro deadline
  apply (resembling σ).bind (resembles_log _ _ _ _)
  intro _
  apply resembles_get_bind
  intro world other same
  rw [same.alike.surroundings]
  apply (resembling σ).bind_of_ensures _
    (((resembling σ).relatesParts tracker deadline
      (fun _ (_ : tracker.Begins pending.txHash confirmations _) => id) client.resembles_ask).awaitReceipt _)
    (tracker.awaitReceipt_ensures counts deadline _)
  rintro receipt ⟨block, isBlock⟩
  exact resembles_includedBy receipt fun isPositive =>
    resembles receipt block isBlock isPositive deadline

end

/-- Tracking without a memory resembles tracking. -/
theorem resembles_trackLatest (tracker : Tracker) {client : Client σ} {pending : PendingDeployment}
    (counts : client.CountsBlocks pending.txHash) (wanted : Nat) :
    Resembles Eq (tracker.track client pending (.int wanted))
      (tracker.trackLatest client pending (.int wanted)) := by
  rw [track_eq_trackBy]
  apply resembles_trackBy tracker counts
  intro receipt block isBlock isPositive deadline polls
  have isWanted : 0 < wanted := by
    simpa using isPositive
  exact tracker.resembles_awaitLatest counts isBlock isWanted deadline polls

/-- The first height that is high enough confirms a successful receipt, unless tracking is interrupted before. So
tracking does the same without a memory of earlier heights, but for what it logs. -/
structure ReachesDepth (tracker : Tracker) (client : Client σ) (pending : PendingDeployment)
    (wanted : Nat) (world : World σ) : Prop where
  confirmed : (tracker.track client pending (.int wanted)).Yields world fun added result final =>
    tracker.InterruptedEarly pending world added result final ∨
      ∃ (receipt : Receipt) (block : Int) (before after : List Entry), added = before ++ after ∧
        Takes pending.txHash receipt (exchangesOf before) (sleepsOf before).length ∧
        receipt.blockNumber = .int block ∧
        (receipt.succeeded = true →
          ∃ notes polled, after = notes ++ polled ∧ (∀ entry ∈ notes, entry.IsLog) ∧
            tracker.Confirms pending (world.now.add? tracker.timeout) world.horizon receipt block wanted
              polled result final)
  sameResult : ((tracker.trackLatest client pending (.int wanted)).outcome world).1 =
    ((tracker.track client pending (.int wanted)).outcome world).1
  sameActs : ((tracker.track client pending (.int wanted)).outcome world).2.Resembles
    ((tracker.trackLatest client pending (.int wanted)).outcome world).2

theorem track_reachesDepth (tracker : Tracker) {client : Client σ} {pending : PendingDeployment}
    (counts : client.CountsBlocks pending.txHash) {wanted : Nat} (isWanted : 0 < wanted) (world : World σ) :
    tracker.ReachesDepth client pending wanted world := by
  rcases tracker.resembles_trackLatest counts wanted world world (.refl world) with ⟨isMatched, resembles⟩
  exact ⟨tracker.track_confirms counts isWanted world, isMatched.eq.symm, resembles⟩

/-- An endpoint that has a receipt for block 10 and tells of heights that go back before they go on. -/
def rewindingAnswer : (request : Request) → Nat → Except Fault request.Reply × Nat
  | .transactionReceipt hash, heard =>
      (.ok (some ⟨hash, .success, .null, .int 21000, .int 1, .int 10, .int 0⟩), heard)
  | .blockNumber, heard => (.ok (.int ([11, 9, 8, 12].getD heard 13)), heard + 1)
  | .gasPrice, heard | .transactionCount _, heard | .sendRawTransaction _, heard =>
      (.error .unfinished, heard)

theorem countsBlocks_rewindingAnswer (hash : Datum) :
    (Client.direct rewindingAnswer).CountsBlocks hash := by
  constructor
  · rintro heard _ ⟨⟩
    exact ⟨_, rfl⟩
  · rintro heard _ ⟨⟩ _ ⟨⟩
    exact ⟨10, rfl⟩

/-- The world of an endpoint that has told of no height yet. -/
def unheard : World Nat :=
  { World.steady 0 10 with endpoint := 0 }

theorem track_reachesDepth_rewinding :
    (Client.direct rewindingAnswer).CountsBlocks (.text "0xaa") ∧ 0 < 2 ∧
      standard.ReachesDepth (.direct rewindingAnswer) ⟨.text "0xaa", .int 30000000⟩ 2 unheard ∧
      ((standard.track (.direct rewindingAnswer) ⟨.text "0xaa", .int 30000000⟩ (.int 2)).outcome
        unheard).1.toOption.map (fun value => value.confirmations.plain) = some "2" := by
  have counts := countsBlocks_rewindingAnswer (.text "0xaa")
  have isWanted : 0 < 2 := by decide
  exact ⟨counts, isWanted, standard.track_reachesDepth counts isWanted unheard, by decide +kernel⟩

end Tracker

end WasmDeploy
