import WasmDeploy.Proofs.Tracker.Track

/-!
# The states of a tracker

This file follows the state of one tracker through any number of calls. Each call starts from submitted, whatever
the state was that the call before it left; it is submitted throughout the first phase and included throughout the
second one; and the state in which a call leaves the tracker tells how the call ended.
-/

namespace WasmDeploy

variable {σ : Type}

namespace Tracker

open Run

/-! ## The state that a call leaves -/

/-- A receipt tells of a reverted transaction of which it cannot be told whether its gas was used up, as the gas used
does not compare with the limit. -/
def Untold (pending : PendingDeployment) (receipt : Receipt) : Prop :=
  receipt.succeeded = false ∧ ∃ cause, usedUpGas pending receipt = .error (.defect cause)

/-- The first receipt with a block number that a conversation brings is one of a revert that cannot be told. -/
def BringsUntold (pending : PendingDeployment) (exchanges : List Exchange) : Prop :=
  ∃ receipt, firstMined exchanges = some receipt ∧ Untold pending receipt

/-- The state in which a call leaves the tracker tells how it ended: with a result, by its own look at the deadline,
with a revert that cannot be told, or otherwise, and then in the phase that it was in. -/
structure Leaves (timedOutItself untold : Prop) (phase : TrackingState)
    (result : Except Fault TrackingResult) (state : Option TrackingState) : Prop where
  success : state = some .success ↔ ∃ value, result = .ok value ∧ value.state = .success
  reverted : state = some .reverted ↔
    (∃ value, result = .ok value ∧ value.state = .reverted) ∨ untold
  timedOut : state = some .timedOut ↔ timedOutItself
  otherwise : ∀ fault, result = .error fault → ¬timedOutItself → ¬untold → state = some phase

namespace Leaves

variable {timedOutItself untold : Prop} {phase : TrackingState}
  {result : Except Fault TrackingResult} {state : Option TrackingState}

theorem of_success {value : TrackingResult} (isSuccess : value.state = .success)
    (isOther : ¬timedOutItself) (isTold : ¬untold) :
    Leaves timedOutItself untold phase (.ok value) (some .success) where
  success := by simp [isSuccess]
  reverted := by simp [isSuccess, isTold]
  timedOut := by simp [isOther]
  otherwise := by simp

theorem of_reverted {value : TrackingResult} (isReverted : value.state = .reverted)
    (isOther : ¬timedOutItself) : Leaves timedOutItself untold phase (.ok value) (some .reverted) where
  success := by simp [isReverted]
  reverted := by simp [isReverted]
  timedOut := by simp [isOther]
  otherwise := by simp

theorem of_untold {fault : Fault} (isUntold : untold) (isOther : ¬timedOutItself) :
    Leaves timedOutItself untold phase (.error fault) (some .reverted) where
  success := by simp
  reverted := by simp [isUntold]
  timedOut := by simp [isOther]
  otherwise := fun _ _ _ isTold => absurd isUntold isTold

theorem of_timedOut {fault : Fault} (isTimedOut : timedOutItself) (isTold : ¬untold) :
    Leaves timedOutItself untold phase (.error fault) (some .timedOut) where
  success := by simp
  reverted := by simp [isTold]
  timedOut := by simp [isTimedOut]
  otherwise := fun _ _ isOther => absurd isTimedOut isOther

theorem of_otherwise {fault : Fault} (isPhase : phase = .submitted ∨ phase = .included)
    (isOther : ¬timedOutItself) (isTold : ¬untold) :
    Leaves timedOutItself untold phase (.error fault) (some phase) where
  success := by rcases isPhase with rfl | rfl <;> simp
  reverted := by rcases isPhase with rfl | rfl <;> simp [isTold]
  timedOut := by rcases isPhase with rfl | rfl <;> simp [isOther]
  otherwise := fun _ _ _ _ => rfl

end Leaves

/-- A phase that ends with a fault leaves its own state, unless it times out by itself. -/
theorem Phase.leaves {tracker : Tracker} {pending : PendingDeployment} {deadline : Measure}
    {request : Request} {world final : World σ} {added : List Entry} {fault : Fault}
    {state : TrackingState} {untold : Prop} (isState : world.tracking = some state)
    (isPhase : state = .submitted ∨ state = .included) (isTold : ¬untold)
    (phase : tracker.Phase pending deadline request world added
      (.error fault : Except Fault TrackingResult) final) :
    Leaves (tracker.TimedOutItself pending (exchangesOf added)
      (.error fault : Except Fault TrackingResult)) untold state (.error fault) final.tracking := by
  by_cases timedOut : tracker.TimedOutItself pending (exchangesOf added)
    (.error fault : Except Fault TrackingResult)
  · rw [(phase.timesOut timedOut).1]
    exact Leaves.of_timedOut timedOut isTold
  · rw [phase.endsOtherwise timedOut, isState]
    exact Leaves.of_otherwise isPhase timedOut isTold

variable {tracker : Tracker} {pending : PendingDeployment} {confirmations : Datum}
  {deadline : Measure} {receipt : Receipt} {world final : World σ} {added : List Entry}
  {result : Except Fault TrackingResult}

theorem not_untold_of_succeeded (isSuccess : receipt.succeeded = true) : ¬Untold pending receipt := by
  rintro ⟨isReverted, _⟩
  simp [isSuccess] at isReverted

/-- The limit on the gas of a transaction is an integer, and so is the gas used if it is known. -/
structure HasIntegerGas (pending : PendingDeployment) (receipt : Receipt) : Prop where
  limit : ∃ limit : Int, pending.gasLimit = .int limit
  used : receipt.gasUsed = .null ∨ ∃ used : Int, receipt.gasUsed = .int used

/-- A revert whose gas is told in integers can be told. -/
theorem HasIntegerGas.not_untold (integral : HasIntegerGas pending receipt) :
    ¬Untold pending receipt := by
  rcases integral.limit with ⟨limit, isLimit⟩
  rintro ⟨_, cause, untold⟩
  rcases integral.used with isNull | ⟨used, isUsed⟩
  · simp [usedUpGas, isNull, Datum.isNull, pure, Except.pure] at untold
  · simp [usedUpGas, isUsed, isLimit, Datum.isNull, Datum.order, Datum.number?, Datum.integer?, bind,
      Except.bind, pure, Except.pure] at untold

/-- Whatever follows the first receipt with a block number leaves the state that tells of it. -/
theorem Concluded.leaves
    (concluded : Concluded pending confirmations receipt (tracker.Phase pending deadline .blockNumber)
      world added result final) :
    Leaves (tracker.TimedOutItself pending (exchangesOf added) result) (Untold pending receipt)
      .included result final.tracking := by
  cases concluded with
  | @untold _ _ cause isReverted noted incomparable other =>
      exact Leaves.of_untold ⟨isReverted, cause, incomparable⟩ (not_timedOutItself_of_other other)
  | reverted isReverted noted told warned =>
      rw [warned.tracking]
      exact Leaves.of_reverted rfl (not_timedOutItself_ok _ _)
  | confirmedAtOnce isSuccess unwanted noted =>
      exact Leaves.of_success rfl (not_timedOutItself_ok _ _) (not_untold_of_succeeded isSuccess)
  | unconfirmed isSuccess wanted noted phase =>
      rw [exchangesOf_append, noted.silent.exchanges, List.nil_append]
      exact Phase.leaves noted.tracking (Or.inr rfl) (not_untold_of_succeeded isSuccess) phase.error
  | confirmed isSuccess wanted noted phase =>
      exact Leaves.of_success rfl (not_timedOutItself_ok _ _) (not_untold_of_succeeded isSuccess)

/-- A revert that cannot be told ends a call with the defect that the comparison of its gas has. -/
theorem Concluded.raises
    {depthPhase : World σ → List Entry → Except Fault Datum → World σ → Prop}
    (concluded : Concluded pending confirmations receipt depthPhase world added result final)
    (untold : Untold pending receipt) :
    ∃ cause, usedUpGas pending receipt = .error (.defect cause) ∧ result = .error (.defect cause) := by
  cases concluded with
  | @untold _ _ cause isReverted noted incomparable other => exact ⟨cause, incomparable, rfl⟩
  | reverted isReverted noted told warned =>
      rcases untold with ⟨_, cause, untold⟩
      rw [told] at untold
      cases untold
  | confirmedAtOnce isSuccess unwanted noted =>
      exact absurd untold (not_untold_of_succeeded isSuccess)
  | unconfirmed isSuccess wanted noted phase =>
      exact absurd untold (not_untold_of_succeeded isSuccess)
  | confirmed isSuccess wanted noted phase =>
      exact absurd untold (not_untold_of_succeeded isSuccess)

/-! ## The states within a call -/

/-- Entries of the first phase: the tracker is submitted at each of them, and nothing is asked for but the receipt. -/
def InReceiptPhase (pending : PendingDeployment) (entry : Entry) : Prop :=
  entry.tracking = some .submitted ∧
    ∀ request, entry.request? = some request → request = .transactionReceipt pending.txHash

/-- Entries of the second phase and of what follows: the tracker is included whenever it asks or sleeps, and nothing
is asked for but the height. -/
def InDepthPhase (entry : Entry) : Prop :=
  (∀ request, entry.request? = some request →
    request = .blockNumber ∧ entry.tracking = some .included) ∧
  (∀ sleep, entry.sleep? = some sleep → entry.tracking = some .included)

theorem inReceiptPhase_of_noted {notes : List Entry} (noted : Noted world notes final)
    (isSubmitted : world.tracking = some .submitted) :
    ∀ entry ∈ notes, InReceiptPhase pending entry := by
  intro entry mem
  rcases noted.logs entry mem with ⟨⟨_, _, _, event⟩, state⟩
  exact ⟨state.trans isSubmitted, by simp [Entry.request?, event]⟩

theorem inReceiptPhase_of_phase {polled : List Entry} {α : Type} {ending : Except Fault α}
    (phase : tracker.Phase pending deadline (.transactionReceipt pending.txHash) world polled ending
      final) (isSubmitted : world.tracking = some .submitted) :
    ∀ entry ∈ polled, InReceiptPhase pending entry := by
  intro entry mem
  refine ⟨(phase.polling.states entry mem).trans isSubmitted, ?_⟩
  intro request made
  exact phase.polling.requests request (List.mem_filterMap.mpr ⟨entry, mem, made⟩)

theorem inDepthPhase_of_noted {notes : List Entry} (noted : Noted world notes final) :
    ∀ entry ∈ notes, InDepthPhase entry := by
  intro entry mem
  rcases noted.logs entry mem with ⟨⟨_, _, _, event⟩, _⟩
  exact ⟨by simp [Entry.request?, event], by simp [Entry.sleep?, event]⟩

theorem inDepthPhase_of_phase {polled : List Entry} {α : Type} {ending : Except Fault α}
    (phase : tracker.Phase pending deadline .blockNumber world polled ending final)
    (isIncluded : world.tracking = some .included) : ∀ entry ∈ polled, InDepthPhase entry := by
  intro entry mem
  have state := (phase.polling.states entry mem).trans isIncluded
  refine ⟨?_, fun _ _ => state⟩
  intro request made
  exact ⟨phase.polling.requests request (List.mem_filterMap.mpr ⟨entry, mem, made⟩), state⟩

theorem Concluded.inDepthPhase
    (concluded : Concluded pending confirmations receipt (tracker.Phase pending deadline .blockNumber)
      world added result final) : ∀ entry ∈ added, InDepthPhase entry := by
  cases concluded with
  | untold isReverted noted incomparable other => exact inDepthPhase_of_noted noted
  | reverted isReverted noted told warned =>
      exact List.forall_mem_append.mpr
        ⟨inDepthPhase_of_noted noted, inDepthPhase_of_noted warned⟩
  | confirmedAtOnce isSuccess unwanted noted => exact inDepthPhase_of_noted noted
  | unconfirmed isSuccess wanted noted phase =>
      exact List.forall_mem_append.mpr
        ⟨inDepthPhase_of_noted noted, inDepthPhase_of_phase phase noted.tracking⟩
  | confirmed isSuccess wanted noted phase =>
      exact List.forall_mem_append.mpr
        ⟨inDepthPhase_of_noted noted, inDepthPhase_of_phase phase noted.tracking⟩

theorem Concluded.atDeadline
    (concluded : Concluded pending confirmations receipt (tracker.Phase pending deadline .blockNumber)
      world added result final) (timedOut : tracker.TimedOutItself pending (exchangesOf added) result) :
    (deadline.sub final.now).isNonPositive = true := by
  cases concluded with
  | untold isReverted noted incomparable other =>
      exact absurd timedOut (not_timedOutItself_of_other other)
  | reverted isReverted noted told warned => exact absurd timedOut (not_timedOutItself_ok _ _)
  | confirmedAtOnce isSuccess unwanted noted => exact absurd timedOut (not_timedOutItself_ok _ _)
  | unconfirmed isSuccess wanted noted phase =>
      rw [exchangesOf_append, noted.silent.exchanges, List.nil_append] at timedOut
      exact (phase.error.timesOut timedOut).2
  | confirmed isSuccess wanted noted phase => exact absurd timedOut (not_timedOutItself_ok _ _)

/-! ## One call -/

/-- The phase that a conversation has come to: it ends in the first one unless it has brought a receipt with a block
number. -/
def phaseReached (exchanges : List Exchange) : TrackingState :=
  if (firstMined exchanges).isSome then .included else .submitted

/-- What a call that is not refused does with the state of its tracker. A revert that cannot be told ends it with a
defect, and there is none if its gas is told in integers. -/
structure KeepsStates (tracker : Tracker) (pending : PendingDeployment) (world : World σ)
    (added : List Entry) (result : Except Fault TrackingResult) (final : World σ) : Prop where
  phases : ∃ front back, added = front ++ back ∧ (∀ entry ∈ front, InReceiptPhase pending entry) ∧
    ∀ entry ∈ back, InDepthPhase entry
  leaves : Leaves (tracker.TimedOutItself pending (exchangesOf added) result)
    (BringsUntold pending (exchangesOf added)) (phaseReached (exchangesOf added)) result final.tracking
  atDeadline : tracker.TimedOutItself pending (exchangesOf added) result →
    ∃ deadline, world.now.add? tracker.timeout = some deadline ∧
      (deadline.sub final.now).isNonPositive = true
  raises : ∀ receipt, firstMined (exchangesOf added) = some receipt → Untold pending receipt →
    ∃ cause, usedUpGas pending receipt = .error (.defect cause) ∧ result = .error (.defect cause)
  told : ∀ receipt, firstMined (exchangesOf added) = some receipt → HasIntegerGas pending receipt →
    ¬BringsUntold pending (exchangesOf added)

/-- A conversation that has brought no receipt with a block number is in its first phase, and there is no revert to
be told. -/
theorem phase_of_unmined {exchanges : List Exchange} (unmined : firstMined exchanges = none) :
    phaseReached exchanges = .submitted ∧ ¬BringsUntold pending exchanges := by
  constructor
  · simp [phaseReached, unmined]
  · rintro ⟨receipt, isFirst, _⟩
    simp [unmined] at isFirst

/-- A conversation that has brought a receipt with a block number is past its first phase, and what cannot be told is
the revert that this receipt tells of. -/
theorem phase_of_mined {exchanges : List Exchange} (mined : firstMined exchanges = some receipt) :
    phaseReached exchanges = .included ∧ (BringsUntold pending exchanges ↔ Untold pending receipt) := by
  constructor
  · simp [phaseReached, mined]
  · simp [BringsUntold, mined]

theorem HasIntegerGas.not_bringsUntold {exchanges : List Exchange}
    (isFirst : firstMined exchanges = some receipt) (integral : HasIntegerGas pending receipt) :
    ¬BringsUntold pending exchanges := by
  rw [(phase_of_mined isFirst).2]
  exact integral.not_untold

theorem inReceiptPhase_of_begun {notes polled : List Entry} {begun middle : World σ} {α : Type}
    {ending : Except Fault α} (noted : Noted (world.entering .submitted) notes begun)
    (phase : tracker.Phase pending deadline (.transactionReceipt pending.txHash) begun polled ending
      middle) : ∀ entry ∈ notes ++ polled, InReceiptPhase pending entry :=
  List.forall_mem_append.mpr ⟨inReceiptPhase_of_noted noted rfl,
    inReceiptPhase_of_phase phase noted.tracking⟩

/-- A call that finds no deadline has nothing to do with states but to be submitted. -/
theorem keepsStates_of_unlimited {fault : Fault} (other : fault.isOverdue = false) :
    tracker.KeepsStates pending world [] (.error fault) (world.entering .submitted) := by
  rcases @phase_of_unmined pending [] rfl with ⟨isPhase, isTold⟩
  have isOther {exchanges : List Exchange} : ¬tracker.TimedOutItself pending exchanges
      (.error fault : Except Fault TrackingResult) := not_timedOutItself_of_other other
  exact {
    phases := ⟨[], [], rfl, by simp, by simp⟩
    leaves := by
      rw [exchangesOf_nil, isPhase]
      exact Leaves.of_otherwise (Or.inl rfl) isOther isTold
    atDeadline := fun timedOut => absurd timedOut isOther
    raises := fun receipt isFirst untold => absurd ⟨receipt, isFirst, untold⟩ isTold
    told := fun _ => HasIntegerGas.not_bringsUntold }

/-- A call that ends in its first phase leaves the state of that phase, unless it times out. -/
theorem keepsStates_of_unmined {notes polled : List Entry} {begun : World σ} {fault : Fault}
    (due : world.now.add? tracker.timeout = some deadline)
    (noted : Noted (world.entering .submitted) notes begun)
    (phase : tracker.Phase pending deadline (.transactionReceipt pending.txHash) begun polled
      (.error fault : Except Fault Receipt) final)
    (unmined : firstMined (exchangesOf polled) = none) :
    tracker.KeepsStates pending world (notes ++ polled) (.error fault) final := by
  rcases @phase_of_unmined pending (exchangesOf polled) unmined with ⟨isPhase, isTold⟩
  have exchanged : exchangesOf (notes ++ polled) = exchangesOf polled := by
    simp [noted.silent.exchanges]
  exact {
    phases := ⟨notes ++ polled, [], (List.append_nil _).symm, inReceiptPhase_of_begun noted phase, by simp⟩
    leaves := by
      rw [exchanged, isPhase]
      exact Phase.leaves noted.tracking (Or.inl rfl) isTold phase.error
    atDeadline := by
      rw [exchanged]
      intro timedOut
      exact ⟨deadline, due, (phase.error.timesOut timedOut).2⟩
    raises := by
      rw [exchanged]
      intro receipt isFirst untold
      exact absurd ⟨receipt, isFirst, untold⟩ isTold
    told := fun _ => HasIntegerGas.not_bringsUntold }

/-- A call that takes a receipt keeps to its first phase up to that receipt, and leaves the state that the receipt
leads to. -/
theorem keepsStates_of_mined {notes polled rest : List Entry} {begun middle : World σ}
    (due : world.now.add? tracker.timeout = some deadline)
    (noted : Noted (world.entering .submitted) notes begun)
    (phase : tracker.Phase pending deadline (.transactionReceipt pending.txHash) begun polled
      (.ok receipt : Except Fault Receipt) middle)
    (isFirst : firstMined (exchangesOf polled) = some receipt)
    (concluded : Concluded pending confirmations receipt (tracker.Phase pending deadline .blockNumber)
      middle rest result final) :
    tracker.KeepsStates pending world (notes ++ (polled ++ rest)) result final := by
  have mined : firstMined (exchangesOf polled ++ exchangesOf rest) = some receipt := by
    rw [firstMined_append, isFirst]
    rfl
  rcases @phase_of_mined pending receipt _ mined with ⟨isPhase, bringsUntold⟩
  have exchanged : exchangesOf (notes ++ (polled ++ rest)) =
      exchangesOf polled ++ exchangesOf rest := by
    simp [noted.silent.exchanges]
  have timedOut : tracker.TimedOutItself pending (exchangesOf polled ++ exchangesOf rest) result ↔
      tracker.TimedOutItself pending (exchangesOf rest) result :=
    timedOutItself_append_iff (phase.answered receipt rfl)
  exact {
    phases := ⟨notes ++ polled, rest, by simp, inReceiptPhase_of_begun noted phase, concluded.inDepthPhase⟩
    leaves := by
      rw [exchanged, isPhase, propext timedOut, propext bringsUntold]
      exact concluded.leaves
    atDeadline := by
      rw [exchanged, timedOut]
      intro isTimedOut
      exact ⟨deadline, due, concluded.atDeadline isTimedOut⟩
    raises := by
      rw [exchanged, mined]
      rintro _ ⟨⟩ untold
      exact concluded.raises untold
    told := fun _ => HasIntegerGas.not_bringsUntold }

theorem track_keepsStates (tracker : Tracker) (client : Client σ) (pending : PendingDeployment)
    (confirmations : Datum) (world : World σ)
    (valid : checkConfirmations confirmations = .ok ()) :
    (tracker.track client pending confirmations).Yields world
      (tracker.KeepsStates pending world) := by
  apply (tracker.track_phases client pending confirmations world).mono
  intro added result final tracked
  cases tracked with
  | refused invalid => cases valid.symm.trans invalid
  | unlimited _ => exact keepsStates_of_unlimited rfl
  | unmined _ due noted phase => exact keepsStates_of_unmined due noted phase.1 phase.2
  | mined _ due noted phase concluded =>
      exact keepsStates_of_mined due noted phase.1 phase.2 concluded

/-- A call that is refused changes nothing. -/
theorem track_outcome_of_refused (tracker : Tracker) (client : Client σ)
    (pending : PendingDeployment) {confirmations : Datum} {fault : Fault} (world : World σ)
    (invalid : checkConfirmations confirmations = .error fault) :
    (tracker.track client pending confirmations).outcome world = (.error fault, world) := by
  rw [track, invalid, outcome_error_bind]

/-- A refused count of confirmations is no timeout. -/
theorem not_timedOutItself_of_refused {exchanges : List Exchange} {fault : Fault}
    (invalid : checkConfirmations confirmations = .error fault) :
    ¬tracker.TimedOutItself pending exchanges (.error fault : Except Fault TrackingResult) := by
  apply not_timedOutItself_of_other
  rcases checkConfirmations_eq_error invalid with rfl | ⟨cause, _, other⟩
  · rfl
  · exact other

end Tracker

/-! ## Any number of calls -/

/-- A call to track a deployment: the client with the deployment and the count of confirmations, and the world that
the call finds but for the state of the tracker. -/
structure TrackingCall (σ : Type) where
  client : Client σ
  pending : PendingDeployment
  confirmations : Datum
  world : World σ

/-- A call that was made: the worlds before and after it, and how it ended. -/
structure TrackingRun (σ : Type) where
  call : TrackingCall σ
  before : World σ
  result : Except Fault TrackingResult
  after : World σ

namespace Tracker

/-- A call that finds the tracker in a state. -/
def run (tracker : Tracker) (state : Option TrackingState) (call : TrackingCall σ) : TrackingRun σ :=
  let before := { call.world with tracking := state }
  let outcome := (tracker.track call.client call.pending call.confirmations).outcome before
  ⟨call, before, outcome.1, outcome.2⟩

/-- A tracker with a deadline of two minutes that polls every second. -/
def standard : Tracker :=
  ⟨.whole 120, .whole 1⟩

/-- A call that is answered with a reverted receipt at once, the gas used being a text. -/
def untoldCall : TrackingCall Unit where
  client := .direct fun request state =>
    match request with
    | .transactionReceipt hash =>
        (.ok (some ⟨hash, .reverted, .null, .text "many", .null, .int 5, .int 0⟩), state)
    | .gasPrice | .transactionCount _ | .sendRawTransaction _ | .blockNumber =>
        (.error .unfinished, state)
  pending := ⟨.text "0xaa", .int 100⟩
  confirmations := .int 0
  world := .steady 0 1

end Tracker

end WasmDeploy
