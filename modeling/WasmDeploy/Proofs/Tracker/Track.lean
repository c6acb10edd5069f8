import WasmDeploy.Proofs.Tracker.Phase

/-!
# What tracking can do

Tracking checks the count of confirmations, fixes the deadline, waits for a receipt, and then either concludes at
once or waits for confirmations. This file says once what all of it can do, given descriptions of the two phases.
A property of tracking is derived from the same property of the phases by going through these cases.
-/

namespace WasmDeploy

variable {σ : Type}

namespace Tracker

open Run

/-- What can follow the first receipt with a block number. A receipt that is not successful ends tracking at once,
with a defect if its gas cannot be compared with the limit, and so does a successful one if no confirmations are
wanted. -/
inductive Concluded (pending : PendingDeployment) (confirmations : Datum) (receipt : Receipt)
    (depthPhase : World σ → List Entry → Except Fault Datum → World σ → Prop) (world : World σ) :
    List Entry → Except Fault TrackingResult → World σ → Prop where
  | untold {notes : List Entry} {seen : World σ} {cause : Defect}
      (isReverted : receipt.succeeded = false)
      (noted : Noted (world.entering .included) notes seen)
      (incomparable : usedUpGas pending receipt = .error (.defect cause))
      (other : (Fault.defect cause).isOverdue = false) :
      Concluded pending confirmations receipt depthPhase world notes (.error (.defect cause))
        (seen.entering .reverted)
  | reverted {notes warnings : List Entry} {seen final : World σ} {gasLimitReached : Bool}
      (isReverted : receipt.succeeded = false)
      (noted : Noted (world.entering .included) notes seen)
      (told : usedUpGas pending receipt = .ok gasLimitReached)
      (warned : Noted (seen.entering .reverted) warnings final) :
      Concluded pending confirmations receipt depthPhase world (notes ++ warnings)
        (.ok ⟨.reverted, receipt, pending.gasLimit, .int 0, gasLimitReached⟩) final
  | confirmedAtOnce {notes : List Entry} {seen : World σ} (isSuccess : receipt.succeeded = true)
      (unwanted : confirmations.isPositive = false)
      (noted : Noted (world.entering .included) notes seen) :
      Concluded pending confirmations receipt depthPhase world notes
        (.ok ⟨.success, receipt, pending.gasLimit, .int 0, false⟩) (seen.entering .success)
  | unconfirmed {notes polled : List Entry} {seen final : World σ} {fault : Fault}
      (isSuccess : receipt.succeeded = true) (wanted : confirmations.isPositive = true)
      (noted : Noted (world.entering .included) notes seen)
      (phase : depthPhase seen polled (.error fault) final) :
      Concluded pending confirmations receipt depthPhase world (notes ++ polled) (.error fault) final
  | confirmed {notes polled : List Entry} {seen final : World σ} {depth : Datum}
      (isSuccess : receipt.succeeded = true) (wanted : confirmations.isPositive = true)
      (noted : Noted (world.entering .included) notes seen)
      (phase : depthPhase seen polled (.ok depth) final) :
      Concluded pending confirmations receipt depthPhase world (notes ++ polled)
        (.ok ⟨.success, receipt, pending.gasLimit, depth, false⟩) (final.entering .success)

/-- The ends of tracking: with a refused count of confirmations, without a deadline, without a receipt, or with
whatever can follow the first receipt with a block number. -/
inductive Tracked (tracker : Tracker) (pending : PendingDeployment) (confirmations : Datum)
    (receiptPhase : Measure → World σ → List Entry → Except Fault Receipt → World σ → Prop)
    (depthPhase : Measure → Receipt → World σ → List Entry → Except Fault Datum → World σ → Prop)
    (world : World σ) : List Entry → Except Fault TrackingResult → World σ → Prop where
  | refused {fault : Fault} (invalid : checkConfirmations confirmations = .error fault) :
      Tracked tracker pending confirmations receiptPhase depthPhase world [] (.error fault) world
  | unlimited (valid : checkConfirmations confirmations = .ok ())
      (undue : world.now.add? tracker.timeout = none) :
      Tracked tracker pending confirmations receiptPhase depthPhase world []
        (.error (.defect .beyondFloat)) (world.entering .submitted)
  | unmined {deadline : Measure} {notes polled : List Entry} {begun final : World σ}
      {fault : Fault} (valid : checkConfirmations confirmations = .ok ())
      (due : world.now.add? tracker.timeout = some deadline)
      (noted : Noted (world.entering .submitted) notes begun)
      (phase : receiptPhase deadline begun polled (.error fault) final) :
      Tracked tracker pending confirmations receiptPhase depthPhase world (notes ++ polled)
        (.error fault) final
  | mined {deadline : Measure} {notes polled rest : List Entry} {begun middle final : World σ}
      {receipt : Receipt} {result : Except Fault TrackingResult}
      (valid : checkConfirmations confirmations = .ok ())
      (due : world.now.add? tracker.timeout = some deadline)
      (noted : Noted (world.entering .submitted) notes begun)
      (phase : receiptPhase deadline begun polled (.ok receipt) middle)
      (concluded : Concluded pending confirmations receipt (depthPhase deadline receipt) middle
        rest result final) :
      Tracked tracker pending confirmations receiptPhase depthPhase world
        (notes ++ (polled ++ rest)) result final

variable {world : World σ}

theorem warnOfRevert_yields (pending : PendingDeployment) (receipt : Receipt) (gasLimitReached : Bool) :
    (warnOfRevert pending receipt gasLimitReached).Yields world fun added result final =>
      Noted world added final ∧ result = .ok () := by
  apply yields_record_bind
  split
  · apply yields_record
    exact ⟨(Noted.log world _ _ _).trans (.log _ _ _ _), rfl⟩
  · exact yields_pure ⟨Noted.log world _ _ _, rfl⟩

theorem conclude_yields {pending : PendingDeployment} {confirmations : Datum} {receipt : Receipt}
    {depthPhase : World σ → List Entry → Except Fault Datum → World σ → Prop}
    {notes : List Entry} {seen : World σ} (isReverted : receipt.succeeded = false)
    (noted : Noted (world.entering .included) notes seen) :
    (conclude pending receipt).Yields seen fun added =>
      Concluded pending confirmations receipt depthPhase world (notes ++ added) := by
  apply yields_modify_bind rfl
  apply yields_lift_bind
  · intro fault failed
    rcases onlyDefects_usedUpGas pending receipt fault failed with ⟨cause, rfl, other⟩
    rw [List.append_nil]
    exact Concluded.untold isReverted noted failed other
  · intro gasLimitReached told
    apply yields_bind
    apply (warnOfRevert_yields pending receipt gasLimitReached).mono
    rintro warnings _ final ⟨warned, rfl⟩
    apply yields_pure
    rw [List.append_nil]
    exact Concluded.reverted isReverted noted told warned

theorem confirm_yields {tracker : Tracker} {client : Client σ} {pending : PendingDeployment}
    {confirmations : Datum} {receipt : Receipt} {deadline : Measure}
    {depthPhase : World σ → List Entry → Except Fault Datum → World σ → Prop}
    (depthYields : ∀ seen : World σ,
      (tracker.awaitDepth client pending receipt confirmations deadline seen.horizon
        receipt.blockNumber).Yields seen (depthPhase seen))
    {notes : List Entry} {seen : World σ} (isSuccess : receipt.succeeded = true)
    (noted : Noted (world.entering .included) notes seen) :
    (tracker.confirm client pending receipt confirmations deadline).Yields seen fun added =>
      Concluded pending confirmations receipt depthPhase world (notes ++ added) := by
  apply yields_bind
  simp only [awaitConfirmations]
  split
  · next wanted =>
    have announced := noted.trans (.log seen .info .tracking (confirmationsLine confirmations))
    apply yields_record_bind
    apply yields_get_bind
    apply yields_bind
    apply (depthYields _).mono
    rintro polled (fault | depth) final phase
    · simpa using Concluded.unconfirmed isSuccess wanted announced phase
    · apply yields_modify_bind rfl
      apply yields_pure
      apply yields_modify_bind rfl
      apply yields_pure
      simpa using Concluded.confirmed isSuccess wanted announced phase
  · next unwanted =>
    apply yields_pure
    apply yields_modify_bind rfl
    apply yields_pure
    rw [List.append_nil, List.append_nil]
    exact Concluded.confirmedAtOnce isSuccess (by simpa using unwanted) noted

/-- Everything after the first receipt with a block number. -/
theorem included_yields {tracker : Tracker} {client : Client σ} {pending : PendingDeployment}
    {confirmations : Datum} {receipt : Receipt} {deadline : Measure}
    {depthPhase : World σ → List Entry → Except Fault Datum → World σ → Prop}
    (depthYields : ∀ seen : World σ,
      (tracker.awaitDepth client pending receipt confirmations deadline seen.horizon
        receipt.blockNumber).Yields seen (depthPhase seen)) :
    (tracker.included client pending receipt confirmations deadline).Yields world
      (Concluded pending confirmations receipt depthPhase world) := by
  apply yields_modify_bind rfl
  have noted := Noted.log (world.entering .included) .info .tracking (inclusionLine receipt)
  apply yields_record_bind
  split
  · next isSuccess => exact confirm_yields depthYields isSuccess noted
  · next isReverted => exact conclude_yields (by simpa using isReverted) noted

/-- What tracking can do, by what its two phases can do. -/
theorem track_yields (tracker : Tracker) (client : Client σ) (pending : PendingDeployment)
    (confirmations : Datum) (world : World σ)
    {receiptPhase : Measure → World σ → List Entry → Except Fault Receipt → World σ → Prop}
    {depthPhase : Measure → Receipt → World σ → List Entry → Except Fault Datum → World σ → Prop}
    (receiptYields : ∀ deadline (begun : World σ),
      (tracker.awaitReceipt client pending deadline begun.horizon).Yields begun
        (receiptPhase deadline begun))
    (depthYields : ∀ deadline receipt (seen : World σ),
      (tracker.awaitDepth client pending receipt confirmations deadline seen.horizon
        receipt.blockNumber).Yields seen (depthPhase deadline receipt seen)) :
    (tracker.track client pending confirmations).Yields world
      (Tracked tracker pending confirmations receiptPhase depthPhase world) := by
  apply yields_lift_bind
  · intro fault invalid
    exact Tracked.refused invalid
  · rintro ⟨⟩ valid
    apply yields_modify_bind rfl
    apply yields_bind
    apply yields_get_bind
    apply yields_lift
    rcases due : world.now.add? tracker.timeout with _ | deadline
    · rw [World.now_entering, due]
      exact Tracked.unlimited valid due
    · rw [World.now_entering, due]
      have begun := Noted.log (world.entering .submitted) .info .tracking
        (.ok s!"Waiting for transaction {pending.txHash.plain} to be mined...")
      apply yields_record_bind
      apply yields_get_bind
      apply yields_bind
      apply (receiptYields deadline _).mono
      rintro polled (fault | receipt) middle phase
      · simpa using Tracked.unmined valid due begun phase
      · apply (included_yields (depthYields deadline receipt)).mono
        intro rest result final concluded
        simpa using Tracked.mined valid due begun phase concluded

/-- What tracking can do, by what is known of its two phases: the first one ends with the first receipt with a block
number that it has brought. -/
theorem track_phases (tracker : Tracker) (client : Client σ) (pending : PendingDeployment)
    (confirmations : Datum) (world : World σ) :
    (tracker.track client pending confirmations).Yields world
      (Tracked tracker pending confirmations
        (fun deadline begun added result final =>
          tracker.Phase pending deadline (.transactionReceipt pending.txHash) begun added result final ∧
            firstMined (exchangesOf added) = result.toOption)
        (fun deadline _ => tracker.Phase pending deadline .blockNumber) world) := by
  apply tracker.track_yields
  · intro deadline begun
    exact (tracker.awaitReceipt_phase client pending deadline begun.horizon begun).and
      (tracker.awaitReceipt_firstMined client pending deadline begun.horizon begun)
  · intro deadline receipt seen
    exact tracker.awaitDepth_phase client pending receipt confirmations deadline seen.horizon
      receipt.blockNumber seen

end Tracker

end WasmDeploy
