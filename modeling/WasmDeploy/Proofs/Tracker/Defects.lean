import WasmDeploy.Proofs.Defects

/-!
# How tracking fails

Tracking ends with defects of its own where a figure that it is told of does not compare or where a message cannot show
one. This file says where, and that none of them stands for a deadline that has passed but the one that does.
-/

namespace WasmDeploy

namespace Tracker

/-- Past its deadline, tracking ends with the failure that says so or with the defect that stands for it. -/
theorem overdue_cases (tracker : Tracker) (pending : PendingDeployment) (known : Option Receipt) :
    tracker.overdue pending known = .of (.timedOut pending.txHash tracker.timeout known) ∨
      ∃ cause, tracker.overdue pending known = .defect (.overdue cause) := by
  simp only [overdue]
  split
  · exact Or.inr ⟨_, rfl⟩
  · split
    · exact Or.inr ⟨_, rfl⟩
    · exact Or.inl rfl

theorem isOverdue_overdue (tracker : Tracker) (pending : PendingDeployment) (known : Option Receipt) :
    (tracker.overdue pending known).isOverdue = true := by
  rcases tracker.overdue_cases pending known with ends | ⟨cause, ends⟩ <;> rw [ends] <;> rfl

theorem overdue_ne_unfinished (tracker : Tracker) (pending : PendingDeployment) (known : Option Receipt) :
    tracker.overdue pending known ≠ .unfinished := by
  intro ends
  have isOverdue := tracker.isOverdue_overdue pending known
  rw [ends] at isOverdue
  cases isOverdue

theorem onlyDefects_assess (receipt : Receipt) (confirmations highest height : Datum) :
    OnlyDefects (assess receipt confirmations highest height) :=
  .bind (Datum.onlyDefects_larger highest height) fun highest =>
    .bind (Datum.onlyDefects_excess highest receipt.blockNumber) fun _ => .pure _

theorem onlyDefects_usedUpGas (pending : PendingDeployment) (receipt : Receipt) :
    OnlyDefects (usedUpGas pending receipt) := by
  simp only [usedUpGas]
  split
  · exact .pure _
  · exact .bind (Datum.onlyDefects_order _ _ _) fun _ => .pure _

/-- A number below zero is refused as a count of confirmations. -/
theorem checkConfirmations_of_negative {value : Datum}
    (isNegative : value.compare? (.int 0) = some .lt) :
    checkConfirmations value = value.refuse (.confirmationsNegative value) := by
  have compared : value.order "<" (.int 0) = .ok (some .lt) := by
    rw [← isNegative]
    cases value <;>
      simp_all [Datum.order, Datum.compare?, Datum.number?, Datum.integer?]
  simp [checkConfirmations, compared, bind, Except.bind]

/-- A count of confirmations is refused as negative, or with a defect if it is no number or the message cannot show
it. -/
theorem checkConfirmations_eq_error {value : Datum} {fault : Fault}
    (invalid : checkConfirmations value = .error fault) :
    fault = .of (.confirmationsNegative value) ∨
      ∃ cause, fault = .defect cause ∧ fault.isOverdue = false := by
  rcases compared : value.order "<" (.int 0) with other | order
  · rw [checkConfirmations, compared] at invalid
    obtain rfl : other = fault := Except.error.inj invalid
    exact Or.inr (Datum.onlyDefects_order _ _ _ other compared)
  · simp only [checkConfirmations, compared, bind, Except.bind] at invalid
    split at invalid
    · exact (refuse_eq_error invalid).imp_right fun isLong => ⟨_, isLong.1, by rw [isLong.1]; rfl⟩
    · cases invalid

end Tracker

end WasmDeploy
