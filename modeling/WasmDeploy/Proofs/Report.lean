import WasmDeploy.Report

/-!
# What reports tell

A report is made from a failure or from the result of tracking. This file says what of either it keeps, and that the
hint at the gas limit shows in the lines of a report and in the failure it stands for just if the report has it.
-/

namespace WasmDeploy

namespace Report

/-! ## Reports on failures -/

section

variable (network : Option Network) (cause : Failure)

theorem network_ofFailure : (ofFailure network cause).network =
    (network.map fun known => Datum.text known.name).getD .null := by
  cases cause with
  | timedOut hash timeout receipt => cases receipt <;> rfl
  | _ => rfl

theorem chainId_ofFailure : (ofFailure network cause).chainId =
    (network.map fun known => Datum.int known.chainId).getD .null := by
  cases cause with
  | timedOut hash timeout receipt => cases receipt <;> rfl
  | _ => rfl

/-- The report on a failure has a hash only if the deployment timed out. -/
theorem ofFailure_cases :
    (ofFailure network cause).status = .failed ∧ (ofFailure network cause).txHash = .null ∨
      ∃ hash timeout receipt, cause = .timedOut hash timeout receipt ∧
        (ofFailure network cause).status = .timedOut ∧ (ofFailure network cause).txHash = hash := by
  cases cause with
  | timedOut hash timeout receipt =>
      cases receipt <;> exact Or.inr ⟨hash, timeout, _, rfl, rfl, rfl⟩
  | _ => exact Or.inl ⟨rfl, rfl⟩

/-- The report on a failure is on a deployment that timed out or on one that failed, by what the failure is. -/
theorem status_ofFailure :
    ((ofFailure network cause).status = .timedOut ↔
        ∃ hash timeout receipt, cause = .timedOut hash timeout receipt) ∧
      ((ofFailure network cause).status = .failed ↔
        ¬∃ hash timeout receipt, cause = .timedOut hash timeout receipt) := by
  cases cause with
  | timedOut hash timeout receipt => cases receipt <;> simp [ofFailure]
  | _ => simp [ofFailure]

end

/-! ## Reports on mined deployments -/

/-- There is a report on every result in a final state. -/
theorem exists_ofResult {network : Network} {result : TrackingResult}
    (final : result.state = .success ∨ result.state = .reverted) :
    ∃ report, ofResult network result = .ok report := by
  simp only [ofResult]
  rcases final with isSuccess | isReverted
  · simp [isSuccess, statusOf?]
  · simp [isReverted, statusOf?]

/-- A report on a result keeps all that the result says. -/
theorem of_ofResult {network : Network} {result : TrackingResult} {report : Report}
    (isReport : ofResult network result = .ok report) :
    statusOf? result.state = some report.status ∧ report = {
      network := .text network.name
      chainId := .int network.chainId
      status := report.status
      txHash := result.receipt.txHash
      contractAddress := result.receipt.contractAddress
      gasUsed := result.receipt.gasUsed
      gasLimit := result.gasLimit
      effectiveGasPrice := result.receipt.effectiveGasPrice
      blockNumber := result.receipt.blockNumber
      eventCount := result.receipt.eventCount
      confirmations := result.confirmations
      gasLimitReached := result.gasLimitReached } := by
  simp only [ofResult] at isReport
  split at isReport
  · cases isReport
  · next status isStatus =>
    cases isReport
    exact ⟨isStatus, rfl⟩

/-! ## The hint at the gas limit -/

/-- The line of a report that hints at the gas limit. -/
def hintLine : String :=
  "Gas limit reached, likely cause of the revert. Increase the gas limit."

/-- A line with another beginning is not the hint. -/
theorem hintLine_ne_append {beginning rest : String}
    (other : ¬beginning.toList <+: hintLine.toList) : hintLine ≠ beginning ++ rest := by
  intro isLine
  rw [isLine, String.toList_append] at other
  exact other (List.prefix_append _ _)

section

variable (report : Report)

theorem hintLine_ne_networkLine : hintLine ≠ report.networkLine := by
  simp only [networkLine, toString, String.append_assoc]
  exact hintLine_ne_append (by decide)

theorem hintLine_not_mem_successLines : hintLine ∉ report.successLines := by
  have title : hintLine ≠ "Contract deployed successfully" := by decide
  simp (disch := decide) [successLines, hintLine_ne_networkLine, hintLine_ne_append, toString, title]

theorem hintLine_mem_revertedLines_iff :
    hintLine ∈ report.revertedLines ↔ report.gasLimitReached = true := by
  have title : hintLine ≠ "Contract deployment failed: transaction reverted" := by decide
  have advice : hintLine ≠ "Check the transaction trace for more details." := by decide
  have same : hintLine = "Gas limit reached, likely cause of the revert. Increase the gas limit." := rfl
  simp (disch := decide) [revertedLines, hintLine_ne_networkLine, hintLine_ne_append, toString, title,
    advice, ← same]

theorem hintLine_not_mem_failureLines : hintLine ∉ report.failureLines := by
  have titles : hintLine ≠ "Contract deployment timed out" ∧ hintLine ≠ "Contract deployment failed" := by
    decide
  have title : hintLine ≠ if report.status = .timedOut then "Contract deployment timed out"
      else "Contract deployment failed" := by
    split
    · exact titles.1
    · exact titles.2
  simp (disch := decide) [failureLines, hintLine_ne_networkLine, hintLine_ne_append, toString, title]

/-- A report shows the hint if it is on a reverted deployment that has used up its gas, and only then. -/
theorem hintLine_mem_lines_iff :
    hintLine ∈ report.lines ↔ report.status = .reverted ∧ report.gasLimitReached = true := by
  simp only [lines]
  cases report.status with
  | success => simp [report.hintLine_not_mem_successLines]
  | reverted => simp [report.hintLine_mem_revertedLines_iff]
  | timedOut => simp [report.hintLine_not_mem_failureLines]
  | failed => simp [report.hintLine_not_mem_failureLines]

/-- A report on a reverted deployment stands for a failure, and no other report does. -/
theorem requireNotReverted_eq_error_iff (fault : Fault) :
    report.requireNotReverted = .error fault ↔ report.status = .reverted ∧
      fault = .of (.executionReverted report.txHash report.blockNumber report.gasLimitReached) := by
  simp only [requireNotReverted]
  split
  · next isReverted => simp [isReverted, fail, eq_comm]
  · next notReverted => simp [notReverted]

/-- The message of the failure that a report stands for, if it hints at the gas limit. -/
def hintMessage : String :=
  s!"Transaction {report.txHash.plain} reverted in block {report.blockNumber.plain}" ++
    " (gas limit reached)"

theorem message_eq_hintMessage_iff (gasLimitReached : Bool) :
    (Failure.executionReverted report.txHash report.blockNumber gasLimitReached).message =
      report.hintMessage ↔ gasLimitReached = true := by
  have ending_inj (text ending other : String) : text ++ ending = text ++ other ↔ ending = other := by
    simp [← String.toList_inj]
  cases gasLimitReached with
  | true => exact iff_of_true rfl rfl
  | false =>
      apply iff_of_false _ (by simp)
      intro same
      have endings : "" = " (gas limit reached)" := (ending_inj _ _ _).mp same
      simp at endings

/-- The failure that a report stands for has the hint if the report has it, and only then. -/
theorem exists_hintMessage_iff :
    (∃ cause, report.requireNotReverted = .error (.of cause) ∧ cause.message = report.hintMessage) ↔
      report.status = .reverted ∧ report.gasLimitReached = true := by
  simp only [requireNotReverted_eq_error_iff, Fault.of, Fault.failure.injEq, and_true]
  constructor
  · rintro ⟨_, ⟨isReverted, rfl⟩, hinted⟩
    exact ⟨isReverted, (report.message_eq_hintMessage_iff _).mp hinted⟩
  · rintro ⟨isReverted, reached⟩
    exact ⟨_, ⟨isReverted, rfl⟩, (report.message_eq_hintMessage_iff _).mpr reached⟩

end

end Report

end WasmDeploy
