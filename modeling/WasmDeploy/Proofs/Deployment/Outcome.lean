import WasmDeploy.Proofs.Deployment.Course
import WasmDeploy.Proofs.Deployment.Order
import WasmDeploy.Proofs.Report
import WasmDeploy.Proofs.Tracker.Outcome

/-!
# What the report on a deployment tells

A deployment that ends with a report has been mined. This file shows that the report is on the first receipt with a
block number that the deployment has brought, on the network that was selected and with the gas that was asked for,
and that it hints at the gas limit wherever it does so at all: as a record, line by line and as a failure.
-/

namespace WasmDeploy

open Run

variable {σ : Type}

/-- A report documents a receipt: what it says of the network, the gas limit and the receipt is copied, the status is
that of the receipt, the confirmations are those that were waited for, and the hint at the gas limit shows in the
record, in the lines and in the failure that the report stands for just if the receipt gives reason for it. -/
structure Report.Documents (request : DeploymentRequest) (network : Network) (receipt : Receipt)
    (report : Report) : Prop where
  copied : report = {
    network := .text network.name
    chainId := .int network.chainId
    status := if receipt.succeeded then .success else .reverted
    txHash := receipt.txHash
    contractAddress := receipt.contractAddress
    gasUsed := receipt.gasUsed
    gasLimit := request.gasLimit
    effectiveGasPrice := receipt.effectiveGasPrice
    blockNumber := receipt.blockNumber
    eventCount := receipt.eventCount
    confirmations := report.confirmations
    gasLimitReached := report.gasLimitReached }
  isMined : report.blockNumber ≠ .null
  unconfirmed : report.status = .reverted ∨ request.confirmations.isPositive = false →
    report.confirmations = .int 0
  confirmed : report.status ≠ .reverted → request.confirmations.isPositive = true →
    report.confirmations.isAtLeast request.confirmations = true
  counted : ∀ count : Int, request.confirmations = .int count →
    (report.status = .reverted ∨ count = 0 → report.confirmations = .int 0) ∧
      (report.status ≠ .reverted → report.confirmations.isAtLeast (.int count) = true)
  reached : report.gasLimitReached = true ↔ receipt.RanOut request.gasLimit
  shown : hintLine ∈ report.lines ↔ receipt.RanOut request.gasLimit
  raised : (∃ cause, report.requireNotReverted = .error (.of cause) ∧
    cause.message = report.hintMessage) ↔ receipt.RanOut request.gasLimit
  raises : ∀ fault, report.requireNotReverted = .error fault ↔ report.status = .reverted ∧
    fault = .of (.executionReverted report.txHash report.blockNumber report.gasLimitReached)

namespace DeploymentRequest

variable (request : DeploymentRequest)

/-- What the result of a conversation is on: the first receipt with a block number, with the gas limit and the
confirmations asked for. -/
structure Concludes (exchanges : List Exchange) (value : TrackingResult) : Prop where
  first : firstMined exchanges = some value.receipt
  isMined : value.receipt.blockNumber.isNull = false
  limit : ∃ limit : Nat, request.gasLimit = .int limit
  documents : value.Documents request.gasLimit request.confirmations

variable (source : ClientSource σ) (tracker : Option Tracker) {world : World σ}

theorem converse_concludes (artifact : Bytes) (network : Network) (signer : Signer)
    (client : Client σ) :
    (request.converse client tracker artifact network signer).Yields world fun added result _ =>
      ∀ value, result = .ok value → request.Concludes (exchangesOf added) value := by
  apply (request.converse_course tracker artifact network signer client
    (fun begun => buildTransaction_yields client artifact network _ _)
    (fun transaction begun priced built _ => submit_yields client signer transaction)
    fun tracker pending submitted =>
      tracker.track_concludes client pending request.confirmations submitted).mono
  rintro added _ final talked value rfl
  cases talked with
  | @tracked _ _ _ _ _ _ _ _ _ _ pending _ _ noted isBuilt isSubmitted isTracked =>
      rcases isTracked value rfl with ⟨documents, front, back, exchanged, unmined, isMined⟩
      rw [isSubmitted.gasLimit, isBuilt.gasLimit.1] at documents
      have unpriced := firstMined_of_unpolled isBuilt.not_isPoll
      have unsent := firstMined_of_unpolled isSubmitted.not_isPoll
      have brought : firstMined (⟨.transactionReceipt pending.txHash, .ok (some value.receipt)⟩ ::
          back) = some value.receipt := by
        simp [firstMined, Exchange.mined?, Tracker.mined?, isMined]
      refine ⟨?_, isMined, isBuilt.gasLimit.2, documents⟩
      simp [noted.silent.exchanges, unpriced, unsent, exchanged, unmined, brought]

/-- What a deployment hands on once its network is selected. -/
theorem Proceeded.concludes {request : DeploymentRequest} {source : ClientSource σ} {network : Network}
    {final : World σ} {added : List Entry} {value : TrackingResult}
    (proceeded : request.Proceeded source network (fun _ _ _ added result _ => ∀ value,
      result = .ok value → request.Concludes (exchangesOf added) value) world added (.ok value) final) :
    request.Concludes (exchangesOf added) value := by
  rcases proceeded.cases_exchanges with ⟨_, ⟨⟩, _⟩ | ⟨_, _, _, talk, _, _, concludes, exchanged⟩
  rw [exchanged]
  exact concludes value rfl

section

variable {request : DeploymentRequest} {network : Network} {exchanges : List Exchange}
  {value : TrackingResult} {report : Report}

/-- There is a report on every result of a conversation. -/
theorem Concludes.exists_report (concludes : request.Concludes exchanges value) (network : Network) :
    ∃ report, Report.ofResult network value = .ok report := by
  apply Report.exists_ofResult
  rw [concludes.documents.state]
  split
  · exact Or.inl rfl
  · exact Or.inr rfl

theorem Concludes.status_eq (concludes : request.Concludes exchanges value)
    (isStatus : Report.statusOf? value.state = some report.status) :
    report.status = if value.receipt.succeeded then .success else .reverted := by
  rw [concludes.documents.state] at isStatus
  split
  · next isSuccess =>
    rw [if_pos isSuccess] at isStatus
    exact (Option.some.inj isStatus).symm
  · next isReverted =>
    rw [if_neg isReverted] at isStatus
    exact (Option.some.inj isStatus).symm

theorem Concludes.hinted (concludes : request.Concludes exchanges value) :
    value.gasLimitReached = true ↔ value.receipt.RanOut request.gasLimit := by
  rcases concludes.limit with ⟨limit, isLimit⟩
  apply concludes.documents.hinted
  rw [isLimit]
  rfl

/-- The report on the result of a conversation documents the receipt. -/
theorem Concludes.documents_ofResult (concludes : request.Concludes exchanges value)
    (isReport : Report.ofResult network value = .ok report) :
    report.Documents request network value.receipt := by
  rcases Report.of_ofResult isReport with ⟨isStatus, copied⟩
  have documents := concludes.documents
  have status := concludes.status_eq isStatus
  have reverted : report.status = .reverted ↔ value.receipt.succeeded = false := by
    rw [status]
    cases value.receipt.succeeded <;> simp
  have block : report.blockNumber = value.receipt.blockNumber := by rw [copied]
  have depth : report.confirmations = value.confirmations := by rw [copied]
  have flag : report.gasLimitReached = value.gasLimitReached := by rw [copied]
  -- The hint is on reverted deployments only, so it does not matter that lines and failures ask for that again.
  have hinted : report.status = .reverted ∧ report.gasLimitReached = true ↔
      value.receipt.RanOut request.gasLimit := by
    rw [flag, concludes.hinted, reverted]
    exact ⟨And.right, fun ranOut => ⟨ranOut.1, ranOut⟩⟩
  have unconfirmed : report.status = .reverted ∨ request.confirmations.isPositive = false →
      report.confirmations = .int 0 := by
    rw [depth, reverted]
    exact documents.unconfirmed
  have confirmed : report.status ≠ .reverted → request.confirmations.isPositive = true →
      report.confirmations.isAtLeast request.confirmations = true := by
    rw [depth, ne_eq, reverted, Bool.not_eq_false]
    exact documents.confirmed
  exact {
    copied := by
      rw [depth, flag, ← status, ← documents.limit]
      exact copied
    isMined := by
      intro isNull
      have isMined := concludes.isMined
      rw [← block, isNull] at isMined
      cases isMined
    unconfirmed
    confirmed
    counted := by
      intro count isCount
      rw [isCount, Datum.isPositive_int] at unconfirmed confirmed
      refine ⟨fun given => unconfirmed (given.imp_right (by simp +contextual)), fun notReverted => ?_⟩
      by_cases positive : 0 < count
      · exact confirmed notReverted (decide_eq_true positive)
      · rw [unconfirmed (Or.inr (decide_eq_false positive))]
        simpa using positive
    reached := by
      rw [flag]
      exact concludes.hinted
    shown := report.hintLine_mem_lines_iff.trans hinted
    raised := report.exists_hintMessage_iff.trans hinted
    raises := report.requireNotReverted_eq_error_iff }

end

/-- A report on a deployment documents the first receipt with a block number that the deployment has brought, and there
is a report on whatever a deployment hands on. -/
theorem deploy_documents (world : World σ) :
    ((request.deploy source tracker).Yields world fun added result _ =>
      ∀ report, result = .ok report → ∃ network receipt,
        Network.select request.localNode request.development request.rpcUrl request.chainId =
          .ok network ∧
        firstMined (exchangesOf added) = some receipt ∧ report.Documents request network receipt) ∧
    ∀ artifact network (seen : World σ), (request.proceed source tracker artifact network).Yields seen
      fun _ result _ => ∀ value, result = .ok value →
        ∃ report, Report.ofResult network value = .ok report := by
  constructor
  · apply (request.deploy_course source tracker fun artifact network signer _ client seen =>
      request.converse_concludes tracker artifact network signer client).mono
    rintro added _ final deployed report rfl
    cases deployed with
    | @reported _ network _ _ _ _ _ _ value _ isRead noted isSelected proceeded isReport announced =>
        refine ⟨network, value.receipt, isSelected, ?_, proceeded.concludes.documents_ofResult isReport⟩
        simp [noted.silent.exchanges, announced.silent.exchanges, proceeded.concludes.first]
  · intro artifact network seen
    apply (request.proceed_course source tracker artifact network fun signer _ client seen =>
      request.converse_concludes tracker artifact network signer client).mono
    rintro added _ final proceeded value rfl
    exact proceeded.concludes.exists_report network

end DeploymentRequest

end WasmDeploy
