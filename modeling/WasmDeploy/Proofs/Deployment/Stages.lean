import WasmDeploy.Proofs.Deployment.Course
import WasmDeploy.Proofs.Deployment.Submission
import WasmDeploy.Proofs.Tracker.Track

/-!
# What a deployment can ask

This file says once which conversations with the endpoint a deployment can have: nothing is asked before the
artifact is read, the network selected and the key accepted, and from then on each stage adds its own part. A
property of all conversations is derived by going through these cases.
-/

namespace WasmDeploy

open Run

variable {σ α : Type} {world : World σ}

/-- Tracking asks for one receipt over and over and then for the height of the chain, the latter only if
confirmations are wanted and the first receipt with a block number is successful. -/
structure Followed (hash confirmations : Datum) (receipts heights : List Exchange) : Prop where
  receiptsOnly : ∀ exchange ∈ receipts, exchange.request = .transactionReceipt hash
  heightsOnly : ∀ exchange ∈ heights, exchange.request = .blockNumber
  wanted : heights ≠ [] → confirmations.isPositive = true ∧
    ∃ receipt, firstMined receipts = some receipt ∧ receipt.succeeded = true

theorem Followed.requests {hash confirmations : Datum} {receipts heights : List Exchange}
    (followed : Followed hash confirmations receipts heights) :
    (receipts ++ heights).map Exchange.request =
      List.replicate receipts.length (.transactionReceipt hash) ++
        List.replicate heights.length .blockNumber := by
  have receiptRequests : receipts.map Exchange.request =
      List.replicate receipts.length (.transactionReceipt hash) := by
    rw [List.eq_replicate_iff]
    simpa using followed.receiptsOnly
  have heightRequests : heights.map Exchange.request =
      List.replicate heights.length .blockNumber := by
    rw [List.eq_replicate_iff]
    simpa using followed.heightsOnly
  rw [List.map_append, receiptRequests, heightRequests]

/-- After the first receipt with a block number only the height is asked for, and only if confirmations are wanted
and the receipt is successful. -/
theorem Tracker.Concluded.heights {pending : PendingDeployment} {confirmations : Datum}
    {receipt : Receipt} {depthPhase : World σ → List Entry → Except Fault Datum → World σ → Prop}
    (heightsOnly : ∀ seen polled result final, depthPhase seen polled result final →
      ∀ exchange ∈ exchangesOf polled, exchange.request = .blockNumber)
    {added : List Entry} {result : Except Fault TrackingResult} {final : World σ}
    (concluded : Concluded pending confirmations receipt depthPhase world added result final) :
    (∀ exchange ∈ exchangesOf added, exchange.request = .blockNumber) ∧
      (exchangesOf added ≠ [] → confirmations.isPositive = true ∧ receipt.succeeded = true) := by
  cases concluded with
  | untold isReverted noted incomparable other => simp [noted.silent.exchanges]
  | reverted isReverted noted told warned =>
      simp [noted.silent.exchanges, warned.silent.exchanges]
  | confirmedAtOnce isSuccess unwanted noted => simp [noted.silent.exchanges]
  | unconfirmed isSuccess wanted noted phase =>
      simp only [exchangesOf_append, noted.silent.exchanges, List.nil_append]
      exact ⟨heightsOnly _ _ _ _ phase, fun _ => ⟨wanted, isSuccess⟩⟩
  | confirmed isSuccess wanted noted phase =>
      simp only [exchangesOf_append, noted.silent.exchanges, List.nil_append]
      exact ⟨heightsOnly _ _ _ _ phase, fun _ => ⟨wanted, isSuccess⟩⟩

theorem track_followed (tracker : Tracker) (client : Client σ) (pending : PendingDeployment)
    (confirmations : Datum) :
    (tracker.track client pending confirmations).Yields world fun added _ _ =>
      ∃ receipts heights, exchangesOf added = receipts ++ heights ∧
        Followed pending.txHash confirmations receipts heights := by
  apply (tracker.track_phases client pending confirmations world).mono
  intro added result final tracked
  cases tracked with
  | refused invalid => exact ⟨[], [], rfl, by simp, by simp, by simp⟩
  | unlimited valid => exact ⟨[], [], rfl, by simp, by simp, by simp⟩
  | @unmined _ _ polled _ _ _ valid due noted phase =>
      refine ⟨exchangesOf polled, [], ?_, phase.1.polling.exchanges, by simp, by simp⟩
      simp [noted.silent.exchanges]
  | @mined _ _ polled rest _ _ _ receipt _ valid due noted phase concluded =>
      have heights := concluded.heights fun _ _ _ _ phase => phase.polling.exchanges
      refine ⟨exchangesOf polled, exchangesOf rest, ?_, phase.1.polling.exchanges, heights.1, ?_⟩
      · simp [noted.silent.exchanges]
      · intro asked
        rcases heights.2 asked with ⟨wanted, isSuccess⟩
        exact ⟨wanted, receipt, phase.2, isSuccess⟩

/-- The conversations of a deployment with an accepted key: they end with the build, with the submission, or with
tracking. -/
inductive Conversed (request : DeploymentRequest) (artifact : Bytes) (network : Network)
    (signer : Signer) : List Exchange → Prop where
  | unbuilt {priced : List Exchange} {fault : Fault}
      (built : Built artifact network request.gasLimit request.gasPrice priced (.error fault)) :
      Conversed request artifact network signer priced
  | unsubmitted {priced sent : List Exchange} {transaction : DeploymentTransaction} {fault : Fault}
      (built : Built artifact network request.gasLimit request.gasPrice priced (.ok transaction))
      (submitted : Submitted signer transaction sent (.error fault)) :
      Conversed request artifact network signer (priced ++ sent)
  | tracked {priced sent receipts heights : List Exchange} {transaction : DeploymentTransaction}
      {pending : PendingDeployment}
      (built : Built artifact network request.gasLimit request.gasPrice priced (.ok transaction))
      (submitted : Submitted signer transaction sent (.ok pending))
      (followed : Followed pending.txHash request.confirmations receipts heights) :
      Conversed request artifact network signer (priced ++ (sent ++ (receipts ++ heights)))

/-- The conversations of a deployment among some files: none at all, or one about the artifact, the network and
the signer that the request names. -/
inductive Staged (request : DeploymentRequest) (files : FileTree File) : List Exchange → Prop where
  | unopened : Staged request files []
  | opened {artifact : Bytes} {network : Network} {signer : Signer} {exchanges : List Exchange}
      (isRead : Artifact.content files request.wasmFile = .ok artifact)
      (isSelected : Network.select request.localNode request.development request.rpcUrl
        request.chainId = .ok network)
      (isSigner : Signer.ofKey request.privateKey (.int network.chainId) = .ok signer)
      (conversed : Conversed request artifact network signer exchanges) :
      Staged request files exchanges

namespace DeploymentRequest

variable (request : DeploymentRequest) (source : ClientSource σ) (tracker : Option Tracker)

theorem converse_yields (artifact : Bytes) (network : Network) (signer : Signer)
    (client : Client σ) :
    (request.converse client tracker artifact network signer).Yields world fun added _ _ =>
      exchangesOf added = [] ∨ Conversed request artifact network signer (exchangesOf added) := by
  apply (request.converse_course tracker artifact network signer client
    (fun begun => buildTransaction_yields client artifact network _ _)
    (fun transaction begun priced built _ => submit_yields client signer transaction)
    fun tracker pending submitted =>
      track_followed tracker client pending request.confirmations).mono
  intro added result final talked
  cases talked with
  | untracked refused => exact Or.inl rfl
  | unbuilt noted built => simpa [noted.silent.exchanges] using Or.inr (Conversed.unbuilt built)
  | unsubmitted noted isBuilt submitted =>
      simpa [noted.silent.exchanges] using Or.inr (Conversed.unsubmitted isBuilt submitted)
  | tracked noted isBuilt isSubmitted isTracked =>
      rcases isTracked with ⟨receipts, heights, exchanged, followed⟩
      simpa [noted.silent.exchanges, exchanged] using
        Or.inr (Conversed.tracked isBuilt isSubmitted followed)

/-- Once the network is selected, a deployment has no conversation but those of its stages. -/
theorem Proceeded.staged {request : DeploymentRequest} {source : ClientSource σ} {network : Network}
    {artifact : Bytes} {files : FileTree File} {seen final : World σ} {added : List Entry}
    {result : Except Fault TrackingResult}
    (isRead : Artifact.content files request.wasmFile = .ok artifact)
    (isSelected : Network.select request.localNode request.development request.rpcUrl
      request.chainId = .ok network)
    (proceeded : request.Proceeded source network (fun signer _ _ added _ _ =>
      exchangesOf added = [] ∨ Conversed request artifact network signer (exchangesOf added))
      seen added result final) : Staged request files (exchangesOf added) := by
  rcases proceeded.cases_exchanges with ⟨_, _, nothing⟩ | ⟨signer, _, _, talk, _, isSigner, talked, same⟩
  · rw [nothing]
    exact Staged.unopened
  · rw [same]
    rcases talked with nothing | conversed
    · rw [nothing]
      exact Staged.unopened
    · exact Staged.opened isRead isSelected isSigner conversed

/-- A deployment has one of the conversations of its stages. -/
theorem deploy_staged :
    (request.deploy source tracker).Yields world fun added _ _ =>
      Staged request world.files (exchangesOf added) := by
  apply (request.deploy_course source tracker fun artifact network signer _ client seen =>
    request.converse_yields tracker artifact network signer client).mono
  intro added result final deployed
  cases deployed with
  | unread refused => exact Staged.unopened
  | unselected isRead noted refused => simpa [noted.silent.exchanges] using Staged.unopened
  | failed isRead noted isSelected proceeded =>
      simpa [noted.silent.exchanges] using proceeded.staged isRead isSelected
  | unreported isRead noted isSelected proceeded refused =>
      simpa [noted.silent.exchanges] using proceeded.staged isRead isSelected
  | reported isRead noted isSelected proceeded isReport announced =>
      simpa [noted.silent.exchanges, announced.silent.exchanges] using
        proceeded.staged isRead isSelected

end DeploymentRequest

end WasmDeploy
