import WasmDeploy.Proofs.Congruence
import WasmDeploy.Proofs.Deployment.Defects
import WasmDeploy.Proofs.Deployment.Submission
import WasmDeploy.Proofs.Exact
import WasmDeploy.Proofs.Tracker.Walk

/-!
# Going through the stages of a deployment

This file goes through the stages of a deployment once for every relation that composing keeps: if making a request
of one client is related to making it of another, then so is each stage with the one client to the same stage with
the other. What a stage has to know of the relation is only which failures it may not begin, so each stage says
which ones it does begin.
-/

namespace WasmDeploy

/-- The failures that tracking begins by itself: with a count of confirmations below zero, once cancelling has been
asked for, and at the deadline. -/
inductive Tracker.Begins (tracker : Tracker) (hash confirmations : Datum) : Failure → Prop where
  | negative (isNegative : confirmations.compare? (.int 0) = some .lt) :
      Begins tracker hash confirmations (.confirmationsNegative confirmations)
  | cancelled : Begins tracker hash confirmations (.cancelled hash)
  | timedOut (known : Option Receipt) :
      Begins tracker hash confirmations (.timedOut hash tracker.timeout known)

/-- A deployment begins no failure of a kind: neither does one of its checks, nor does tracking, nor does it count
as one that the endpoint refuses the transaction. -/
structure DeploymentRequest.NeverBegins (request : DeploymentRequest) (kind : Failure → Prop) :
    Prop where
  content : ∀ files, Avoids kind (Artifact.content files request.wasmFile)
  select : Avoids kind
    (Network.select request.localNode request.development request.rpcUrl request.chainId)
  readKey : Avoids kind (Signer.readKey request.privateKey)
  ofSettings : Avoids kind (Tracker.ofSettings request.timeout request.pollInterval)
  readGas : Avoids kind (readGas request.gasLimit request.gasPrice)
  rejected : ∀ message, ¬kind (.rejected message)
  tracking : ∀ (tracker : Tracker) hash cause,
    tracker.Begins hash request.confirmations cause → ¬kind cause

/-- A count of confirmations is refused if it is below zero or no number. -/
theorem Tracker.avoids_checkConfirmations {kind : Failure → Prop} {value : Datum}
    (foreign : value.compare? (.int 0) = some .lt → ¬kind (.confirmationsNegative value)) :
    Avoids kind (checkConfirmations value) := by
  apply Avoids.bind (.of_onlyDefects (Datum.onlyDefects_order _ _ _))
  intro order compared
  split
  · next isNegative =>
    apply Avoids.refuse
    apply foreign
    rw [← isNegative]
    cases value <;> simp_all [Datum.order, Datum.compare?, Datum.number?, Datum.integer?, reject]
  · exact .pure ()

/-- Past its deadline, tracking begins no failure but that it has timed out. -/
theorem Tracker.not_isOf_overdue {kind : Failure → Prop} {tracker : Tracker} {pending : PendingDeployment}
    {known : Option Receipt} (foreign : ¬kind (.timedOut pending.txHash tracker.timeout known)) :
    ¬(tracker.overdue pending known).IsOf kind := by
  rcases tracker.overdue_cases pending known with ends | ⟨cause, ends⟩
  · rw [ends]
    exact Fault.not_isOf_of foreign
  · rw [ends]
    rintro ⟨_, _, ⟨⟩, _⟩

namespace Run.Congruence

variable {σ α β : Type} {kind : Failure → Prop} (congruence : Congruence σ kind)

/-- Making a request of one client is related to making it of another. -/
def RelatesClients (client client' : Client σ) : Prop :=
  ∀ request, congruence.related (client.ask request) (client'.ask request)

/-- Using the client of one source is related to using the client of another. -/
def RelatesSources (source source' : ClientSource σ) (network : Network) : Prop :=
  ∀ operation : Client σ → Run σ TrackingResult,
    (∀ client client', congruence.RelatesClients client client' →
      congruence.related (operation client) (operation client')) →
    congruence.related (source.use network operation) (source'.use network operation)

/-! ## Tracking -/

section

variable (tracker : Tracker) {client client' : Client σ} {pending : PendingDeployment}
  (deadline : Measure)

theorem relates_checkCancelled (foreign : ¬kind (.cancelled pending.txHash)) :
    congruence.related (Tracker.checkCancelled pending) (Tracker.checkCancelled pending) := by
  apply congruence.get_bind
  intro world other alike
  rw [alike.isCancelled]
  split
  · exact congruence.throw (Fault.not_isOf_of foreign)
  · exact congruence.pure ()

theorem relates_timeAfter (duration : Measure) :
    congruence.related (Run.timeAfter duration) (Run.timeAfter duration) := by
  apply congruence.get_bind
  intro world other alike
  rw [alike.now]
  exact congruence.lift (.of_onlyDefects (onlyDefects_showable _))

theorem relates_sleep (duration : Measure) :
    congruence.related (Run.sleep duration) (Run.sleep duration) := by
  apply congruence.bind (congruence.relates_timeAfter duration)
  intro finish
  apply congruence.bind (congruence.recordSleep duration)
  intro _
  exact congruence.modify (unposted_afterSleep finish)

theorem relates_pause {known : Option Receipt}
    (foreign : ¬kind (.timedOut pending.txHash tracker.timeout known)) :
    congruence.related (tracker.pause pending deadline known)
      (tracker.pause pending deadline known) := by
  apply congruence.get_bind
  intro world other alike
  rw [alike.now]
  dsimp only
  split
  · apply congruence.bind (congruence.enter _)
    intro _
    exact congruence.throw (Tracker.not_isOf_overdue foreign)
  · exact congruence.relates_sleep _

variable {confirmations : Datum}
  (foreign : ∀ cause, tracker.Begins pending.txHash confirmations cause → ¬kind cause)

include foreign

theorem relatesParts (asks : congruence.RelatesClients client client') :
    congruence.composition.RelatesParts tracker tracker client client' pending deadline deadline where
  checks := congruence.relates_checkCancelled (foreign _ .cancelled)
  asks := asks
  pauses known := congruence.relates_pause tracker deadline (foreign _ (.timedOut known))

theorem relates_track (asks : congruence.RelatesClients client client') :
    congruence.related (tracker.track client pending confirmations)
      (tracker.track client' pending confirmations) := by
  apply congruence.bind
    (congruence.lift (Tracker.avoids_checkConfirmations fun negative => foreign _ (.negative negative)))
  intro _
  apply congruence.bind (congruence.enter _)
  intro _
  apply congruence.bind (congruence.relates_timeAfter _)
  intro deadline
  exact (congruence.relatesParts tracker deadline foreign asks).follow confirmations

end

/-! ## Building and submitting -/

section

variable {client client' : Client σ}

theorem relates_settleGasPrice (asks : congruence.RelatesClients client client') (network : Network)
    (price : Int) :
    congruence.related (settleGasPrice client network price)
      (settleGasPrice client' network price) := by
  simp only [settleGasPrice]
  split
  · apply congruence.bind (congruence.log _ _ _)
    intro _
    apply congruence.bind (asks .gasPrice)
    intro price
    apply congruence.bind (congruence.log _ _ _)
    intro _
    exact congruence.pure _
  · apply congruence.bind (congruence.log _ _ _)
    intro _
    exact congruence.pure _

theorem relates_buildTransaction (asks : congruence.RelatesClients client client')
    (artifact : Bytes) (network : Network) {gasLimit gasPrice : Datum}
    (avoids : Avoids kind (readGas gasLimit gasPrice)) :
    congruence.related (buildTransaction client artifact network gasLimit gasPrice)
      (buildTransaction client' artifact network gasLimit gasPrice) := by
  apply congruence.bind (congruence.lift avoids)
  rintro ⟨limit, price⟩
  apply congruence.bind (congruence.relates_settleGasPrice asks network price)
  intro price
  exact congruence.pure _

/-- A refusal becomes a failure of its own, and nothing else does. -/
theorem relates_send (asks : congruence.RelatesClients client client') (raw : Bytes)
    (foreign : ∀ message, ¬kind (.rejected message)) :
    congruence.related (send client raw) (send client' raw) := by
  apply congruence.tryCatch (asks _)
  rintro fault ⟨cause, network, renamed, isKind⟩
  simp only [refusal] at renamed
  split at renamed
  · cases renamed
    exact absurd isKind (foreign _)
  · exact ⟨cause, network, renamed, isKind⟩

theorem relates_submit (asks : congruence.RelatesClients client client') {signer : Signer}
    {transaction : DeploymentTransaction}
    (sameChain : transaction.chainId.same signer.chainId = true)
    (foreign : ∀ message, ¬kind (.rejected message)) :
    congruence.related (submit client signer transaction) (submit client' signer transaction) := by
  apply congruence.bind (asks _)
  intro nonce
  apply congruence.bind (congruence.lift (.of_onlyDefects (onlyDefects_sign sameChain)))
  intro signed
  apply congruence.bind (congruence.log _ _ _)
  intro _
  apply congruence.bind (congruence.relates_send asks signed.raw foreign)
  intro hash
  apply congruence.bind (congruence.lift (.of_onlyDefects (onlyDefects_confirms _ _)))
  intro isExpected
  apply congruence.bind
  · simp only [warnOfHash]
    split
    · exact congruence.pure ()
    · exact congruence.log _ _ _
  intro _
  apply congruence.bind (congruence.log _ _ _)
  intro _
  exact congruence.pure _

end

/-! ## The whole deployment -/

theorem relates_onNetwork {network : Network} {operation operation' : Run σ α}
    (relates : congruence.related operation operation') :
    congruence.related (onNetwork network operation) (onNetwork network operation') := by
  apply congruence.tryCatch relates
  rintro (⟨cause, _⟩ | cause | _) ⟨_, _, ⟨⟩, isKind⟩
  exact ⟨cause, _, rfl, isKind⟩

section

variable (request : DeploymentRequest) {source source' : ClientSource σ} {client client' : Client σ}
  (tracker : Option Tracker)

theorem relates_startTracker
    (avoids : Avoids kind (Tracker.ofSettings request.timeout request.pollInterval)) :
    congruence.related (request.startTracker tracker) (request.startTracker tracker) := by
  cases tracker with
  | some tracker => exact congruence.pure tracker
  | none =>
      apply congruence.bind (congruence.lift avoids)
      intro tracker
      apply congruence.bind (congruence.enter _)
      intro _
      exact congruence.pure tracker

theorem relates_announce (network : Network) (signer : Signer) :
    congruence.related (request.announce network signer) (request.announce network signer) := by
  simp only [DeploymentRequest.announce]
  generalize Text.lines _ = lines
  induction lines with
  | nil => exact congruence.pure ()
  | cons line lines ih =>
      apply congruence.bind (congruence.log _ _ _)
      intro _
      exact ih

variable {request} (foreign : request.NeverBegins kind)

include foreign

theorem relates_converse (asks : congruence.RelatesClients client client') (artifact : Bytes)
    {network : Network} {signer : Signer} (signerChain : signer.chainId = .int network.chainId) :
    congruence.related (request.converse client tracker artifact network signer)
      (request.converse client' tracker artifact network signer) := by
  apply congruence.bind (congruence.relates_startTracker request tracker foreign.ofSettings)
  intro tracker
  apply congruence.bind (congruence.log _ _ _)
  intro _
  -- The signer refuses transactions for other chains, so submitting has to know what building ensures.
  apply congruence.bind_of_ensures fun transaction => transaction.chainId = .int network.chainId
  · exact congruence.relates_buildTransaction asks artifact network foreign.readGas
  · intro world transaction ends
    rcases buildTransaction_yields client artifact network _ _ with ⟨added, _, built⟩
    rw [ends] at built
    exact built.chainId
  intro transaction transactionChain
  apply congruence.bind
  · exact congruence.relates_submit asks (by simp [transactionChain, signerChain]) foreign.rejected
  intro pending
  exact congruence.relates_track tracker (foreign.tracking tracker pending.txHash) asks

theorem relates_proceed {network : Network} (uses : congruence.RelatesSources source source' network)
    (artifact : Bytes) :
    congruence.related (request.proceed source tracker artifact network)
      (request.proceed source' tracker artifact network) := by
  apply congruence.lift_bind (.bind foreign.readKey fun _ _ => .pure _)
  intro signer isSigner
  apply congruence.bind (congruence.relates_announce request network signer)
  intro _
  apply uses
  intro client client' asks
  exact congruence.relates_converse tracker foreign asks artifact (ofKey_eq_ok isSigner).2

/-- Each stage of a deployment is related to itself with another client, and so is the whole. -/
theorem relates_deploy (uses : ∀ network, Network.select request.localNode request.development
      request.rpcUrl request.chainId = .ok network →
        congruence.RelatesSources source source' network) :
    congruence.related (request.deploy source tracker) (request.deploy source' tracker) := by
  apply congruence.bind
  · apply congruence.get_bind
    intro world other alike
    rw [alike.surroundings]
    apply congruence.bind (congruence.lift (foreign.content _))
    intro artifact
    apply congruence.bind (congruence.log _ _ _)
    intro _
    exact congruence.pure artifact
  intro artifact
  apply congruence.lift_bind foreign.select
  intro network isSelected
  apply congruence.bind (congruence.relates_onNetwork
    (congruence.relates_proceed tracker foreign (uses network isSelected) artifact))
  intro result
  apply congruence.bind (congruence.lift (.of_onlyDefects (onlyDefects_ofResult network result)))
  intro report
  apply congruence.bind
  · simp only [DeploymentRequest.announceContract]
    split
    · exact congruence.log _ _ _
    · exact congruence.pure ()
  intro _
  exact congruence.pure report

end

end Run.Congruence

end WasmDeploy
