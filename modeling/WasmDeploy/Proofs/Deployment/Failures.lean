import WasmDeploy.Proofs.Deployment.Acceptance
import WasmDeploy.Proofs.Report

/-!
# Where the failures of a deployment come from

This file traces each failure of a deployment back to where it comes from: to a check that is made before the
endpoint is asked for anything, to a request that has failed with it, to the endpoint's refusal of the transaction,
or to the tracking of a transaction that the endpoint has accepted.
-/

namespace WasmDeploy

open Run

variable {σ α β : Type}

/-! ## Origins -/

/-- Entries that tell of no request and of no post. -/
structure Unasked (entries : List Entry) : Prop where
  requests : requestsOf entries = []
  exchanges : exchangesOf entries = []
  posts : postsOf entries = []

namespace Unasked

theorem nil : Unasked [] := ⟨rfl, rfl, rfl⟩

theorem append {first second : List Entry} (left : Unasked first) (right : Unasked second) :
    Unasked (first ++ second) where
  requests := by simp [left.requests, right.requests]
  exchanges := by simp [left.exchanges, right.exchanges]
  posts := by simp [left.posts, right.posts]

end Unasked

theorem Noted.unasked {world final : World σ} {added : List Entry} (noted : Noted world added final) :
    Unasked added where
  requests := noted.silent.requests
  exchanges := noted.silent.exchanges
  posts := by
    apply List.filterMap_eq_nil_iff.mpr
    intro entry mem
    rcases noted.areLogs entry mem with ⟨_, _, _, isLog⟩
    simp [Entry.post?, isLog]

/-- A request has failed with a failure. -/
def Raised (cause : Failure) (exchanges : List Exchange) : Prop :=
  ∃ request fault, fault.IsOf (· = cause) ∧ ⟨request, .error fault⟩ ∈ exchanges

/-- A failure is due to local input: an invalid value or an invalid configuration. -/
def FailureKind.isLocal (kind : FailureKind) : Bool :=
  kind.isValidation || kind == .configuration

/-- Where a failure comes from once the endpoint has been asked: a request has failed with it, it is the refusal of
the transaction, or tracking of an accepted transaction begins it. -/
inductive DeploymentRequest.Explains (request : DeploymentRequest) (exchanges : List Exchange)
    (cause : Failure) : Prop where
  | raised (isRaised : Raised cause exchanges)
  | rejected (message : Datum) (isCause : cause = .rejected message)
  | tracking (tracker : Tracker) {hash : Datum} (accepted : Accepted hash exchanges)
      (begins : tracker.Begins hash request.confirmations cause)

theorem DeploymentRequest.Explains.mono {request : DeploymentRequest} {cause : Failure}
    {exchanges more : List Exchange} (explains : request.Explains exchanges cause)
    (kept : exchanges ⊆ more) : request.Explains more cause := by
  cases explains with
  | raised isRaised =>
      rcases isRaised with ⟨made, fault, isCause, mem⟩
      exact .raised ⟨made, fault, isCause, kept mem⟩
  | rejected message isCause => exact .rejected message isCause
  | tracking tracker accepted begins =>
      rcases accepted with ⟨raw, mem⟩
      exact .tracking tracker ⟨raw, kept mem⟩ begins

namespace Run

/-- A failure of an operation is told of by what the operation adds to the journal. -/
def Tells (told : List Entry → Failure → Prop) (added : List Entry) (result : Except Fault α) : Prop :=
  ∀ cause network, result = .error (.failure cause network) → told added cause

theorem Tells.ok {told : List Entry → Failure → Prop} {added : List Entry} (value : α) :
    Tells told added (.ok value : Except Fault α) := by
  simp [Tells]

/-- A failure that an operation does not begin has been raised by a request. -/
theorem Yields.tells {operation : Run σ α} {world : World σ}
    {described : List Entry → Except Fault α → World σ → Prop} (begun : Failure → Prop)
    (yields : operation.Yields world described)
    (relays : ∀ cause, ¬begun cause → Relays (· = cause) operation) :
    operation.Yields world fun added result final => described added result final ∧
      Tells (fun added cause => begun cause ∨ Raised cause (exchangesOf added)) added result := by
  -- Relaying is about the failures that are not begun, so each failure is looked at on its own.
  have each (cause : Failure) : operation.Yields world fun added result _ =>
      ∀ network, result = .error (.failure cause network) →
        begun cause ∨ Raised cause (exchangesOf added) := by
    by_cases isBegun : begun cause
    · exact yields.mono fun _ _ _ _ _ _ => Or.inl isBegun
    · apply (relays cause isBegun world).mono
      rintro added _ _ relayed network rfl
      rcases relayed.origin _ rfl ⟨cause, network, rfl, rfl⟩ with ⟨request, fault, isCause, mem⟩
      exact Or.inr ⟨request, fault, isCause, mem⟩
  exact yields.and (yields_forall yields each)

end Run

/-! ## The stages -/

section

variable (client : Client σ) {world : World σ}

/-- Building fails before anything is asked, or with what a request has failed with. -/
theorem buildTransaction_tells (artifact : Bytes) (network : Network) (gasLimit gasPrice : Datum) :
    (buildTransaction client artifact network gasLimit gasPrice).Yields world fun added result _ =>
      Built artifact network gasLimit gasPrice (exchangesOf added) result ∧
        Tells (fun added cause => Unasked added ∨ Raised cause (exchangesOf added)) added result := by
  have built : (buildTransaction client artifact network gasLimit gasPrice).Yields world _ :=
    buildTransaction_yields client artifact network gasLimit gasPrice
  -- Gas that is refused is the only failure that building begins, and it is refused before the price is asked for.
  rcases isRead : readGas gasLimit gasPrice with fault | gas
  · apply built.and
    apply yields_lift_bind
    · exact fun _ _ _ _ _ => Or.inl .nil
    · intro gas isGas
      cases isRead.symm.trans isGas
  · have relays (cause : Failure) : Relays (· = cause)
        (buildTransaction client artifact network gasLimit gasPrice) := by
      apply (relaying σ (· = cause)).relates_buildTransaction (relaying_relatesClients _ client) artifact network
      rw [isRead]
      exact .ok gas
    apply (built.tells (fun _ => False) fun cause _ => relays cause).mono
    rintro added result _ ⟨isBuilt, tells⟩
    exact ⟨isBuilt, fun cause network ends => Or.inr ((tells cause network ends).resolve_left id)⟩

/-- Submitting fails with the refusal of the transaction, or with what a request has failed with. -/
theorem submit_tells {signer : Signer} {transaction : DeploymentTransaction}
    (sameChain : transaction.chainId.same signer.chainId = true) :
    (submit client signer transaction).Yields world fun added result _ =>
      Submitted signer transaction (exchangesOf added) result ∧
        Tells (fun added cause => (∃ message, cause = .rejected message) ∨
          Raised cause (exchangesOf added)) added result := by
  apply (submit_yields client signer transaction).tells _
  intro cause other
  apply (relaying σ (· = cause)).relates_submit (relaying_relatesClients _ client) sameChain
  rintro message rfl
  exact other ⟨message, rfl⟩

/-- Tracking fails with what it begins by itself, or with what a request has failed with. -/
theorem track_tells (tracker : Tracker) (pending : PendingDeployment) (confirmations : Datum) :
    (tracker.track client pending confirmations).Yields world fun added result _ =>
      Tells (fun added cause => tracker.Begins pending.txHash confirmations cause ∨
        Raised cause (exchangesOf added)) added result := by
  apply ((track_followed tracker client pending confirmations).tells _ ?_).mono
  · exact fun _ _ _ ends => ends.2
  · intro cause other
    apply (relaying σ (· = cause)).relates_track tracker _ (relaying_relatesClients _ client)
    rintro _ begins rfl
    exact other begins

end

/-! ## The whole deployment -/

namespace DeploymentRequest

variable (request : DeploymentRequest) {world : World σ}

/-- Where a failure comes from: a check before the endpoint is asked, or what explains it later. -/
def Fails (added : List Entry) (cause : Failure) : Prop :=
  Unasked added ∨ request.Explains (exchangesOf added) cause

variable {request}

theorem tells_append {first second : List Entry} {result : Except Fault α} (unasked : Unasked first)
    (tells : Tells request.Fails second result) : Tells request.Fails (first ++ second) result := by
  intro cause network ends
  rcases tells cause network ends with nothing | explains
  · exact Or.inl (unasked.append nothing)
  · exact Or.inr (explains.mono (by simp))

theorem tells_append_unasked {first second : List Entry} {result : Except Fault α}
    (tells : Tells request.Fails first result) (unasked : Unasked second) :
    Tells request.Fails (first ++ second) result := by
  intro cause network ends
  rcases tells cause network ends with nothing | explains
  · exact Or.inl (nothing.append unasked)
  · exact Or.inr (explains.mono (by simp))

/-- Once the network is selected, a deployment tells of its failures as its conversation does. -/
theorem Proceeded.tells {source : ClientSource σ} {network : Network} {final : World σ}
    {added : List Entry} {result : Except Fault TrackingResult}
    (proceeded : request.Proceeded source network
      (fun _ _ _ added result _ => Tells request.Fails added result) world added result final) :
    Tells request.Fails added result := by
  cases proceeded with
  | unsigned refused => exact fun _ _ _ => Or.inl .nil
  | conversed isSigner noted used =>
      apply tells_append noted.unasked
      cases used with
      | given isGiven tells => exact tells
      | opened isOpened tells => exact tells_append_unasked tells ⟨rfl, rfl, rfl⟩

variable (request) (source : ClientSource σ) (tracker : Option Tracker)

theorem converse_tells (artifact : Bytes) {network : Network} {signer : Signer} (client : Client σ)
    (signerChain : signer.chainId = .int network.chainId) :
    (request.converse client tracker artifact network signer).Yields world
      fun added result _ => Tells request.Fails added result := by
  apply (request.converse_course tracker artifact network signer client
    (fun begun => buildTransaction_tells client artifact network _ _)
    (fun transaction begun priced built isBuilt =>
      submit_tells client (by simp [isBuilt.1.chainId, signerChain]))
    fun tracker pending submitted => track_tells client tracker pending request.confirmations).mono
  intro added result final talked
  cases talked with
  | untracked refused => exact fun _ _ _ => Or.inl .nil
  | unbuilt noted built =>
      apply tells_append noted.unasked
      rintro cause network ⟨⟩
      exact (built.2 cause network rfl).imp_right .raised
  | unsubmitted noted isBuilt submitted =>
      apply tells_append noted.unasked
      rintro cause network ⟨⟩
      apply Or.inr
      rcases submitted.2 cause network rfl with ⟨message, isCause⟩ | raised
      · exact .rejected message isCause
      · exact Explains.mono (.raised raised) (by simp)
  | @tracked _ _ _ _ _ _ _ _ _ _ pending tracker _ noted isBuilt isSubmitted tells =>
      apply tells_append noted.unasked
      rcases isSubmitted.1.complete with ⟨nonce, raw, exchanged⟩
      intro cause network ends
      apply Or.inr
      rcases tells cause network ends with begins | raised
      · exact .tracking tracker ⟨raw, by simp [exchanged]⟩ begins
      · exact Explains.mono (.raised raised) (by simp)

/-- Every failure of a deployment comes from a check before the endpoint is asked for anything, or is explained by
the conversation with the endpoint. -/
theorem deploy_tells :
    (request.deploy source tracker).Yields world fun added result _ =>
      Tells request.Fails added result := by
  apply (request.deploy_course source tracker fun artifact network signer isSigner client seen =>
    request.converse_tells tracker artifact client (ofKey_eq_ok isSigner).2).mono
  intro added result final deployed
  cases deployed with
  | unread refused => exact fun _ _ _ => Or.inl .nil
  | unselected isRead noted refused => exact fun _ _ _ => Or.inl noted.unasked
  | @failed _ network _ _ _ _ fault isRead noted isSelected proceeded =>
      apply tells_append noted.unasked
      intro cause known ends
      rcases Fault.of_onNetwork (Except.error.inj ends) with ⟨_, before, rfl⟩
      exact proceeded.tells cause before rfl
  | unreported isRead noted isSelected proceeded refused =>
      rintro cause known ⟨⟩
      exact absurd refused ((onlyDefects_ofResult _ _).ne_failure cause known)
  | reported isRead noted isSelected proceeded isReport announced => exact .ok _

/-! ## Bad local input -/

/-- Bad local input is found before the endpoint is asked for anything, but for a count of confirmations below
zero, which is found only once the endpoint has accepted the transaction. A client of the caller's own may fail
with such a failure at any time. -/
theorem deploy_checksFirst :
    (request.deploy source tracker).Yields world fun added result _ =>
      ∀ cause network, result = .error (.failure cause network) → cause.kind.isLocal = true →
        (∀ raised, Raised raised (exchangesOf added) → raised.kind.isLocal = false) →
          Unasked added ∨
            cause = .confirmationsNegative request.confirmations ∧
              request.confirmations.compare? (.int 0) = some .lt ∧
              ∃ hash, Accepted hash (exchangesOf added) := by
  apply (request.deploy_tells source tracker).mono
  intro added result final tells cause network ends isLocal notRaised
  rcases tells cause network ends with unasked | explains
  · exact Or.inl unasked
  apply Or.inr
  cases explains with
  | raised isRaised => simp [notRaised cause isRaised] at isLocal
  | rejected message isCause =>
      subst isCause
      cases isLocal
  | tracking _ accepted begins =>
      cases begins with
      | negative isNegative => exact ⟨rfl, isNegative, _, accepted⟩
      | cancelled => cases isLocal
      | timedOut => cases isLocal

/-- A deployment that is otherwise in order is submitted before its count of confirmations is found to be below
zero. -/
theorem deploy_negative {holds : World σ → Prop} {client : Client σ} {artifact : Bytes}
    {network : Network} {key : Nat} {started : Tracker} (stable : Stable holds)
    (accepts : client.Accepts holds) (held : holds world)
    (inOrder : request.InOrder world.files artifact network key started tracker)
    (isNegative : request.confirmations.compare? (.int 0) = some .lt)
    (isShowable : request.confirmations.isShowable = true) :
    (request.deploy (.given client) tracker).Yields world fun added result _ =>
      EndsAccepted (· = .confirmationsNegative request.confirmations) added result := by
  apply deploy_accepted stable accepts held _ inOrder
  intro pending middle _
  apply (started.track_yields_negative client pending isNegative isShowable).mono
  rintro _ _ _ rfl
  exact ⟨_, _, rfl, rfl⟩

/-- Bad local input can be found as late as that with a client that never fails. -/
theorem exists_checkedLate :
    (∀ request state, ∃ reply, (pendingAnswer request state).1 = .ok reply) ∧
      ((localRequest (-1)).deploy (.given (.direct pendingAnswer)) none).Yields (localWorld false)
        fun added result _ => ¬Unasked added ∧ ∃ cause network,
          result = .error (.failure cause network) ∧ cause.kind.isLocal = true := by
  constructor
  · intro request state
    cases request <;> exact ⟨_, rfl⟩
  · have within : (localWorld false).IsWithin (localWorld false).toSurroundings := ⟨rfl, 0, rfl⟩
    apply (deploy_negative _ _ (World.stable_isWithin _) (accepts_pendingAnswer passes_local) within
      (inOrder_localRequest (-1) false) rfl (by decide +kernel)).mono
    rintro added _ final ⟨⟨hash, raw, mem⟩, cause, network, rfl, rfl⟩
    refine ⟨fun unasked => ?_, _, _, rfl, rfl⟩
    rw [unasked.exchanges] at mem
    cases mem

/-! ## The hash of an accepted transaction -/

/-- A report without a failure tells of a deployment that was mined. -/
theorem deploy_ensures_status :
    (request.deploy source tracker).Ensures fun report =>
      report.status = .success ∨ report.status = .reverted := by
  apply ensures_bind
  intro artifact
  apply ensures_bind
  intro network
  apply ensures_bind
  intro result
  apply ensures_lift_bind
  intro report isReport
  have mined : report.status = .success ∨ report.status = .reverted := by
    simp only [Report.ofResult] at isReport
    split at isReport
    · cases isReport
    · next status isStatus =>
      cases isReport
      cases state : result.state <;> simp [Report.statusOf?, state] at isStatus <;>
        simp [← isStatus]
  apply ensures_bind
  rintro _ world _ ⟨⟩
  exact mined

end DeploymentRequest

/-- What is counted at most once is the same wherever it is found. -/
theorem eq_of_countP_le_one {items : List α} {counts : α → Bool} (once : items.countP counts ≤ 1)
    {item other : α} (mem : item ∈ items) (otherMem : other ∈ items) (counted : counts item = true)
    (otherCounted : counts other = true) : item = other := by
  rw [List.countP_eq_length_filter] at once
  have inFilter := List.mem_filter.mpr ⟨mem, counted⟩
  have otherInFilter := List.mem_filter.mpr ⟨otherMem, otherCounted⟩
  generalize items.filter counts = filtered at once inFilter otherInFilter
  match filtered with
  | [] => cases inFilter
  | [only] => rw [List.mem_singleton.mp inFilter, List.mem_singleton.mp otherInFilter]
  | _ :: _ :: _ => simp at once

/-- At most one hash is that of an accepted transaction. -/
theorem Staged.accepted_unique {request : DeploymentRequest} {files : FileTree File}
    {exchanges : List Exchange} (staged : Staged request files exchanges) {hash other : Datum}
    (accepted : Accepted hash exchanges) (otherAccepted : Accepted other exchanges) :
    hash = other := by
  rcases accepted with ⟨raw, mem⟩
  rcases otherAccepted with ⟨otherRaw, otherMem⟩
  cases staged with
  | unopened => cases mem
  | opened _ _ _ conversed =>
      rcases conversed.begins with ⟨_, _, _, _, begins⟩
      have once := sendsOnce_of_begins begins
      rw [List.countP_map] at once
      cases eq_of_countP_le_one once mem otherMem rfl rfl
      rfl

namespace DeploymentRequest

/-- A timeout that no request has failed with is that of the accepted transaction. -/
theorem Fails.hash_eq {request : DeploymentRequest} {files : FileTree File} {added : List Entry}
    {hash other : Datum} {timeout : Measure} {receipt : Option Receipt}
    (fails : request.Fails added (.timedOut other timeout receipt))
    (staged : Staged request files (exchangesOf added)) (accepted : Accepted hash (exchangesOf added))
    (notRaised : ∀ raised, Raised raised (exchangesOf added) → raised.kind ≠ .timedOut) :
    other = hash := by
  rcases fails with unasked | explains
  · rcases accepted with ⟨raw, mem⟩
    rw [unasked.exchanges] at mem
    cases mem
  cases explains with
  | raised isRaised => exact absurd rfl (notRaised _ isRaised)
  | rejected message isCause => cases isCause
  | tracking tracker accepts begins =>
      cases begins
      exact staged.accepted_unique accepts accepted

variable (request : DeploymentRequest) (source : ClientSource σ) (tracker : Option Tracker)
  {world : World σ}

/-- A report on a deployment that timed out keeps the hash of the accepted transaction, unless a request has failed
with a timeout of its own. Every other report on a failure has lost it. -/
theorem deployAndReport_hash :
    (request.deployAndReport source tracker).Yields world fun added result _ =>
      ∀ report hash, result = .ok report → Accepted hash (exchangesOf added) →
        (report.status = .failed → report.txHash = .null) ∧
        (report.status = .timedOut →
          (∀ raised, Raised raised (exchangesOf added) → raised.kind ≠ .timedOut) →
            report.txHash = hash) := by
  apply yields_tryCatch
  apply (((request.deploy_tells source tracker).and (request.deploy_staged source tracker)).and_ensures
    (request.deploy_ensures_status source tracker)).mono
  rintro added (fault | report) final ⟨⟨tells, staged⟩, isMined⟩
  · rcases fault with ⟨cause, network⟩ | defect | _
    · apply yields_record_bind
      apply yields_pure
      rintro report hash ⟨⟩ accepted
      simp only [exchangesOf_append, exchangesOf_log, exchangesOf_nil, List.append_nil] at accepted ⊢
      rcases Report.ofFailure_cases network cause with
        ⟨isFailed, noHash⟩ | ⟨other, _, _, rfl, isTimedOut, isHash⟩
      · exact ⟨fun _ => noHash, by simp [isFailed]⟩
      · refine ⟨by simp [isTimedOut], fun _ notRaised => ?_⟩
        rw [isHash]
        exact Fails.hash_eq (tells _ network rfl) staged accepted notRaised
    · exact yields_throw (by simp)
    · exact yields_throw (by simp)
  · rintro _ hash ⟨⟩ _
    rcases isMined report rfl with isSuccess | isReverted
    · simp [isSuccess]
    · simp [isReverted]

/-- The hash of an accepted transaction can be lost: cancelling is enough for it. -/
theorem exists_hashLost :
    ((localRequest 0).deployAndReport (.given (.direct pendingAnswer)) none).Yields (localWorld true)
      fun added result _ => ∃ report hash, result = .ok report ∧ report.status = .failed ∧
        Accepted hash (exchangesOf added) ∧ report.txHash ≠ hash := by
  have within : (localWorld true).IsWithin (localWorld true).toSurroundings := ⟨rfl, 0, rfl⟩
  have ends : ((localRequest 0).deploy (.given (.direct pendingAnswer)) none).Yields (localWorld true)
      fun added result _ => EndsAccepted (fun cause => ∃ hash, cause = .cancelled hash) added result := by
    apply deploy_accepted (World.stable_isWithin _) (accepts_pendingAnswer passes_local) within _
      (inOrder_localRequest 0 true)
    intro pending middle within
    apply (track_yields_local (.direct pendingAnswer) pending within).mono
    rintro _ _ _ rfl
    exact ⟨_, _, rfl, _, rfl⟩
  apply yields_tryCatch
  apply ends.mono
  rintro added _ final ⟨⟨hash, raw, mem⟩, _, network, rfl, _, rfl⟩
  apply yields_record_bind
  apply yields_pure
  exact ⟨_, .text hash, rfl, rfl, ⟨raw, by simp [mem]⟩, nofun⟩

end DeploymentRequest

end WasmDeploy
