import WasmDeploy.Deployment
import WasmDeploy.Proofs.Tracker.Poll

/-!
# The course of a deployment

A deployment reads the artifact, selects the network and accepts the key before it talks to the endpoint, and it
makes its report afterwards. The conversation itself builds a transaction, submits it and tracks it. This file says
once which courses the two can take, given descriptions of their parts. A property of deployments is derived from one
of the parts by going through these courses.
-/

namespace WasmDeploy

open Run

variable {σ α : Type}

/-- What using the client of a source can do, by what the use itself can do. A client that is opened for the use is
closed after it, whatever its end. -/
inductive ClientSource.Used (source : ClientSource σ) (network : Network)
    (use : Client σ → World σ → List Entry → Except Fault α → World σ → Prop) (world : World σ) :
    List Entry → Except Fault α → World σ → Prop where
  | given {client : Client σ} {added : List Entry} {result : Except Fault α} {final : World σ}
      (isGiven : source = .given client) (used : use client world added result final) :
      Used source network use world added result final
  | opened {connect : String → HttpEndpoint σ} {added : List Entry} {result : Except Fault α}
      {final : World σ} (isOpened : source = .opened connect)
      (used : use (.http (connect network.endpoint.shown)) world added result final) :
      Used source network use world (added ++ [⟨final.now, final.tracking, .close⟩]) result
        (final.record .close)

/-- Using a client makes no requests but those of the use itself. -/
theorem ClientSource.Used.exists_use {source : ClientSource σ} {network : Network}
    {use : Client σ → World σ → List Entry → Except Fault α → World σ → Prop} {world final : World σ}
    {added : List Entry} {result : Except Fault α}
    (used : source.Used network use world added result final) :
    ∃ client talk middle, use client world talk result middle ∧
      exchangesOf added = exchangesOf talk := by
  cases used with
  | given isGiven used => exact ⟨_, added, _, used, rfl⟩
  | @opened connect talk _ middle isOpened used =>
      have silent : exchangesOf [⟨middle.now, middle.tracking, .close⟩] = [] := rfl
      exact ⟨_, talk, middle, used, by simp [silent]⟩

namespace DeploymentRequest

/-- The courses of a conversation: it ends without a tracker, with building, with submitting, or with tracking. -/
inductive Talked (request : DeploymentRequest)
    (builds : World σ → List Entry → Except Fault DeploymentTransaction → World σ → Prop)
    (submits : DeploymentTransaction → World σ → List Entry → Except Fault PendingDeployment →
      World σ → Prop)
    (tracks : Tracker → PendingDeployment → World σ → List Entry → Except Fault TrackingResult →
      World σ → Prop) :
    List Entry → Except Fault TrackingResult → World σ → Prop where
  | untracked {final : World σ} {fault : Fault}
      (refused : Tracker.ofSettings request.timeout request.pollInterval = .error fault) :
      Talked request builds submits tracks [] (.error fault) final
  | unbuilt {started begun final : World σ} {notes priced : List Entry} {fault : Fault}
      (noted : Noted started notes begun) (built : builds begun priced (.error fault) final) :
      Talked request builds submits tracks (notes ++ priced) (.error fault) final
  | unsubmitted {started begun built final : World σ} {notes priced sent : List Entry}
      {transaction : DeploymentTransaction} {fault : Fault} (noted : Noted started notes begun)
      (isBuilt : builds begun priced (.ok transaction) built)
      (submitted : submits transaction built sent (.error fault) final) :
      Talked request builds submits tracks (notes ++ (priced ++ sent)) (.error fault) final
  | tracked {started begun built submitted final : World σ} {notes priced sent polled : List Entry}
      {transaction : DeploymentTransaction} {pending : PendingDeployment} {tracker : Tracker}
      {result : Except Fault TrackingResult} (noted : Noted started notes begun)
      (isBuilt : builds begun priced (.ok transaction) built)
      (isSubmitted : submits transaction built sent (.ok pending) submitted)
      (isTracked : tracks tracker pending submitted polled result final) :
      Talked request builds submits tracks (notes ++ (priced ++ (sent ++ polled))) result final

/-- The ends of a deployment once the artifact is read and the network selected: the key is refused, or there is a
conversation with the endpoint. -/
inductive Proceeded (request : DeploymentRequest) (source : ClientSource σ) (network : Network)
    (conversed : Signer → Client σ → World σ → List Entry → Except Fault TrackingResult →
      World σ → Prop) (world : World σ) :
    List Entry → Except Fault TrackingResult → World σ → Prop where
  | unsigned {fault : Fault}
      (refused : Signer.ofKey request.privateKey (.int network.chainId) = .error fault) :
      Proceeded request source network conversed world [] (.error fault) world
  | conversed {signer : Signer} {notes added : List Entry} {seen final : World σ}
      {result : Except Fault TrackingResult}
      (isSigner : Signer.ofKey request.privateKey (.int network.chainId) = .ok signer)
      (noted : Noted world notes seen)
      (used : source.Used network (conversed signer) seen added result final) :
      Proceeded request source network conversed world (notes ++ added) result final

/-- Once the network is selected, no requests are made but those of the conversation. -/
theorem Proceeded.cases_exchanges {request : DeploymentRequest} {source : ClientSource σ}
    {network : Network} {conversed : Signer → Client σ → World σ → List Entry →
      Except Fault TrackingResult → World σ → Prop}
    {world final : World σ} {added : List Entry} {result : Except Fault TrackingResult}
    (proceeded : request.Proceeded source network conversed world added result final) :
    (∃ fault, result = .error fault ∧ exchangesOf added = []) ∨
      ∃ signer client seen talk middle,
        Signer.ofKey request.privateKey (.int network.chainId) = .ok signer ∧
        conversed signer client seen talk result middle ∧ exchangesOf added = exchangesOf talk := by
  cases proceeded with
  | unsigned refused => exact Or.inl ⟨_, rfl, rfl⟩
  | conversed isSigner noted used =>
      rcases used.exists_use with ⟨client, talk, middle, conversed, exchanged⟩
      exact Or.inr ⟨_, client, _, talk, middle, isSigner, conversed,
        by simp [noted.silent.exchanges, exchanged]⟩

/-- The courses of a deployment: it ends with the artifact, with the selection of the network, with a failure on that
network, with a result that there is no report on, or with a report. -/
inductive Deployed (request : DeploymentRequest) (source : ClientSource σ)
    (conversed : Bytes → Network → Signer → Client σ → World σ → List Entry →
      Except Fault TrackingResult → World σ → Prop) (world : World σ) :
    List Entry → Except Fault Report → World σ → Prop where
  | unread {fault : Fault}
      (refused : Artifact.content world.files request.wasmFile = .error fault) :
      Deployed request source conversed world [] (.error fault) world
  | unselected {artifact : Bytes} {notes : List Entry} {seen : World σ} {fault : Fault}
      (isRead : Artifact.content world.files request.wasmFile = .ok artifact)
      (noted : Noted world notes seen)
      (refused : Network.select request.localNode request.development request.rpcUrl
        request.chainId = .error fault) :
      Deployed request source conversed world notes (.error fault) seen
  | failed {artifact : Bytes} {network : Network} {notes added : List Entry}
      {seen final : World σ} {fault : Fault}
      (isRead : Artifact.content world.files request.wasmFile = .ok artifact)
      (noted : Noted world notes seen)
      (isSelected : Network.select request.localNode request.development request.rpcUrl
        request.chainId = .ok network)
      (proceeded : request.Proceeded source network (conversed artifact network) seen added
        (.error fault) final) :
      Deployed request source conversed world (notes ++ added) (.error (fault.onNetwork network))
        final
  | unreported {artifact : Bytes} {network : Network} {notes added : List Entry}
      {seen final : World σ} {value : TrackingResult} {fault : Fault}
      (isRead : Artifact.content world.files request.wasmFile = .ok artifact)
      (noted : Noted world notes seen)
      (isSelected : Network.select request.localNode request.development request.rpcUrl
        request.chainId = .ok network)
      (proceeded : request.Proceeded source network (conversed artifact network) seen added
        (.ok value) final)
      (refused : Report.ofResult network value = .error fault) :
      Deployed request source conversed world (notes ++ added) (.error fault) final
  | reported {artifact : Bytes} {network : Network} {notes added lines : List Entry}
      {seen middle final : World σ} {value : TrackingResult} {report : Report}
      (isRead : Artifact.content world.files request.wasmFile = .ok artifact)
      (noted : Noted world notes seen)
      (isSelected : Network.select request.localNode request.development request.rpcUrl
        request.chainId = .ok network)
      (proceeded : request.Proceeded source network (conversed artifact network) seen added
        (.ok value) middle)
      (isReport : Report.ofResult network value = .ok report)
      (announced : Noted middle lines final) :
      Deployed request source conversed world (notes ++ (added ++ lines)) (.ok report) final

end DeploymentRequest

variable {world : World σ}

theorem ClientSource.use_yields {source : ClientSource σ} {network : Network}
    {operation : Client σ → Run σ α}
    {use : Client σ → World σ → List Entry → Except Fault α → World σ → Prop}
    (yields : ∀ client, (operation client).Yields world (use client world)) :
    (source.use network operation).Yields world (source.Used network use world) := by
  cases source with
  | given client =>
      apply (yields client).mono
      exact fun _ _ _ => Used.given rfl
  | opened connect =>
      apply yields_noting
      apply (yields (.http (connect network.endpoint.shown))).mono
      exact fun _ _ _ => Used.opened rfl

namespace DeploymentRequest

variable (request : DeploymentRequest)

theorem announce_noted (network : Network) (signer : Signer) :
    (request.announce network signer : Run σ Unit).Yields world fun added result final =>
      Noted world added final ∧ result = .ok () := by
  simp only [announce]
  generalize Text.lines _ = lines
  induction lines generalizing world with
  | nil => exact yields_pure ⟨Noted.refl world, rfl⟩
  | cons line lines ih =>
      apply yields_record_bind
      apply ih.mono
      rintro added result final ⟨noted, isDone⟩
      exact ⟨(Noted.log world _ _ _).trans noted, isDone⟩

theorem announceContract_noted (report : Report) :
    (announceContract report : Run σ Unit).Yields world fun added result final =>
      Noted world added final ∧ result = .ok () := by
  simp only [announceContract]
  split
  · exact yields_record ⟨Noted.log world _ _ _, rfl⟩
  · exact yields_pure ⟨Noted.refl world, rfl⟩

variable (source : ClientSource σ) (tracker : Option Tracker)

theorem startTracker_yields :
    (request.startTracker tracker : Run σ Tracker).Yields world fun added result _ =>
      added = [] ∧ ∀ fault, result = .error fault →
        Tracker.ofSettings request.timeout request.pollInterval = .error fault := by
  cases tracker with
  | some tracker => exact yields_pure ⟨rfl, by simp⟩
  | none =>
      apply yields_lift_bind
      · rintro fault refused
        refine ⟨rfl, ?_⟩
        rintro _ ⟨⟩
        exact refused
      · intro tracker _
        apply yields_modify_bind rfl
        exact yields_pure ⟨rfl, by simp⟩

/-- What a conversation can do, by what its stages can do. Submitting may rely on what is known of building. -/
theorem converse_course (artifact : Bytes) (network : Network) (signer : Signer) (client : Client σ)
    {builds : World σ → List Entry → Except Fault DeploymentTransaction → World σ → Prop}
    {submits : DeploymentTransaction → World σ → List Entry → Except Fault PendingDeployment →
      World σ → Prop}
    {tracks : Tracker → PendingDeployment → World σ → List Entry → Except Fault TrackingResult →
      World σ → Prop}
    (building : ∀ begun : World σ, (buildTransaction client artifact network request.gasLimit
      request.gasPrice).Yields begun (builds begun))
    (submitting : ∀ transaction begun priced built, builds begun priced (.ok transaction) built →
      (submit client signer transaction).Yields built (submits transaction built))
    (tracking : ∀ (tracker : Tracker) pending (submitted : World σ),
      (tracker.track client pending request.confirmations).Yields submitted
        (tracks tracker pending submitted)) :
    (request.converse client tracker artifact network signer).Yields world
      (request.Talked builds submits tracks) := by
  apply yields_bind
  apply (request.startTracker_yields tracker).mono
  rintro _ (fault | tracker) started ⟨rfl, refused⟩
  · exact Talked.untracked (refused fault rfl)
  have noted := Noted.log started .info .deployment (.ok "Preparing deployment transaction...")
  apply yields_record_bind
  apply yields_bind
  apply (building _).mono
  rintro priced (fault | transaction) built isBuilt
  · simpa using Talked.unbuilt noted isBuilt
  apply yields_bind
  apply (submitting _ _ _ _ isBuilt).mono
  rintro sent (fault | pending) submitted isSubmitted
  · simpa using Talked.unsubmitted noted isBuilt isSubmitted
  apply (tracking tracker pending submitted).mono
  intro polled result final isTracked
  simpa using Talked.tracked noted isBuilt isSubmitted isTracked

theorem proceed_course (artifact : Bytes) (network : Network)
    {conversed : Signer → Client σ → World σ → List Entry → Except Fault TrackingResult →
      World σ → Prop}
    (converses : ∀ signer, Signer.ofKey request.privateKey (.int network.chainId) = .ok signer →
      ∀ client seen, (request.converse client tracker artifact network signer).Yields seen
        (conversed signer client seen)) :
    (request.proceed source tracker artifact network).Yields world
      (request.Proceeded source network conversed world) := by
  apply yields_lift_bind
  · exact fun _ => Proceeded.unsigned
  intro signer isSigner
  apply yields_bind
  apply (request.announce_noted network signer).mono
  rintro notes _ seen ⟨noted, rfl⟩
  apply (ClientSource.use_yields fun client => converses signer isSigner client seen).mono
  exact fun _ _ _ => Proceeded.conversed isSigner noted

/-- What a deployment can do, by what its conversation with the endpoint can do. -/
theorem deploy_course
    {conversed : Bytes → Network → Signer → Client σ → World σ → List Entry →
      Except Fault TrackingResult → World σ → Prop}
    (converses : ∀ artifact network signer,
      Signer.ofKey request.privateKey (.int network.chainId) = .ok signer →
        ∀ client seen, (request.converse client tracker artifact network signer).Yields seen
          (conversed artifact network signer client seen)) :
    (request.deploy source tracker).Yields world
      (request.Deployed source conversed world) := by
  apply yields_bind
  apply yields_get_bind
  apply yields_lift_bind
  · exact fun _ => Deployed.unread
  intro artifact isRead
  have noted := Noted.log world .info .artifact (.ok s!"WASM file size: {artifact.length} bytes")
  apply yields_record_bind
  apply yields_pure
  apply yields_lift_bind
  · exact fun _ => Deployed.unselected isRead noted
  intro network isSelected
  apply yields_bind
  apply yields_tryCatch
  apply (request.proceed_course source tracker artifact network (converses artifact network)).mono
  rintro added (fault | value) middle proceeded
  · apply yields_throw
    rw [List.append_nil]
    exact Deployed.failed isRead noted isSelected proceeded
  apply yields_lift_bind
  · intro fault refused
    rw [List.append_nil]
    exact Deployed.unreported isRead noted isSelected proceeded refused
  intro report isReport
  apply yields_bind
  apply (announceContract_noted report).mono
  rintro lines _ final ⟨announced, rfl⟩
  apply yields_pure
  rw [List.append_nil]
  exact Deployed.reported isRead noted isSelected proceeded isReport announced

end DeploymentRequest

end WasmDeploy
