import WasmDeploy.Proofs.Deployment.Acceptance
import WasmDeploy.Proofs.Deployment.Course
import WasmDeploy.Proofs.Deployment.Session
import WasmDeploy.Proofs.Deployment.Submission
import WasmDeploy.Proofs.Key

/-!
# What a deployment shows of the private key

This file compares deployments that differ in the private key only. They show nothing of it but the address and the
signed transaction: a run with one key is the run with the other if both keys give the same address, and give the same
bytes for the one transaction that the run signs. The two signers need not agree on any other transaction.
-/

namespace WasmDeploy

open Run

variable {σ α β : Type}

/-! ## Runs that follow each other -/

namespace Run

theorem ok_bind (value : α) (next : α → Run σ β) :
    ((liftM (Except.ok value : Except Fault α) : Run σ α) >>= next) = next value :=
  rfl

theorem error_bind (fault : Fault) (next : α → Run σ β) :
    ((liftM (Except.error fault : Except Fault α) : Run σ α) >>= next) = throw fault :=
  rfl

/-- From a world an operation ends as another one does, if the conversation of the latter meets a condition. -/
def Follows (world : World σ) (condition : List Exchange → Prop) (operation operation' : Run σ α) : Prop :=
  operation.Yields world fun added result final =>
    condition (exchangesOf added) → operation'.outcome world = (result, final)

variable {world : World σ} {condition : List Exchange → Prop}

theorem follows_refl {operation : Run σ α} (grows : operation.Yields world fun _ _ _ => True) :
    Follows world condition operation operation := by
  rcases grows with ⟨added, entries, _⟩
  exact ⟨added, entries, fun _ => rfl⟩

theorem Follows.mono {operation operation' : Run σ α} {weaker : List Exchange → Prop}
    (follows : Follows world weaker operation operation')
    (weakens : ∀ exchanges, condition exchanges → weaker exchanges) :
    Follows world condition operation operation' :=
  Yields.mono follows fun _ _ _ same met => same (weakens _ met)

/-- What comes before is the same on both sides. -/
theorem follows_bind {first : Run σ α} {next next' : α → Run σ β}
    (yields : first.Yields world fun added result middle => ∀ value, result = .ok value →
      Follows middle (fun more => condition (exchangesOf added ++ more)) (next value) (next' value)) :
    Follows world condition (first >>= next) (first >>= next') := by
  rcases yields with ⟨added, entries, follows⟩
  rw [Follows, Yields, outcome_bind, outcome_bind]
  rcases ending : first.outcome world with ⟨fault | value, middle⟩
  · rw [ending] at entries
    exact ⟨added, entries, fun _ => rfl⟩
  · rw [ending] at entries follows
    rcases follows value rfl with ⟨more, moreEntries, same⟩
    refine ⟨added ++ more, ?_, ?_⟩
    · rw [moreEntries, entries, List.append_assoc]
    · rw [exchangesOf_append]
      exact same

/-- What comes after is the same on both sides. -/
theorem Follows.bind {first first' : Run σ α} {next : α → Run σ β}
    (follows : Follows world condition first first')
    (antitone : ∀ exchanges more, condition (exchanges ++ more) → condition exchanges)
    (grows : ∀ value middle, (next value).Yields middle fun _ _ _ => True) :
    Follows world condition (first >>= next) (first' >>= next) := by
  rcases follows with ⟨added, entries, same⟩
  rw [Follows, Yields, outcome_bind, outcome_bind]
  rcases ending : first.outcome world with ⟨fault | value, middle⟩
  · rw [ending] at entries same
    refine ⟨added, entries, ?_⟩
    intro met
    rw [same met]
  · rw [ending] at entries same
    rcases grows value middle with ⟨more, moreEntries, _⟩
    refine ⟨added ++ more, ?_, ?_⟩
    · rw [moreEntries, entries, List.append_assoc]
    · rw [exchangesOf_append]
      intro met
      rw [same (antitone _ _ met)]

/-- A handler that makes no request does not matter. -/
theorem Follows.tryCatch {operation operation' : Run σ α} {handler : Fault → Run σ α}
    (follows : Follows world condition operation operation')
    (silent : ∀ fault middle, (handler fault).Yields middle fun more _ _ => exchangesOf more = []) :
    Follows world condition (tryCatch operation handler) (tryCatch operation' handler) := by
  rcases follows with ⟨added, entries, same⟩
  rw [Follows, Yields, outcome_tryCatch, outcome_tryCatch]
  rcases ending : operation.outcome world with ⟨fault | value, middle⟩
  · rw [ending] at entries same
    rcases silent fault middle with ⟨more, moreEntries, none⟩
    refine ⟨added ++ more, ?_, ?_⟩
    · rw [moreEntries, entries, List.append_assoc]
    · rw [exchangesOf_append, none, List.append_nil]
      intro met
      rw [same met]
  · rw [ending] at entries same
    refine ⟨added, entries, ?_⟩
    intro met
    rw [same met]

theorem Follows.closing {operation operation' : Run σ α}
    (follows : Follows world condition operation operation') :
    Follows world condition (closing operation) (closing operation') := by
  apply yields_noting
  apply Yields.mono follows
  intro added result middle same met
  have silent : exchangesOf [⟨middle.now, middle.tracking, .close⟩] = [] := rfl
  rw [exchangesOf_append, silent, List.append_nil] at met
  change ((operation'.outcome world).1, (operation'.outcome world).2.record .close) = _
  rw [same met]

end Run

/-! ## Submitting -/

/-- What a signer shows of a transaction that it signs: the bytes to be sent and their hash. -/
def Signer.shows (signer : Signer) (fields : TransactionFields) : Except Fault (Bytes × Bytes) :=
  (signer.sign fields).map fun signed => (signed.raw, signed.hash)

/-- Hands a transaction that has been signed to the endpoint. -/
def submitSigned (client : Client σ) (address : String) (gasLimit nonce : Datum)
    (shown : Bytes × Bytes) : Run σ PendingDeployment := do
  let expected := Text.hexData shown.2
  Run.log .info .submission (sendingLine address nonce)
  let hash ← send client shown.1
  let isExpected ← (confirms hash expected : Except Fault _)
  warnOfHash hash expected isExpected
  Run.log .info .submission (.ok s!"Transaction submitted: {hash.plain}")
  return { txHash := hash, gasLimit }

/-- Submitting uses the signer for its address and for what it shows of the transaction, and for nothing else. -/
theorem submit_eq (client : Client σ) (signer : Signer) (transaction : DeploymentTransaction) :
    submit client signer transaction = (do
      let nonce ← client.ask (.transactionCount (.text signer.address))
      let shown ← (signer.shows (transaction.fields nonce) : Except Fault _)
      submitSigned client signer.address transaction.gasLimit nonce shown) := by
  simp only [submit, Signer.shows]
  congr 1
  funext nonce
  rcases signer.sign (transaction.fields nonce) <;> rfl

/-- Every stage of a deployment only adds to the journal. -/
def growing (σ : Type) : Congruence σ fun _ => False :=
  adding σ (fun _ => True) (fun _ _ _ => trivial) fun _ => trivial

theorem Client.grows_ask (client : Client σ) : (growing σ).RelatesClients client client :=
  fun request _ => (client.ask_yields request).mono fun _ _ _ _ _ _ => trivial

theorem submitSigned_grows (client : Client σ) (address : String) (gasLimit nonce : Datum)
    (shown : Bytes × Bytes) :
    (growing σ).related (submitSigned client address gasLimit nonce shown)
      (submitSigned client address gasLimit nonce shown) := by
  apply (growing σ).bind ((growing σ).log _ _ _)
  intro _
  apply (growing σ).bind ((growing σ).relates_send client.grows_ask shown.1 fun _ => id)
  intro hash
  apply (growing σ).bind ((growing σ).lift (.of_onlyDefects (onlyDefects_confirms _ _)))
  intro isExpected
  apply (growing σ).bind
  · simp only [warnOfHash]
    split
    · exact (growing σ).pure ()
    · exact (growing σ).log _ _ _
  intro _
  apply (growing σ).bind ((growing σ).log _ _ _)
  intro _
  exact (growing σ).pure _

/-- Whatever a computation comes to, what follows it only adds to the journal. -/
theorem grows_lift_bind {world : World σ} (result : Except Fault α) {next : α → Run σ β}
    (grows : ∀ value, (next value).Yields world fun _ _ _ => True) :
    (liftM result >>= next).Yields world fun _ _ _ => True := by
  apply yields_lift_bind
  · exact fun _ _ => trivial
  · exact fun value _ => grows value

/-- Submitting with another signer is the same if the signer has the same address and shows the same of the transaction
with the nonce that the endpoint answers. -/
theorem submit_follows (client : Client σ) {signer signer' : Signer} (transaction : DeploymentTransaction)
    (sameAddress : signer'.address = signer.address) (world : World σ) :
    Follows world (fun exchanges => ∀ address nonce, ⟨.transactionCount address, .ok nonce⟩ ∈ exchanges →
        signer'.shows (transaction.fields nonce) = signer.shows (transaction.fields nonce))
      (submit client signer transaction) (submit client signer' transaction) := by
  rw [submit_eq, submit_eq, sameAddress]
  apply follows_bind
  apply (client.ask_yields _).mono
  rintro asked _ middle ask nonce rfl
  have grows (signer : Signer) : (do
      let shown ← (signer.shows (transaction.fields nonce) : Except Fault _)
      submitSigned client signer.address transaction.gasLimit nonce shown :
        Run σ PendingDeployment).Yields middle fun _ _ _ => True :=
    grows_lift_bind _ fun shown => (submitSigned_grows client _ _ nonce shown middle).mono
      fun _ _ _ _ => trivial
  -- The nonce is among what has been heard, so the condition speaks about this very transaction.
  by_cases same : signer'.shows (transaction.fields nonce) = signer.shows (transaction.fields nonce)
  · rw [same]
    exact follows_refl (grows signer)
  · apply (grows signer).mono
    intro more result final _ met
    refine absurd (met (.text signer.address) nonce ?_) same
    rw [ask.exchanges]
    exact List.mem_append_left _ (List.mem_singleton_self _)

namespace DeploymentRequest

variable (request : DeploymentRequest)

/-- The fields of the transaction that a deployment signs, by what it hears: those of its artifact, its network and its
gas limit, with the gas price that is settled and a nonce that was answered. -/
structure Drafts (files : FileTree File) (exchanges : List Exchange) (fields : TransactionFields) :
    Prop where
  payload : ∃ artifact, Artifact.content files request.wasmFile = .ok artifact ∧
    fields.payload = .bytes artifact
  chainId : ∃ network, Network.select request.localNode request.development request.rpcUrl
    request.chainId = .ok network ∧ fields.chainId = .int network.chainId
  gasLimit : fields.gasLimit = request.gasLimit
  gasPrice : request.gasPrice = .int 0 ∧ ⟨.gasPrice, .ok fields.gasPrice⟩ ∈ exchanges ∨
    request.gasPrice ≠ .int 0 ∧ fields.gasPrice = request.gasPrice
  nonce : ∃ address, ⟨.transactionCount address, .ok fields.nonce⟩ ∈ exchanges

variable {request} {files : FileTree File}

theorem Drafts.append {exchanges : List Exchange} {fields : TransactionFields}
    (drafts : request.Drafts files exchanges fields) (more : List Exchange) :
    request.Drafts files (exchanges ++ more) fields where
  payload := drafts.payload
  chainId := drafts.chainId
  gasLimit := drafts.gasLimit
  gasPrice := drafts.gasPrice.imp_left fun asked => ⟨asked.1, List.mem_append_left _ asked.2⟩
  nonce := drafts.nonce.imp fun _ heard => List.mem_append_left _ heard

/-- Two signers show the same of the transaction that a deployment signs. -/
def ShowAlike (request : DeploymentRequest) (files : FileTree File) (signer signer' : Signer)
    (exchanges : List Exchange) : Prop :=
  ∀ fields, request.Drafts files exchanges fields → signer'.shows fields = signer.shows fields

theorem drafts_of_built {artifact : Bytes} {network : Network} {priced exchanges : List Exchange}
    {transaction : DeploymentTransaction} {address nonce : Datum}
    (isRead : Artifact.content files request.wasmFile = .ok artifact)
    (isSelected : Network.select request.localNode request.development request.rpcUrl request.chainId =
      .ok network)
    (built : Built artifact network request.gasLimit request.gasPrice priced (.ok transaction))
    (heard : ⟨.transactionCount address, .ok nonce⟩ ∈ exchanges) :
    request.Drafts files (priced ++ exchanges) (transaction.fields nonce) := by
  cases built with
  | built isLimit settled =>
      refine ⟨⟨artifact, isRead, rfl⟩, ⟨network, isSelected, rfl⟩, rfl, ?_,
        address, List.mem_append_right _ heard⟩
      cases settled with
      | asked price isZero =>
          exact Or.inl ⟨isZero, List.mem_append_left _ (List.mem_singleton_self _)⟩
      | given notZero => exact Or.inr ⟨notZero, rfl⟩

theorem converse_follows (client : Client σ) (tracker : Option Tracker) {artifact : Bytes}
    {network : Network} {signer signer' : Signer} (sameAddress : signer'.address = signer.address)
    (isRead : Artifact.content files request.wasmFile = .ok artifact)
    (isSelected : Network.select request.localNode request.development request.rpcUrl request.chainId =
      .ok network) (world : World σ) :
    Follows world (request.ShowAlike files signer signer')
      (request.converse client tracker artifact network signer)
      (request.converse client tracker artifact network signer') := by
  apply follows_bind
  apply (request.startTracker_yields tracker).mono
  rintro _ _ started ⟨rfl, _⟩ tracker rfl
  apply follows_bind
  apply yields_record
  rintro _ ⟨⟩
  apply follows_bind
  apply (buildTransaction_yields client artifact network _ _).mono
  rintro priced _ built isBuilt transaction rfl
  apply Follows.bind
  · apply (submit_follows client transaction sameAddress built).mono
    intro exchanges alike address nonce heard
    apply alike
    simpa using drafts_of_built isRead isSelected isBuilt heard
  · intro exchanges more alike fields drafts
    apply alike
    simpa using drafts.append more
  · intro pending middle
    apply ((growing σ).relates_track tracker (fun _ (_ : tracker.Begins pending.txHash _ _) => id)
      client.grows_ask middle).mono
    exact fun _ _ _ _ => trivial

variable {key : Datum}

/-- Once the artifact is read and the network selected, another accepted key makes no difference. -/
theorem proceed_follows (source : ClientSource σ) (tracker : Option Tracker) {artifact : Bytes}
    {network : Network} {number number' : Nat} (isKey : Signer.readKey request.privateKey = .ok number)
    (isKey' : Signer.readKey key = .ok number') (sameAddress : addressOfKey number' = addressOfKey number)
    (isRead : Artifact.content files request.wasmFile = .ok artifact)
    (isSelected : Network.select request.localNode request.development request.rpcUrl request.chainId =
      .ok network) (world : World σ) :
    Follows world (request.ShowAlike files ⟨number, .int network.chainId⟩ ⟨number', .int network.chainId⟩)
      (request.proceed source tracker artifact network)
      ({ request with privateKey := key }.proceed source tracker artifact network) := by
  have signer : Signer.ofKey request.privateKey (.int network.chainId) =
      .ok ⟨number, .int network.chainId⟩ := by
    rw [Signer.ofKey, isKey]
    rfl
  have signer' : Signer.ofKey key (.int network.chainId) = .ok ⟨number', .int network.chainId⟩ := by
    rw [Signer.ofKey, isKey']
    rfl
  have alikeAddress : Signer.address ⟨number', .int network.chainId⟩ =
      Signer.address ⟨number, .int network.chainId⟩ := sameAddress
  have announced : { request with privateKey := key }.announce network ⟨number', .int network.chainId⟩ =
      (request.announce network ⟨number, .int network.chainId⟩ : Run σ Unit) := by
    simp only [announce, alikeAddress]
  simp only [proceed]
  rw [signer, signer', ok_bind, ok_bind, announced]
  apply follows_bind
  apply (request.announce_noted network _).mono
  rintro notes _ seen ⟨noted, rfl⟩ _ _
  rw [noted.silent.exchanges]
  have converses (client : Client σ) : Follows seen
      (request.ShowAlike files ⟨number, .int network.chainId⟩ ⟨number', .int network.chainId⟩)
      (request.converse client tracker artifact network ⟨number, .int network.chainId⟩)
      (request.converse client tracker artifact network ⟨number', .int network.chainId⟩) :=
    converse_follows client tracker alikeAddress isRead isSelected seen
  cases source with
  | given client => exact converses client
  | opened connect => exact (converses (.http (connect network.endpoint.shown))).closing

/-- Two accepted keys show the same of the transaction that a deployment signs, for the chain that it is signed for. -/
def KeysShowAlike (request : DeploymentRequest) (files : FileTree File) (number number' : Nat)
    (exchanges : List Exchange) : Prop :=
  ∀ fields, request.Drafts files exchanges fields →
    Signer.shows ⟨number', fields.chainId⟩ fields = Signer.shows ⟨number, fields.chainId⟩ fields

theorem deploy_follows (source : ClientSource σ) (tracker : Option Tracker) {number number' : Nat}
    (isKey : Signer.readKey request.privateKey = .ok number) (isKey' : Signer.readKey key = .ok number')
    (sameAddress : addressOfKey number' = addressOfKey number) (world : World σ) :
    Follows world (request.KeysShowAlike world.files number number') (request.deploy source tracker)
      ({ request with privateKey := key }.deploy source tracker) := by
  apply follows_bind
  apply yields_get_bind
  apply yields_lift_bind
  · rintro fault _ _ ⟨⟩
  intro artifact isRead
  apply yields_record_bind
  apply yields_pure
  rintro _ ⟨⟩
  simp only [List.nil_append, exchangesOf_log, exchangesOf_nil]
  rcases isSelected : Network.select request.localNode request.development request.rpcUrl
    request.chainId with fault | network
  · rw [error_bind, error_bind]
    exact follows_refl (yields_throw trivial)
  rw [ok_bind, ok_bind]
  apply Follows.bind
  · apply Follows.tryCatch
    · apply (proceed_follows source tracker isKey isKey' sameAddress isRead isSelected _).mono
      intro exchanges alike fields drafts
      rcases drafts.chainId with ⟨other, isOther, isChain⟩
      cases isSelected.symm.trans isOther
      rw [← isChain]
      exact alike fields drafts
    · exact fun _ _ => yields_throw rfl
  · exact fun exchanges more alike fields drafts => alike fields (drafts.append more)
  · intro result middle
    apply grows_lift_bind
    intro report
    apply yields_bind
    apply (announceContract_noted report).mono
    rintro lines _ final ⟨_, rfl⟩
    exact yields_pure trivial

theorem deployAndReport_follows (source : ClientSource σ) (tracker : Option Tracker)
    {number number' : Nat} (isKey : Signer.readKey request.privateKey = .ok number)
    (isKey' : Signer.readKey key = .ok number') (sameAddress : addressOfKey number' = addressOfKey number)
    (world : World σ) :
    Follows world (request.KeysShowAlike world.files number number')
      (request.deployAndReport source tracker)
      ({ request with privateKey := key }.deployAndReport source tracker) := by
  apply (deploy_follows source tracker isKey isKey' sameAddress world).tryCatch
  intro fault middle
  rcases fault with ⟨cause, network⟩ | defect | _
  · apply yields_record_bind
    exact yields_pure rfl
  · exact yields_throw rfl
  · exact yields_throw rfl

/-! ## Refused keys -/

theorem deploy_of_refused {fault : Fault} (refused : Signer.readKey request.privateKey = .error fault)
    (refused' : Signer.readKey key = .error fault) (source : ClientSource σ) (tracker : Option Tracker) :
    { request with privateKey := key }.deploy source tracker = request.deploy source tracker := by
  have proceeds (artifact : Bytes) (network : Network) :
      { request with privateKey := key }.proceed source tracker artifact network =
        request.proceed source tracker artifact network := by
    simp only [proceed, Signer.ofKey]
    rw [refused, refused']
    rfl
  simp only [deploy, proceeds]

/-- With a refused key a deployment talks to no endpoint. -/
theorem deploy_unsigned {fault : Fault} (refused : Signer.readKey request.privateKey = .error fault)
    (source : ClientSource σ) (tracker : Option Tracker) (world : World σ) :
    (request.deploy source tracker).Yields world fun added _ _ => ∀ entry ∈ added, entry.IsLog := by
  have unsigned (network : Network) (signer : Signer) :
      Signer.ofKey request.privateKey (.int network.chainId) ≠ .ok signer := by
    rw [Signer.ofKey, refused]
    intro isSigner
    cases isSigner
  have course : (request.deploy source tracker).Yields world
      (request.Deployed source (fun _ _ _ _ _ _ _ _ => True) world) :=
    request.deploy_course source tracker fun _ network signer isSigner =>
      absurd isSigner (unsigned network signer)
  apply course.mono
  intro added result final deployed
  cases deployed with
  | unread => simp
  | unselected isRead noted => exact noted.areLogs
  | failed isRead noted isSelected proceeded =>
      cases proceeded with
      | unsigned => simpa using noted.areLogs
      | conversed isSigner => exact absurd isSigner (unsigned _ _)
  | unreported isRead noted isSelected proceeded =>
      cases proceeded with
      | conversed isSigner => exact absurd isSigner (unsigned _ _)
  | reported isRead noted isSelected proceeded =>
      cases proceeded with
      | conversed isSigner => exact absurd isSigner (unsigned _ _)

theorem deployAndReport_unsigned {fault : Fault}
    (refused : Signer.readKey request.privateKey = .error fault) (source : ClientSource σ)
    (tracker : Option Tracker) (world : World σ) :
    (request.deployAndReport source tracker).Yields world fun added _ _ =>
      ∀ entry ∈ added, entry.IsLog := by
  apply yields_tryCatch
  apply (deploy_unsigned refused source tracker world).mono
  rintro added ((⟨cause, network⟩ | defect | _) | report) middle logs
  · apply yields_record_bind
    apply yields_pure
    simpa [or_imp, forall_and] using logs
  · apply yields_throw
    simpa using logs
  · apply yields_throw
    simpa using logs
  · exact logs

theorem postsOf_of_isLog {entries : List Entry} (logs : ∀ entry ∈ entries, entry.IsLog) :
    postsOf entries = [] := by
  apply List.filterMap_eq_nil_iff.mpr
  intro entry mem
  rcases logs entry mem with ⟨_, _, _, isLog⟩
  simp [Entry.post?, isLog]

/-- A deployment shows nothing of the private key but the address and the signed transaction. The text of the request
leaves the key out. Keys that are refused for the same reason lead to the same end without a request or a post. Keys
that are accepted lead to the same end if they have the same address and show the same of the transaction. -/
structure KeepsSecret (request : DeploymentRequest) (key : Datum) (source : ClientSource σ)
    (tracker : Option Tracker) (world : World σ) : Prop where
  display : { request with privateKey := key }.display = request.display
  refused : ∀ cause, Signer.Refuses request.privateKey cause → Signer.Refuses key cause →
    (request.deployAndReport source tracker).Yields world fun added result final =>
      requestsOf added = [] ∧ postsOf added = [] ∧
        ({ request with privateKey := key }.deployAndReport source tracker).outcome world = (result, final)
  accepted : ∀ number number', Signer.readKey request.privateKey = .ok number →
    Signer.readKey key = .ok number' → addressOfKey number' = addressOfKey number →
      (request.deployAndReport source tracker).Yields world fun added result final =>
        request.KeysShowAlike world.files number number' (exchangesOf added) →
          ({ request with privateKey := key }.deployAndReport source tracker).outcome world = (result, final)

theorem keepsSecret (request : DeploymentRequest) (key : Datum) (source : ClientSource σ)
    (tracker : Option Tracker) (world : World σ) : request.KeepsSecret key source tracker world where
  display := rfl
  refused := by
    intro cause refuses refuses'
    have isRefused := Signer.readKey_of_refuses refuses
    have same : { request with privateKey := key }.deployAndReport source tracker =
        request.deployAndReport source tracker := by
      simp only [deployAndReport, deploy_of_refused isRefused (Signer.readKey_of_refuses refuses')]
    rcases deployAndReport_unsigned isRefused source tracker world with ⟨added, entries, logs⟩
    rw [same]
    exact ⟨added, entries, (Silent.of_isLog logs).requests, postsOf_of_isLog logs, rfl⟩
  accepted _ _ isKey isKey' sameAddress :=
    deployAndReport_follows source tracker isKey isKey' sameAddress world

/-- The same key without the mark in front of its digits leads to the same end. -/
theorem keepsSecret_local :
    let key : Datum := .text (String.ofList (List.replicate 63 '0') ++ "1")
    let source : ClientSource Unit := .given (.direct pendingAnswer)
    Signer.readKey (localRequest 0).privateKey = .ok 1 ∧ Signer.readKey key = .ok 1 ∧
      ({ localRequest 0 with privateKey := key }.deployAndReport source none).outcome (localWorld false) =
        ((localRequest 0).deployAndReport source none).outcome (localWorld false) := by
  intro key source
  have isKey := (inOrder_localRequest 0 false).readKey
  have isKey' : Signer.readKey key = .ok 1 := eq_ok_of_test (by decide +kernel)
  rcases ((localRequest 0).keepsSecret key source none (localWorld false)).accepted 1 1 isKey isKey' rfl with
    ⟨_, _, same⟩
  exact ⟨isKey, isKey', same fun _ _ => rfl⟩

end DeploymentRequest

end WasmDeploy
