import WasmDeploy.Proofs.Deployment.Acceptance
import WasmDeploy.Proofs.Deployment.Walk
import WasmDeploy.Proofs.Mirror

/-!
# A deployment over an endpoint that mirrors a direct client

This file shows that a deployment cannot tell an endpoint over HTTP from the direct client that it mirrors. The
stages of a deployment keep every relation that composing keeps, so it is enough that requests do.
-/

namespace WasmDeploy

open Run

variable {σ : Type}

theorem Text.ofString_inj {left right : String} :
    Text.ofString left = Text.ofString right ↔ left = right := by
  constructor
  · intro same
    simpa using congrArg Text.shown same
  · exact congrArg Text.ofString

/-- A source leads a request to an endpoint: it gives a client for it, or opens one for whatever network the
request selects. -/
def DeploymentRequest.Reaches (request : DeploymentRequest) (endpoint : HttpEndpoint σ) :
    ClientSource σ → Prop
  | .given client => client = .http endpoint
  | .opened connect => ∀ network,
      Network.select request.localNode request.development request.rpcUrl request.chainId =
        .ok network → connect network.endpoint.shown = endpoint

namespace DeploymentRequest

variable (request : DeploymentRequest) {endpoint : HttpEndpoint σ} {source : ClientSource σ}
  {answer : (request : Request) → σ → Except Fault request.Reply × σ}

theorem relatesSources_of_reaches (mirrors : endpoint.Mirrors answer)
    (reaches : request.Reaches endpoint source) {network : Network}
    (isSelected : Network.select request.localNode request.development request.rpcUrl
      request.chainId = .ok network) :
    (mirroring endpoint).RelatesSources (.given (.direct answer)) source network := by
  intro operation relates
  have asked := relates _ _ (mirrors_ask mirrors)
  cases source with
  | given client =>
      cases reaches
      exact asked
  | opened connect =>
      simp only [ClientSource.use, reaches network isSelected]
      exact mirrors_closing asked

/-- A deployment over an endpoint that mirrors a direct client ends as it does with the client: with the same
report or the same fault, at the same time and with the tracker in the same states. What is posted corresponds to
the requests one by one, in their order and with their parameters. -/
theorem deploy_mirrors (tracker : Option Tracker) (mirrors : endpoint.Mirrors answer)
    (reaches : request.Reaches endpoint source) {world other : World σ} (alike : world.Alike other) :
    (request.deploy (.given (.direct answer)) tracker).Yields world fun added result final =>
      (request.deploy source tracker).Yields other fun addedOver resultOver finalOver =>
        Mirrored endpoint other.posts added result final addedOver resultOver finalOver ∧
          postsOf addedOver = endpoint.bodiesOf other.posts (requestsOf added) ∧
          exchangesOf addedOver = exchangesOf added ∧ sleepsOf addedOver = sleepsOf added := by
  have avoids {α : Type} (result : Except Fault α) : Avoids (fun _ => False) result := by
    rintro fault _ ⟨_, _, _, impossible⟩
    exact impossible
  have begins : request.NeverBegins fun _ => False :=
    ⟨fun _ => avoids _, avoids _, avoids _, avoids _, avoids _, fun _ => id, fun _ _ _ _ => id⟩
  have related := (mirroring endpoint).relates_deploy tracker begins fun network isSelected =>
    request.relatesSources_of_reaches mirrors reaches isSelected
  apply (related world other alike).mono
  intro added result final yields
  apply yields.mono
  intro addedOver resultOver finalOver mirrored
  refine ⟨mirrored, mirrored.postsOf, ?_, ?_⟩
  · exact mirrored.filterMap (fun _ _ _ _ => ⟨rfl, rfl⟩) fun _ _ => rfl
  · exact mirrored.filterMap (fun _ _ _ _ => ⟨rfl, rfl⟩) fun _ _ => rfl

/-! ## An endpoint that never mines -/

/-- Whether a body asks for a receipt. -/
def asksReceipt : Datum → Bool
  | .object (_ :: (_, .text method) :: _) => method == "eth_getTransactionReceipt"
  | _ => false

/-- A body with a result. -/
def resultBody (result : String) : Bytes :=
  ("\x7b\"result\": " ++ result ++ "\x7d").toUTF8.data.toList

/-- An endpoint that mirrors this client. -/
def pendingEndpoint : HttpEndpoint Unit where
  url := "http://127.0.0.1:8545"
  timeout := .whole JsonRpc.standardTimeout
  post := fun posted state =>
    (.ok ⟨200, resultBody (if asksReceipt posted.body then "null" else "\"0x1\"")⟩, state)

/-- A body is read as an object with a result that passes a test and without an error. -/
theorem exists_result {body : Bytes} {test : Datum → Bool}
    (reads : (match Json.read (Text.decodeUtf8 body) with
      | .ok (.object members) => (Datum.member? members "error").isNone &&
          (Datum.member? members "result").any test
      | _ => false) = true) :
    ∃ members result, Json.read (Text.decodeUtf8 body) = .ok (.object members) ∧
      (Datum.member? members "error").getD .null = .null ∧
      Datum.member? members "result" = some result ∧ test result = true := by
  split at reads
  · next members isRead =>
    rw [Bool.and_eq_true, Option.isNone_iff_eq_none, Option.any_eq_true] at reads
    rcases reads with ⟨noError, result, isResult, isTested⟩
    exact ⟨members, result, isRead, by rw [noError]; rfl, isResult, isTested⟩
  · cases reads

/-- A datum is a given text. -/
def isText (expected : Text) : Datum → Bool
  | .text text => text == expected
  | _ => false

theorem exists_one : ∃ members,
    Json.read (Text.decodeUtf8 (resultBody "\"0x1\"")) = .ok (.object members) ∧
      (Datum.member? members "error").getD .null = .null ∧
      Datum.member? members "result" = some (.text (Text.hexQuantity 1)) := by
  rcases @exists_result (resultBody "\"0x1\"") (isText (Text.hexQuantity 1)) (by decide +kernel) with
    ⟨members, result, isRead, noError, isResult, isOne⟩
  cases result <;> simp_all [isText]

theorem exists_null : ∃ members,
    Json.read (Text.decodeUtf8 (resultBody "null")) = .ok (.object members) ∧
      (Datum.member? members "error").getD .null = .null ∧
      Datum.member? members "result" = some .null := by
  rcases @exists_result (resultBody "null") Datum.isNull (by decide +kernel) with
    ⟨members, result, isRead, noError, isResult, isNull⟩
  cases result <;> simp_all [Datum.isNull]

theorem pendingEndpoint_post (request : Request) (id : Nat) (state : Unit) :
    pendingEndpoint.post (pendingEndpoint.postOf request id) state =
      match request with
      | .transactionReceipt _ => (.ok ⟨200, resultBody "null"⟩, state)
      | _ => (.ok ⟨200, resultBody "\"0x1\""⟩, state) := by
  cases request <;>
    simp [pendingEndpoint, HttpEndpoint.postOf, JsonRpc.callBody, JsonRpc.methodOf, asksReceipt,
      Text.ofString_inj]

theorem pendingEndpoint_mirrors : pendingEndpoint.Mirrors pendingAnswer where
  waits := by decide +kernel
  answers := by
    rcases exists_one with ⟨one, isOne, noError, isResult⟩
    rcases exists_null with ⟨null, isNull, nullNoError, isNullResult⟩
    intro request id state
    rw [pendingEndpoint_post]
    cases request with
    | gasPrice => exact ⟨_, one, rfl, isOne, .replied noError isResult (.gasPrice 1)⟩
    | transactionCount address =>
        exact ⟨_, one, rfl, isOne, .replied noError isResult (.count address 1)⟩
    | blockNumber => exact ⟨_, one, rfl, isOne, .replied noError isResult (.height 1)⟩
    | sendRawTransaction raw => exact ⟨_, one, rfl, isOne, .replied noError isResult (.sent raw _)⟩
    | transactionReceipt hash =>
        exact ⟨_, null, rfl, isNull, .replied nullNoError isNullResult (.pending hash)⟩

theorem deploy_mirrors_pending :
    pendingEndpoint.Mirrors pendingAnswer ∧
      (localRequest 0).Reaches pendingEndpoint (.opened fun _ => pendingEndpoint) ∧
      (localWorld false).Alike (localWorld false) ∧
      ((localRequest 0).deploy (.given (.direct pendingAnswer)) none).Yields (localWorld false)
        fun added result final =>
          ((localRequest 0).deploy (.opened fun _ => pendingEndpoint) none).Yields (localWorld false)
            fun addedOver resultOver finalOver =>
              Mirrored pendingEndpoint 0 added result final addedOver resultOver finalOver ∧
                postsOf addedOver = pendingEndpoint.bodiesOf 0 (requestsOf added) ∧
                exchangesOf addedOver = exchangesOf added ∧ sleepsOf addedOver = sleepsOf added := by
  have reaches : (localRequest 0).Reaches pendingEndpoint (.opened fun _ => pendingEndpoint) :=
    fun _ _ => rfl
  exact ⟨pendingEndpoint_mirrors, reaches, .refl _,
    (localRequest 0).deploy_mirrors none pendingEndpoint_mirrors reaches (.refl _)⟩

end DeploymentRequest

end WasmDeploy
