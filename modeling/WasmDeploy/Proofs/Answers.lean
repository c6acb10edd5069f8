import WasmDeploy.Proofs.Conversation
import WasmDeploy.Proofs.Quantity
import WasmDeploy.Proofs.Results

/-!
# Answers over HTTP

This file says what can come of a request over HTTP, whatever the endpoint sends back. A request ends with a reply
of the kind it declares or with a failure of the network, but for two sorts of answers: one that is nested too
deep to be read, and a receipt that is in order up to its logs, whose logs are neither missing nor countable.
-/

namespace WasmDeploy

variable {α β : Type}

/-! ## Replies of the declared kind -/

/-- A quantity that may be unknown: null, or a number that is not below zero. -/
def Datum.IsQuantity (value : Datum) : Prop :=
  value = .null ∨ ∃ number : Nat, value = .int number

/-- A receipt whose numbers are quantities. Its events are always counted. -/
structure Receipt.HasQuantities (receipt : Receipt) : Prop where
  gasUsed : receipt.gasUsed.IsQuantity
  effectiveGasPrice : receipt.effectiveGasPrice.IsQuantity
  blockNumber : receipt.blockNumber.IsQuantity
  eventCount : ∃ number : Nat, receipt.eventCount = .int number

/-- A reply is of the kind that a request declares. -/
inductive Request.Declares : (request : Request) → request.Reply → Prop where
  | gasPrice (price : Nat) : Declares .gasPrice (.int price)
  | count (address : Datum) (count : Nat) : Declares (.transactionCount address) (.int count)
  | height (height : Nat) : Declares .blockNumber (.int height)
  | sent (raw : Bytes) (hash : Text) : Declares (.sendRawTransaction raw) (.text hash)
  | pending (hash : Datum) : Declares (.transactionReceipt hash) none
  | mined (hash : Datum) {receipt : Receipt} (quantities : receipt.HasQuantities) :
      Declares (.transactionReceipt hash) (some receipt)

/-- A result is a value as declared or a failure of the network. -/
inductive Answered (declared : α → Prop) : Except Fault α → Prop where
  | value {value : α} (isDeclared : declared value) : Answered declared (.ok value)
  | failure {cause : Failure} (isNetwork : cause.kind.isNetwork = true) :
      Answered declared (.error (.of cause))

namespace Answered

variable {declared : α → Prop} {declaredNext : β → Prop}

/-- What follows a result may be spoilt in some way of its own. -/
theorem bind_or {result : Except Fault α} {next : α → Except Fault β} {spoilt : Prop}
    (answered : Answered declared result)
    (nextCases : ∀ value, declared value → result = .ok value →
      Answered declaredNext (next value) ∨ spoilt) :
    Answered declaredNext (result >>= next) ∨ spoilt := by
  cases answered with
  | value isDeclared => exact nextCases _ isDeclared rfl
  | failure isNetwork => exact Or.inl (.failure isNetwork)

theorem map {result : Except Fault α} {change : α → β} (answered : Answered declared result)
    (declares : ∀ value, declared value → declaredNext (change value)) :
    Answered declaredNext (result.map change) := by
  cases answered with
  | value isDeclared => exact .value (declares _ isDeclared)
  | failure isNetwork => exact .failure isNetwork

end Answered

/-! ## Results -/

theorem Quantity.answered_decode (field : String) {value : Datum} (showable : value.isShowable = true) :
    Answered (fun number : Int => ∃ natural : Nat, number = natural) (decode field value) := by
  unfold decode
  split
  · split
    · split
      · next number _ => exact .value ⟨number, rfl⟩
      · exact .failure rfl
    · exact .failure rfl
  · rw [Datum.refuse, if_pos showable]
    exact .failure rfl

theorem Quantity.answered_decodeOptional (field : String) {value : Datum}
    (showable : value.isShowable = true) : Answered Datum.IsQuantity (decodeOptional field value) := by
  unfold decodeOptional
  split
  · exact .value (Or.inl rfl)
  · apply (answered_decode field showable).map
    rintro _ ⟨natural, rfl⟩
    exact Or.inr ⟨natural, rfl⟩

/-- A value that counts as given but has no items to count. -/
inductive Datum.IsUncountable : Datum → Prop where
  | bool : IsUncountable (.bool true)
  | int {value : Int} (given : value ≠ 0) : IsUncountable (.int value)
  | float {value : Float} (given : (value != 0.0) = true) : IsUncountable (.float value)

/-- The members of a receipt are in order up to its logs, and these are no logs. -/
structure Receipt.SpoiltLogs (members : List (Text × Datum)) : Prop where
  hash : ∃ hash, Datum.member? members "transactionHash" = some hash
  status : ∃ code,
    Quantity.decode "status" ((Datum.member? members "status").getD .null) = .ok code
  gasUsed : ∃ value,
    Quantity.decodeOptional "gasUsed" ((Datum.member? members "gasUsed").getD .null) = .ok value
  effectiveGasPrice : ∃ value, Quantity.decodeOptional "effectiveGasPrice"
    ((Datum.member? members "effectiveGasPrice").getD .null) = .ok value
  blockNumber : ∃ value, Quantity.decodeOptional "blockNumber"
    ((Datum.member? members "blockNumber").getD .null) = .ok value
  logs : ((Datum.member? members "logs").getD .null).IsUncountable

namespace Receipt

theorem countEvents_cases (logs : Datum) :
    (∃ count : Nat, countEvents logs = .ok count) ∨ logs.IsUncountable := by
  cases logs with
  | text value => exact Or.inl ⟨value.length, rfl⟩
  | bytes value => exact Or.inl ⟨value.length, rfl⟩
  | list items => exact Or.inl ⟨items.length, rfl⟩
  | object members => exact Or.inl ⟨members.length, rfl⟩
  | null => exact Or.inl ⟨0, rfl⟩
  | bool value =>
      cases value with
      | false => exact Or.inl ⟨0, rfl⟩
      | true => exact Or.inr .bool
  | int value =>
      by_cases given : value = 0
      · exact Or.inl ⟨0, by simp [countEvents, Datum.isTruthy, given]⟩
      · exact Or.inr (.int given)
  | float value =>
      by_cases given : (value != 0.0) = true
      · exact Or.inr (.float given)
      · exact Or.inl ⟨0, by simp only [countEvents, Datum.isTruthy, given]; rfl⟩

theorem countEvents_of_isUncountable {logs : Datum} (uncountable : logs.IsUncountable) :
    countEvents logs = reject (.unsized logs.kindName) := by
  cases uncountable with
  | bool => rfl
  | int given => simp [countEvents, Datum.isTruthy, given]
  | float given => simp only [countEvents, Datum.isTruthy, given, if_true]

/-- A receipt is read with its quantities, or refused as the endpoint's fault, unless its logs are spoilt. -/
theorem decode_cases {members : List (Text × Datum)} (showable : Datum.areShowableMembers members = true) :
    Answered HasQuantities (decode (.object members)) ∨ SpoiltLogs members := by
  have each := Datum.isShowable_getD_member? showable
  simp only [decode]
  split
  · next hash isHash =>
    split
    · exact Or.inl (.failure rfl)
    apply (Quantity.answered_decode _ (each _)).bind_or
    intro code _ status
    apply (Quantity.answered_decodeOptional _ (each _)).bind_or
    intro gasUsed isGas gasRead
    apply (Quantity.answered_decodeOptional _ (each _)).bind_or
    intro price isPrice priceRead
    apply (Quantity.answered_decodeOptional _ (each _)).bind_or
    intro block isBlock blockRead
    rcases countEvents_cases ((Datum.member? members "logs").getD .null) with
      ⟨count, counted⟩ | uncountable
    · rw [counted]
      exact Or.inl (.value ⟨isGas, isPrice, isBlock, count, rfl⟩)
    · exact Or.inr ⟨⟨hash, isHash⟩, ⟨code, status⟩, ⟨gasUsed, gasRead⟩, ⟨price, priceRead⟩,
        ⟨block, blockRead⟩, uncountable⟩
  · exact Or.inl (.failure rfl)

theorem SpoiltLogs.decode {members : List (Text × Datum)} (spoilt : SpoiltLogs members) :
    decode (.object members) =
      reject (.unsized ((Datum.member? members "logs").getD .null).kindName) := by
  rcases spoilt with ⟨⟨hash, isHash⟩, ⟨code, status⟩, ⟨gasUsed, gasRead⟩, ⟨price, priceRead⟩,
    ⟨block, blockRead⟩, uncountable⟩
  have given : ((Datum.member? members "status").getD .null).isNull = false := by
    cases isStatus : (Datum.member? members "status").getD .null with
    | null => simp [isStatus, Quantity.decode, Datum.refuse, Datum.isShowable, fail] at status
    | _ => rfl
  simp only [Receipt.decode, isHash, given, status, gasRead, priceRead, blockRead,
    countEvents_of_isUncountable uncountable, reject, bind, Except.bind, Bool.false_eq_true, if_false]

end Receipt

/-! ## What an outcome comes to -/

namespace JsonRpc

/-- What comes of a request if a post of it has some outcome. -/
def heard (request : Request) (outcome : HttpOutcome) : Except Fault request.Reply :=
  resultOf (methodOf request) outcome >>= replyOf request

/-- An outcome makes a request end with a defect: its body is nested too deep, or it is a receipt whose logs are
spoilt. -/
inductive Spoils (request : Request) (outcome : HttpOutcome) : Defect → Prop where
  | nested {response : HttpResponse} {container : Json.Container} (isResponse : outcome = .ok response)
      (tooDeep : Json.read (Text.decodeUtf8 response.body) = .error (.tooDeep container)) :
      Spoils request outcome (.nestedTooDeep container.name)
  | logs {hash : Datum} {members : List (Text × Datum)}
      (isReceipt : request = .transactionReceipt hash)
      (isResult : resultOf (methodOf request) outcome = .ok (.object members))
      (spoilt : Receipt.SpoiltLogs members) :
      Spoils request outcome (.unsized ((Datum.member? members "logs").getD .null).kindName)

theorem resultOf_cases (request : Request) (outcome : HttpOutcome) :
    Answered (fun _ => True) (resultOf (methodOf request) outcome) ∨
      ∃ defect, Spoils request outcome defect := by
  have comesTo := comesTo_resultOf (methodOf request) outcome
  generalize resultOf (methodOf request) outcome = result at comesTo ⊢
  cases comesTo with
  | nested isDeep => exact Or.inr ⟨_, .nested rfl isDeep⟩
  | answered => exact Or.inl (.value trivial)
  | _ => exact Or.inl (.failure rfl)

theorem answered_number {declared : Datum → Prop} (field : String) {result : Datum}
    (showable : result.isShowable = true) (declares : ∀ number : Nat, declared (.int number)) :
    Answered declared ((Quantity.decode field result).map .int) := by
  apply (Quantity.answered_decode field showable).map
  rintro _ ⟨number, rfl⟩
  exact declares number

theorem replyOf_cases {request : Request} {outcome : HttpOutcome} {result : Datum}
    (isResult : resultOf (methodOf request) outcome = .ok result) :
    Answered request.Declares (replyOf request result) ∨ ∃ defect, Spoils request outcome defect := by
  have showable := isShowable_of_resultOf isResult
  cases request with
  | gasPrice => exact Or.inl (answered_number _ showable .gasPrice)
  | transactionCount address => exact Or.inl (answered_number _ showable (.count address))
  | blockNumber => exact Or.inl (answered_number _ showable .height)
  | sendRawTransaction raw =>
      cases result with
      | text hash => exact Or.inl (.value (.sent raw hash))
      | _ => exact Or.inl (.failure rfl)
  | transactionReceipt hash =>
      cases result with
      | null => exact Or.inl (.value (.pending hash))
      | object members =>
          rw [Datum.isShowable] at showable
          rcases Receipt.decode_cases showable with answered | spoilt
          · exact Or.inl (answered.map fun _ quantities => .mined hash quantities)
          · exact Or.inr ⟨_, .logs rfl isResult spoilt⟩
      | _ => exact Or.inl (.failure rfl)

theorem heard_cases (request : Request) (outcome : HttpOutcome) :
    Answered request.Declares (heard request outcome) ∨ ∃ defect, Spoils request outcome defect := by
  rcases resultOf_cases request outcome with answered | spoils
  · exact answered.bind_or fun _ _ isResult => replyOf_cases isResult
  · exact Or.inr spoils

theorem Spoils.heard {request : Request} {outcome : HttpOutcome} {defect : Defect}
    (spoils : Spoils request outcome defect) : heard request outcome = .error (.defect defect) := by
  cases spoils with
  | nested isResponse tooDeep =>
      subst isResponse
      rw [JsonRpc.heard, (ComesTo.nested tooDeep).eq]
      rfl
  | logs isReceipt isResult spoilt =>
      subst isReceipt
      simp only [JsonRpc.heard, isResult]
      show (Receipt.decode _).map some = _
      rw [spoilt.decode]
      rfl

/-- A request ends with a defect exactly for the outcomes that spoil it. -/
theorem heard_eq_defect_iff {request : Request} {outcome : HttpOutcome} {defect : Defect} :
    heard request outcome = .error (.defect defect) ↔ Spoils request outcome defect := by
  constructor
  · intro isDefect
    -- What spoils a request fixes the defect that it ends with, so no two defects fit one outcome.
    rcases heard_cases request outcome with answered | ⟨other, spoils⟩
    · rw [isDefect] at answered
      cases answered
    · have same := isDefect.symm.trans spoils.heard
      cases same
      exact spoils
  · exact Spoils.heard

/-- A request is answered exactly if what comes back does not spoil it. -/
theorem answered_heard_iff {request : Request} {outcome : HttpOutcome} :
    Answered request.Declares (heard request outcome) ↔ ¬∃ defect, Spoils request outcome defect := by
  constructor
  · rintro answered ⟨defect, spoils⟩
    rw [spoils.heard] at answered
    cases answered
  · exact (heard_cases request outcome).resolve_right

end JsonRpc

/-! ## Requests over HTTP -/

variable {σ : Type}

/-- What is posted for a request. -/
def HttpEndpoint.postOf (endpoint : HttpEndpoint σ) (request : Request) (id : Nat) : HttpRequest where
  url := endpoint.url
  body := JsonRpc.callBody (JsonRpc.methodOf request) (.list (JsonRpc.parametersOf request)) id
  timeout := endpoint.timeout

/-- What is recorded of a request before it is posted. -/
def HttpEndpoint.lineOf (endpoint : HttpEndpoint σ) (request : Request) (id : Nat) : Event :=
  .log .debug .endpoint (.ok s!"RPC {JsonRpc.methodOf request} -> {endpoint.url} (id={id})")

/-- What is recorded of a request when it is posted. -/
def HttpEndpoint.postingOf (endpoint : HttpEndpoint σ) (request : Request) (id : Nat) : Event :=
  .post endpoint.url (endpoint.postOf request id).body endpoint.timeout

/-- The ends of carrying a request out over HTTP: without a post if no post can wait as long as the endpoint asks
for, without an end that the clock can show, or with what comes of the outcome of the post. -/
inductive HttpEndpoint.Performed (endpoint : HttpEndpoint σ) (request : Request) (world : World σ) :
    List Entry → Except Fault request.Reply → World σ → Prop where
  | unposted {final : World σ} (endless : endpoint.timeout.toFloat? = none) :
      Performed endpoint request world
        [⟨world.now, world.tracking, endpoint.lineOf request (world.posts + 1)⟩]
        (.error (.defect .beyondFloat)) final
  | unfinished {final : World σ} (stuck : world.elapse world.calls world.now = none)
      (alike : world.Alike final) (posts : final.posts = world.posts + 1) :
      Performed endpoint request world
        [⟨world.now, world.tracking, endpoint.lineOf request (world.posts + 1)⟩,
          ⟨world.now, world.tracking, endpoint.postingOf request (world.posts + 1)⟩]
        (.error (.defect .beyondFloat)) final
  | heard {finish : Measure} {final : World σ}
      (shown : world.elapse world.calls world.now = some finish)
      (alike : (world.afterPost finish
        (endpoint.post (endpoint.postOf request (world.posts + 1)) world.endpoint).2).Alike final)
      (posts : final.posts = world.posts + 1) :
      Performed endpoint request world
        [⟨world.now, world.tracking, endpoint.lineOf request (world.posts + 1)⟩,
          ⟨world.now, world.tracking, endpoint.postingOf request (world.posts + 1)⟩]
        (JsonRpc.heard request
          (endpoint.post (endpoint.postOf request (world.posts + 1)) world.endpoint).1) final

namespace Client

open Run

theorem performed_yields (endpoint : HttpEndpoint σ) (request : Request) (world : World σ) :
    ((Client.http endpoint).perform request).Yields world (endpoint.Performed request world) := by
  apply yields_bind
  apply (called_yields endpoint _ _ world).mono
  intro added result final called
  cases called with
  | unposted endless => exact .unposted endless
  | unfinished stuck alike posts => exact .unfinished stuck alike posts
  | heard shown isResult alike posts =>
      have performed := @HttpEndpoint.Performed.heard σ endpoint request world _ final shown alike posts
      have isHeard : JsonRpc.heard request
          (endpoint.post (endpoint.postOf request (world.posts + 1)) world.endpoint).1 =
            (result >>= JsonRpc.replyOf request) := by
        rw [← isResult]
        rfl
      rw [isHeard] at performed
      cases result with
      | error fault => exact performed
      | ok result => exact yields_lift performed

/-- A request over HTTP ends with a reply of the kind it declares or with a failure of the network exactly if what
comes back of its post does not spoil it, and ends with a defect exactly as it is spoilt; unless no post can wait
as long as the endpoint asks for, or the clock cannot show when it is over. -/
theorem ask_answered_iff (endpoint : HttpEndpoint σ) (request : Request) (world : World σ) :
    ((Client.http endpoint).ask request).Yields world fun _ result _ =>
      (endpoint.timeout.toFloat? = none ∨ world.elapse world.calls world.now = none) ∧
          result = .error (.defect .beyondFloat) ∨
        let outcome := (endpoint.post (endpoint.postOf request (world.posts + 1)) world.endpoint).1
        (Answered request.Declares result ↔ ¬∃ defect, JsonRpc.Spoils request outcome defect) ∧
          ∀ defect, result = .error (.defect defect) ↔ JsonRpc.Spoils request outcome defect := by
  apply yields_record_bind
  apply yields_noting
  apply (performed_yields endpoint request _).mono
  intro added result final performed
  cases performed with
  | unposted endless => exact Or.inl ⟨Or.inl endless, rfl⟩
  | unfinished stuck => exact Or.inl ⟨Or.inr stuck, rfl⟩
  | heard => exact Or.inr ⟨JsonRpc.answered_heard_iff, fun _ => JsonRpc.heard_eq_defect_iff⟩

/-- An endpoint that answers with a receipt whose logs are a number. -/
def miscounting : HttpEndpoint Unit where
  url := "http://127.0.0.1:8545"
  timeout := .whole JsonRpc.standardTimeout
  post := fun _ state =>
    let receipt := "\x7b\"transactionHash\": \"0xaa\", \"status\": \"0x1\", \"logs\": 5\x7d"
    (.ok ⟨200, ("\x7b\"result\": " ++ receipt ++ "\x7d").toUTF8.data.toList⟩, state)

/-- A receipt over HTTP need not end with a failure of the network if it does not end with a reply. -/
theorem exists_unanswered :
    ¬Answered (Request.transactionReceipt (.text "0xaa")).Declares
      (((Client.http miscounting).ask (.transactionReceipt (.text "0xaa"))).outcome
        (.steady 0 1)).1 := by
  intro answered
  have spoilt : (match (((Client.http miscounting).ask (.transactionReceipt (.text "0xaa"))).outcome
      (.steady 0 1)).1 with
    | .error (.defect (.unsized kind)) => kind == "int"
    | _ => false) = true := by
    decide +kernel
  generalize (((Client.http miscounting).ask (.transactionReceipt (.text "0xaa"))).outcome
    (.steady 0 1)).1 = result at answered spoilt
  cases answered <;> cases spoilt

end Client

end WasmDeploy
