import WasmDeploy.Json.Reader
import WasmDeploy.Receipt.Decode
import WasmDeploy.Text.Utf8
import WasmDeploy.World

/-!
# JSON-RPC

This file makes a call to an endpoint over HTTP: the body that is posted and the result, or the failure, that
the answer stands for. An error member of the answer is reported whatever the HTTP status is; only then the
status counts, and only then the shape of the answer.
-/

namespace WasmDeploy

/-- What is posted to an endpoint. -/
structure HttpRequest where
  url : String
  body : Datum
  timeout : Measure
deriving Inhabited

/-- What an endpoint sends back. -/
structure HttpResponse where
  status : Int
  body : Bytes
deriving DecidableEq, Repr, Inhabited

/-- The outcome of a post: the words of a failure on the way, or what came back. -/
abbrev HttpOutcome := Except String HttpResponse

/-- An endpoint over HTTP: its URL, how long a post may take, and what it does with a post. -/
structure HttpEndpoint (σ : Type) where
  url : String
  timeout : Measure
  post : HttpRequest → σ → HttpOutcome × σ

namespace JsonRpc

/-- How long a post may take unless said otherwise. -/
def standardTimeout : Int := 30

/-- The body of a call. -/
def callBody (method : String) (parameters : Datum) (id : Nat) : Datum :=
  .object [("jsonrpc", .text "2.0"), ("method", .text method), ("params", parameters),
    ("id", .int id)]

/-- The failure that an error member stands for. -/
def errorOf (method : String) (error : Datum) : Failure :=
  match error with
  | .object members =>
      let member (key : Text) := (Datum.member? members key).getD .null
      .rpc {
        method := .text method
        code := member "code"
        message := .text ((Datum.member? members "message").getD (.text "")).wording
        data := member "data" }
  | other =>
      .rpc { method := .text method, code := .null, message := .text other.wording, data := .null }

/-- The result that a decoded answer with a status holds. -/
def resultOfAnswer (method : String) (status : Int) (answer : Datum) : Except Fault Datum :=
  match answer with
  | .object members =>
      match (Datum.member? members "error").getD .null with
      | .null =>
          if status ≠ 200 then fail (.httpStatus method status)
          else
            match Datum.member? members "result" with
            | some result => .ok result
            | none => fail (.answerWithoutResult method)
      | error => fail (errorOf method error)
  | _ => if status ≠ 200 then fail (.httpStatus method status) else fail (.answerNotObject method)

/-- The result that the outcome of a post holds. -/
def resultOf (method : String) (outcome : HttpOutcome) : Except Fault Datum :=
  match outcome with
  | .error text => fail (.transport method text)
  | .ok response =>
      match Json.read (Text.decodeUtf8 response.body) with
      | .ok answer => resultOfAnswer method response.status answer
      | .error (.tooDeep container) => reject (.nestedTooDeep container.name)
      | .error .malformed =>
          if response.status ≠ 200 then fail (.httpStatus method response.status)
          else fail (.bodyNotJson method)

/-- The hash that a result gives. -/
def hashOf (result : Datum) : Except Fault Datum :=
  match result with
  | .text _ => .ok result
  | other => fail (.hashNotText other)

/-- The receipt that a result gives; null stands for a pending transaction. -/
def receiptOf (result : Datum) : Except Fault (Option Receipt) :=
  match result with
  | .null => .ok none
  | other => (Receipt.decode other).map some

/-- The method of a request. -/
def methodOf : Request → String
  | .gasPrice => "eth_gasPrice"
  | .transactionCount _ => "eth_getTransactionCount"
  | .sendRawTransaction _ => "eth_sendRawTransaction"
  | .transactionReceipt _ => "eth_getTransactionReceipt"
  | .blockNumber => "eth_blockNumber"

/-- The parameters of a request. -/
def parametersOf : Request → List Datum
  | .gasPrice | .blockNumber => []
  | .transactionCount address => [address, .text "pending"]
  | .sendRawTransaction raw => [.text (Text.hexData raw)]
  | .transactionReceipt hash => [hash]

/-- The reply to a request that a result gives. -/
def replyOf (request : Request) (result : Datum) : Except Fault request.Reply :=
  match request with
  | .gasPrice => (Quantity.decode "gasPrice" result).map .int
  | .transactionCount _ => (Quantity.decode "nonce" result).map .int
  | .sendRawTransaction _ => hashOf result
  | .transactionReceipt _ => receiptOf result
  | .blockNumber => (Quantity.decode "blockNumber" result).map .int

variable {σ : Type}

/-- The number of the next call. The calls of a session are numbered from one. -/
def nextId : Run σ Nat := do
  let id := (← get).posts + 1
  modify fun world => { world with posts := id }
  return id

/-- Checks that a post may be made. It cannot wait longer than a binary64 number can say. -/
def checkTimeout (timeout : Measure) : Except Fault Unit :=
  if timeout.toFloat?.isSome then .ok () else reject .beyondFloat

/-- Makes a post and gives the result that its outcome holds. -/
def send (endpoint : HttpEndpoint σ) (method : String) (request : HttpRequest) : Run σ Datum := do
  Run.record (.post request.url request.body request.timeout)
  Run.passCall
  Run.answer fun state =>
    let (outcome, state) := endpoint.post request state
    (resultOf method outcome, state)

/-- Makes a call. -/
def call (endpoint : HttpEndpoint σ) (method : String) (parameters : Datum) :
    Run σ Datum := do
  let id ← nextId
  Run.log .debug .endpoint (.ok s!"RPC {method} -> {endpoint.url} (id={id})")
  (checkTimeout endpoint.timeout : Except Fault _)
  send endpoint method ⟨endpoint.url, callBody method parameters id, endpoint.timeout⟩

/-- Makes a request. -/
def ask (endpoint : HttpEndpoint σ) (request : Request) : Run σ request.Reply := do
  let result ← call endpoint (methodOf request) (.list (parametersOf request))
  replyOf request result

end JsonRpc

end WasmDeploy
