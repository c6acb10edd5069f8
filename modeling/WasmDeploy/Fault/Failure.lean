import WasmDeploy.FileError
import WasmDeploy.Network
import WasmDeploy.Receipt

/-!
# Failures of a deployment

This file gives everything that can go wrong in a deployment as far as the deployment itself foresees it:
the cause, the kind of failure it is, the stage it belongs to and the message that reports it.
-/

namespace WasmDeploy

/-- The kinds of failures, a kind for each thing a caller may want to tell apart. -/
inductive FailureKind where
  | general
  | validation
  | artifact
  | privateKey
  | configuration
  | network
  | rpc
  | malformedReply
  | deployment
  | artifactMissing
  | submissionRejected
  | reverted
  | cancelled
  | timedOut
deriving DecidableEq, Repr, Inhabited

namespace FailureKind

/-- The stage of a deployment that a kind of failure belongs to. -/
def stage : FailureKind → String
  | .general | .deployment => "deployment"
  | .validation => "validation"
  | .artifact | .artifactMissing => "artifact validation"
  | .privateKey => "wallet"
  | .configuration => "network configuration"
  | .network | .rpc | .malformedReply => "network"
  | .submissionRejected => "submission"
  | .reverted => "execution"
  | .cancelled | .timedOut => "confirmation"

/-- Whether a failure is due to bad local input. -/
def isValidation : FailureKind → Bool
  | .validation | .artifact | .privateKey => true
  | _ => false

/-- Whether a failure is due to the endpoint or the way to it. -/
def isNetwork : FailureKind → Bool
  | .network | .rpc | .malformedReply => true
  | _ => false

end FailureKind

/-- The parameters of a transaction that are checked to be unsigned 64-bit integers. -/
inductive GasParameter where
  | limit
  | price
deriving DecidableEq, Repr

/-- The name of a gas parameter. -/
def GasParameter.name : GasParameter → String
  | .limit => "gas limit"
  | .price => "gas price"

/-- The error member of an endpoint's answer to a method. -/
structure RpcError where
  method : Datum
  code : Datum
  message : Datum
  data : Datum
deriving Inhabited

/-- The causes of a failure. -/
inductive Failure where
  | gasNotInteger (parameter : GasParameter) (value : Datum)
  | gasOutOfRange (parameter : GasParameter) (value : Int)
  | gasLimitZero
  | artifactUnreadable (path : String) (error : FileError)
  | artifactWithoutMagic (path : String)
  | artifactMissing (path : String)
  | keyNotText
  | keyMalformed
  | keyTooLarge
  | unknownNetwork (name : Datum)
  | bothPresets
  | presetAndCustom
  | networkUnspecified
  | customIncomplete
  | endpointInvalid (url : Datum)
  | chainIdNotInteger (value : Datum)
  | chainIdOutOfRange (value : Int)
  | settingNotInteger (setting : String) (raw : Datum)
  | settingOutOfRange (setting : String) (value : Int)
  | settingNotSeconds (setting : String) (raw : Datum)
  | settingNotPositive (setting : String) (value : Float)
  | settingUnknown (name : String)
  | keyUnset
  | timeoutNotPositive (value : Datum)
  | intervalNotPositive (value : Datum)
  | confirmationsNegative (value : Datum)
  | transport (method text : String)
  | httpStatus (method : String) (status : Int)
  | bodyNotJson (method : String)
  | rpc (error : RpcError)
  | answerNotObject (method : String)
  | answerWithoutResult (method : String)
  | hashNotText (value : Datum)
  | quantityExpected (field : String) (value : Datum)
  | quantityInvalid (field : String) (text : Text)
  | receiptNotObject (kind : String)
  | receiptWithoutHash
  | receiptWithoutStatus (hash : Datum)
  | chainMismatch (transaction identity : Datum)
  | rejected (message : Datum)
  | executionReverted (hash block : Datum) (gasLimitReached : Bool)
  | cancelled (hash : Datum)
  | timedOut (hash : Datum) (timeout : Measure) (receipt : Option Receipt)
  /-- A failure that a client reports in its own words. -/
  | reported (kind : FailureKind) (text : String)
deriving Inhabited

namespace Failure

/-- The kind of a failure. -/
def kind : Failure → FailureKind
  | .gasNotInteger .. | .gasOutOfRange .. | .gasLimitZero => .validation
  | .artifactUnreadable .. | .artifactWithoutMagic .. => .artifact
  | .artifactMissing .. => .artifactMissing
  | .keyNotText | .keyMalformed | .keyTooLarge => .privateKey
  | .unknownNetwork .. | .bothPresets | .presetAndCustom | .networkUnspecified | .customIncomplete
  | .endpointInvalid .. | .chainIdNotInteger .. | .chainIdOutOfRange .. | .settingNotInteger ..
  | .settingOutOfRange .. | .settingNotSeconds .. | .settingNotPositive .. | .settingUnknown ..
  | .keyUnset | .timeoutNotPositive .. | .intervalNotPositive .. | .confirmationsNegative .. =>
      .configuration
  | .transport .. | .httpStatus .. | .bodyNotJson .. => .network
  | .rpc .. => .rpc
  | .answerNotObject .. | .answerWithoutResult .. | .hashNotText .. | .quantityExpected ..
  | .quantityInvalid .. | .receiptNotObject .. | .receiptWithoutHash | .receiptWithoutStatus .. =>
      .malformedReply
  | .chainMismatch .. => .deployment
  | .rejected .. => .submissionRejected
  | .executionReverted .. => .reverted
  | .cancelled .. => .cancelled
  | .timedOut .. => .timedOut
  | .reported kind _ => kind

/-- The stage of a deployment that a failure belongs to. -/
def stage (failure : Failure) : String :=
  failure.kind.stage

/-- How far a deployment that timed out had come. -/
def progressText : Option Receipt → String
  | none => "no receipt"
  | some receipt => s!"included in block {receipt.blockNumber.plain} but not confirmed"

/-- The message that reports a failure. -/
def message : Failure → String
  | .gasNotInteger parameter value =>
      s!"The {parameter.name} must be an integer, got {value.quoted}"
  | .gasOutOfRange parameter value => s!"The {parameter.name} is out of range: {value}"
  | .gasLimitZero => "Gas limit must be greater than zero"
  | .artifactUnreadable path error =>
      s!"Failed to read WASM file {path}: {error.message path}"
  | .artifactWithoutMagic path => s!"Invalid WASM file {path}: missing magic number"
  | .artifactMissing path => s!"WASM file not found: {path}"
  | .keyNotText => "Private key must be a hex string"
  | .keyMalformed => "Private key must be 32 bytes (64 hex characters) long"
  | .keyTooLarge => "Invalid private key format: Exception"
  | .unknownNetwork name =>
      let supported := Datum.list (Network.presets.map fun preset => .text preset.name)
      s!"Unknown network: {name.plain}. Supported: {supported.quoted}"
  | .bothPresets => "Specify only one of --local or --dev, not both"
  | .presetAndCustom =>
      "Specify either a preset (--local or --dev) or both --rpc and --chain-id, not both"
  | .networkUnspecified =>
      "Network not specified. Use --local, --dev, or both --rpc and --chain-id"
  | .customIncomplete => "A custom network needs both --rpc and --chain-id"
  | .endpointInvalid url => s!"Invalid RPC endpoint URL: {url.quoted}"
  | .chainIdNotInteger value => s!"Chain ID must be an integer, got {value.quoted}"
  | .chainIdOutOfRange value => s!"Chain ID out of range: {value}"
  | .settingNotInteger setting raw => s!"{setting} must be an integer, got {raw.quoted}"
  | .settingOutOfRange setting value => s!"{setting} is out of range: {value}"
  | .settingNotSeconds setting raw =>
      s!"{setting} must be a number of seconds, got {raw.quoted}"
  | .settingNotPositive setting value =>
      s!"{setting} must be positive, got {Number.shortestText value}"
  | .settingUnknown name => s!"Unknown deployment setting: {name}"
  | .keyUnset => "Private key required: set $DEPLOY_PRIVATE_KEY or pass private_key"
  | .timeoutNotPositive value => s!"Confirmation timeout must be positive, got {value.plain}"
  | .intervalNotPositive value => s!"Poll interval must be positive, got {value.plain}"
  | .confirmationsNegative value => s!"Confirmations must be non-negative, got {value.plain}"
  | .transport method text => s!"Network error during {method} call: {text}"
  | .httpStatus method status => s!"RPC request {method} failed with status {status}"
  | .bodyNotJson method => s!"RPC response to {method} is not valid JSON"
  | .rpc error => s!"RPC error {error.code.plain} in {error.method.plain}: {error.message.plain}"
  | .answerNotObject method => s!"RPC response to {method} is not an object"
  | .answerWithoutResult method => s!"RPC response to {method} has no result"
  | .hashNotText value => s!"Expected transaction hash, got {value.quoted}"
  | .quantityExpected field value => s!"Expected hex quantity for {field}, got {value.quoted}"
  | .quantityInvalid field text => s!"Invalid hex quantity for {field}: {Text.quoted text}"
  | .receiptNotObject kind => s!"Expected receipt object, got {kind}"
  | .receiptWithoutHash => "Receipt is missing transactionHash"
  | .receiptWithoutStatus hash => s!"Receipt for {hash.plain} is missing status"
  | .chainMismatch transaction identity =>
      s!"Transaction chain ID {transaction.plain} does not match " ++
        s!"signing identity chain ID {identity.plain}"
  | .rejected message => s!"Failed to send transaction: {message.plain}"
  | .executionReverted hash block gasLimitReached =>
      s!"Transaction {hash.plain} reverted in block {block.plain}" ++
        (if gasLimitReached then " (gas limit reached)" else "")
  | .cancelled hash => s!"Confirmation tracking of {hash.plain} was cancelled"
  | .timedOut hash timeout receipt =>
      s!"Transaction {hash.plain} confirmation timed out after " ++
        s!"{Number.sixDigitText timeout.toFloat}s ({progressText receipt})"
  | .reported _ text => text

end Failure

end WasmDeploy
