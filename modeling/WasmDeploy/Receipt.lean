import WasmDeploy.Datum

/-!
# Receipts and tracking states

This file gives the record a network keeps of a mined deployment and the states a submitted deployment goes
through while it is tracked.
-/

namespace WasmDeploy

/-- How a mined transaction was executed. -/
inductive ReceiptStatus where
  | success
  | reverted
deriving DecidableEq, Repr, Inhabited

/-- The word for a status. -/
def ReceiptStatus.word : ReceiptStatus → String
  | .success => "success"
  | .reverted => "reverted"

/-- The record of a deployment transaction. Its parts are kept as the client gives them, null standing for
what is not known. A record without a block number belongs to a transaction that is still pending. -/
structure Receipt where
  txHash : Datum
  status : ReceiptStatus
  contractAddress : Datum
  gasUsed : Datum
  effectiveGasPrice : Datum
  blockNumber : Datum
  eventCount : Datum
deriving Inhabited

/-- Whether the transaction was executed in full. -/
def Receipt.succeeded (receipt : Receipt) : Bool :=
  receipt.status == .success

/-- The state of confirmation tracking: submitted, included, finalized and success on the way to a
confirmed deployment, reverted and timed out as the ends of the other ways. -/
inductive TrackingState where
  | submitted
  | included
  | finalized
  | success
  | reverted
  | timedOut
deriving DecidableEq, Repr, Inhabited

namespace TrackingState

/-- The word for a state. -/
def word : TrackingState → String
  | .submitted => "submitted"
  | .included => "included"
  | .finalized => "finalized"
  | .success => "success"
  | .reverted => "reverted"
  | .timedOut => "timed_out"

/-- The name of a state in a message. -/
def label (state : TrackingState) : String :=
  "TrackingState." ++ state.word.toUpper

end TrackingState

end WasmDeploy
