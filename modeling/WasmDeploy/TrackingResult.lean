import WasmDeploy.Fault

/-!
# Results of tracking

This file gives a deployment that an endpoint has accepted and the outcome of tracking it to a block.
-/

namespace WasmDeploy

/-- A transaction that an endpoint has accepted but that is not known to be mined yet. -/
structure PendingDeployment where
  txHash : Datum
  gasLimit : Datum
deriving Inhabited

/-- The outcome of tracking a deployment that has reached a block. The confirmations are the depth at which
tracking ended. -/
structure TrackingResult where
  state : TrackingState
  receipt : Receipt
  gasLimit : Datum
  confirmations : Datum
  gasLimitReached : Bool
deriving Inhabited

end WasmDeploy
