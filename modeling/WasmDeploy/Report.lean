import WasmDeploy.TrackingResult

/-!
# Reports

This file gives the report on a deployment: how it is made from the outcome of tracking or from a failure,
how it reads line by line, and the banner that is shown before a deployment.
-/

namespace WasmDeploy

/-- How a deployment ended. -/
inductive DeploymentStatus where
  | success
  | reverted
  | timedOut
  | failed
deriving DecidableEq, Repr, Inhabited

/-- The word for a status. -/
def DeploymentStatus.word : DeploymentStatus → String
  | .success => "success"
  | .reverted => "reverted"
  | .timedOut => "timed_out"
  | .failed => "failed"

/-- The report on a deployment, null standing for what is not known. The stage and the message of a failure
are given for failed and timed out deployments. -/
structure Report where
  network : Datum
  chainId : Datum
  status : DeploymentStatus
  txHash : Datum := .null
  contractAddress : Datum := .null
  gasUsed : Datum := .null
  gasLimit : Datum := .null
  effectiveGasPrice : Datum := .null
  blockNumber : Datum := .null
  eventCount : Datum := .int 0
  confirmations : Datum := .int 0
  gasLimitReached : Bool := false
  failureStage : Datum := .null
  failureMessage : Datum := .null
deriving Inhabited

namespace Report

/-- The status that a final state of tracking stands for. -/
def statusOf? : TrackingState → Option DeploymentStatus
  | .success => some .success
  | .reverted => some .reverted
  | _ => none

/-- The report on a deployment that was mined. -/
def ofResult (network : Network) (result : TrackingResult) : Except Fault Report :=
  match statusOf? result.state with
  | none => reject (.notTerminal result.state)
  | some status => .ok {
      network := .text network.name
      chainId := .int network.chainId
      status
      txHash := result.receipt.txHash
      contractAddress := result.receipt.contractAddress
      gasUsed := result.receipt.gasUsed
      gasLimit := result.gasLimit
      effectiveGasPrice := result.receipt.effectiveGasPrice
      blockNumber := result.receipt.blockNumber
      eventCount := result.receipt.eventCount
      confirmations := result.confirmations
      gasLimitReached := result.gasLimitReached }

/-- The report on a failure, with the network if it was known. A deployment that timed out keeps what is
known of its transaction. -/
def ofFailure (network : Option Network) (failure : Failure) : Report :=
  let failed : Report := {
    network := (network.map fun known => Datum.text known.name).getD .null
    chainId := (network.map fun known => Datum.int known.chainId).getD .null
    status := .failed
    failureStage := .text failure.stage
    failureMessage := .text failure.message }
  match failure with
  | .timedOut hash _ none => { failed with status := .timedOut, txHash := hash }
  | .timedOut hash _ (some receipt) =>
      { failed with
        status := .timedOut
        txHash := hash
        blockNumber := receipt.blockNumber
        gasUsed := receipt.gasUsed
        contractAddress := receipt.contractAddress }
  | _ => failed

/-- Whether the deployment was executed and confirmed. -/
def succeeded (report : Report) : Bool :=
  report.status == .success

/-- Ends with a failure if the deployment was reverted. -/
def requireNotReverted (report : Report) : Except Fault Unit :=
  if report.status = .reverted then
    fail (.executionReverted report.txHash report.blockNumber report.gasLimitReached)
  else .ok ()

/-- A part that may be unknown. -/
def orUnknown : Datum → String
  | .null => "unknown"
  | value => value.plain

/-- The line that names the network. -/
def networkLine (report : Report) : String :=
  s!"Network: {report.network.plain} (chain ID {report.chainId.plain})"

/-- The lines of a report on success. -/
def successLines (report : Report) : List String :=
  ["Contract deployed successfully", report.networkLine] ++
    (if report.contractAddress.isTruthy then
      [s!"Contract address: {report.contractAddress.plain}"] else []) ++
    [s!"Transaction hash: {report.txHash.plain}",
      s!"Gas used: {orUnknown report.gasUsed}",
      s!"Effective gas price: {orUnknown report.effectiveGasPrice}",
      s!"Block number: {orUnknown report.blockNumber}"] ++
    (if report.confirmations.isTruthy then
      [s!"Confirmations: {report.confirmations.plain}"] else []) ++
    (if report.eventCount.isTruthy then [s!"Events emitted: {report.eventCount.plain}"] else [])

/-- The lines of a report on a reverted deployment. -/
def revertedLines (report : Report) : List String :=
  ["Contract deployment failed: transaction reverted",
    report.networkLine,
    s!"Transaction hash: {report.txHash.plain}",
    s!"Gas limit: {orUnknown report.gasLimit}",
    s!"Gas used: {orUnknown report.gasUsed}",
    s!"Effective gas price: {orUnknown report.effectiveGasPrice}",
    s!"Block number: {orUnknown report.blockNumber}"] ++
    (if report.gasLimitReached then
      ["Gas limit reached, likely cause of the revert. Increase the gas limit."] else []) ++
    ["Check the transaction trace for more details."]

/-- The lines of a report on a failed or timed out deployment. -/
def failureLines (report : Report) : List String :=
  [if report.status = .timedOut then "Contract deployment timed out"
    else "Contract deployment failed"] ++
    (if report.network.isNull then [] else [report.networkLine]) ++
    [s!"Stage: {report.failureStage.plain}", s!"Error: {report.failureMessage.plain}"] ++
    (if report.txHash.isTruthy then [s!"Transaction hash: {report.txHash.plain}"] else []) ++
    (if report.blockNumber.isNull then [] else [s!"Block number: {report.blockNumber.plain}"])

/-- The report line by line, a fact to a line. -/
def lines (report : Report) : List String :=
  match report.status with
  | .success => report.successLines
  | .reverted => report.revertedLines
  | .timedOut | .failed => report.failureLines

/-- The report as text. -/
def text (report : Report) : String :=
  String.intercalate "\n" report.lines

end Report

/-- What is shown before a deployment starts. -/
structure Banner where
  network : Datum
  endpoint : Datum
  chainId : Datum
  deployer : Datum
  wasmFile : Datum
deriving Inhabited

namespace Banner

/-- The banner of a deployment. -/
def of (network : Network) (deployer : String) (wasmFile : Datum) : Banner where
  network := .text network.name
  endpoint := network.endpoint
  chainId := .int network.chainId
  deployer := .text deployer
  wasmFile

/-- The banner as text. -/
def text (banner : Banner) : String :=
  String.intercalate "\n"
    ["Starting Deployment",
      "====================",
      s!"Network: {banner.network.plain}",
      s!"RPC Endpoint: {banner.endpoint.plain}",
      s!"Chain ID: {banner.chainId.plain}",
      s!"Deployer: {banner.deployer.plain}",
      s!"WASM File: {banner.wasmFile.plain}",
      "===================="]

end Banner

end WasmDeploy
