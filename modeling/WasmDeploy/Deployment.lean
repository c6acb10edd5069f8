import WasmDeploy.Artifact
import WasmDeploy.Builder
import WasmDeploy.Network.Selection
import WasmDeploy.Report
import WasmDeploy.Settings
import WasmDeploy.Submission
import WasmDeploy.Text.Lines
import WasmDeploy.Tracker

/-!
# Deployments

This file carries out a deployment. Its stages run strictly in order: reading the artifact, selecting the
network, reading the key, building the transaction, submitting it, and tracking it. Every stage fails at
once, and nothing is tried twice.
-/

namespace WasmDeploy

/-- Where a deployment takes its client from: one that is given, or one that it opens for the endpoint of
the network and closes when it is done. -/
inductive ClientSource (σ : Type) where
  | given (client : Client σ)
  | opened (connect : (endpoint : String) → HttpEndpoint σ)

variable {σ : Type}

/-- Runs an operation with the client of a source. -/
def ClientSource.use {α : Type} (source : ClientSource σ) (network : Network)
    (operation : Client σ → Run σ α) : Run σ α :=
  match source with
  | .given client => operation client
  | .opened connect => Run.closing (operation (.http (connect network.endpoint.shown)))

/-- Notes the network on a failure of an operation. -/
def onNetwork {α : Type} (network : Network) (operation : Run σ α) : Run σ α :=
  tryCatch operation fun fault => throw (fault.onNetwork network)

namespace DeploymentRequest

/-- The tracker of a deployment: the given one, or a new one as the request asks for. -/
def startTracker (request : DeploymentRequest) (tracker : Option Tracker) : Run σ Tracker := do
  match tracker with
  | some tracker => return tracker
  | none =>
      let tracker ← (Tracker.ofSettings request.timeout request.pollInterval : Except Fault _)
      Run.enter .submitted
      return tracker

/-- Shows the banner of a deployment, a log record to a line. -/
def announce (request : DeploymentRequest) (network : Network) (signer : Signer) :
    Run σ Unit :=
  (Text.lines (Banner.of network signer.address request.wasmFile).text).forM fun line =>
    Run.log .info .deployment (.ok line)

/-- The stages of a deployment that need a client. -/
def converse (request : DeploymentRequest) (client : Client σ) (tracker : Option Tracker)
    (artifact : Bytes) (network : Network) (signer : Signer) : Run σ TrackingResult := do
  let tracker ← request.startTracker tracker
  Run.log .info .deployment (.ok "Preparing deployment transaction...")
  let transaction ←
    buildTransaction client artifact network request.gasLimit request.gasPrice
  let pending ← submit client signer transaction
  tracker.track client pending request.confirmations

/-- The stages of a deployment once the artifact is read and the network selected. -/
def proceed (request : DeploymentRequest) (source : ClientSource σ) (tracker : Option Tracker)
    (artifact : Bytes) (network : Network) : Run σ TrackingResult := do
  let signer ← (Signer.ofKey request.privateKey (.int network.chainId) : Except Fault _)
  request.announce network signer
  source.use network fun client => request.converse client tracker artifact network signer

/-- Tells where the contract of a successful deployment is. -/
def announceContract (report : Report) : Run σ Unit :=
  if report.succeeded then
    Run.log .info .deployment (.ok s!"Contract deployed at {report.contractAddress.plain}")
  else
    pure ()

/-- Deploys an artifact and waits for the confirmations asked for. -/
def deploy (request : DeploymentRequest) (source : ClientSource σ) (tracker : Option Tracker) :
    Run σ Report := do
  let artifact ← Artifact.read request.wasmFile
  let network ←
    (Network.select request.localNode request.development request.rpcUrl request.chainId :
      Except Fault _)
  let result ← onNetwork network (request.proceed source tracker artifact network)
  let report ← (Report.ofResult network result : Except Fault _)
  announceContract report
  return report

/-- Deploys an artifact and reports every failure instead of ending with it. -/
def deployAndReport (request : DeploymentRequest) (source : ClientSource σ)
    (tracker : Option Tracker) : Run σ Report :=
  tryCatch (request.deploy source tracker) fun fault => do
    match fault with
    | .failure cause network =>
        Run.log .error .deployment
          (.ok s!"Deployment failed during {cause.stage}: {cause.message}")
        return Report.ofFailure network cause
    | fault => throw fault

end DeploymentRequest

end WasmDeploy
