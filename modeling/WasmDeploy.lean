import WasmDeploy.Deployment
import WasmDeploy.Logging
import WasmDeploy.Proofs.Tracker.Track
import WasmDeploy.Proofs.Deployment.Relay
import WasmDeploy.Proofs.Deployment.Submission
import WasmDeploy.Proofs.Deployment.Stages
import WasmDeploy.Proofs.Deployment.Order
import WasmDeploy.Proofs.Deployment.Sent
import WasmDeploy.Proofs.Tracker.States
import WasmDeploy.Proofs.Tracker.Deadline
import WasmDeploy.Proofs.Answers
import WasmDeploy.Proofs.Deployment.Failures
import WasmDeploy.Proofs.Deployment.Mirror
import WasmDeploy.Proofs.Deployment.Session
import WasmDeploy.Proofs.Deployment.Reporting
import WasmDeploy.Proofs.Tracker.Outcome
import WasmDeploy.Proofs.Deployment.Outcome
import WasmDeploy.Proofs.Tracker.Turns
import WasmDeploy.Proofs.Tracker.Inclusion
import WasmDeploy.Proofs.Tracker.Depth
import WasmDeploy.Proofs.Resemblance
import WasmDeploy.Proofs.Tracker.Latest
import WasmDeploy.Proofs.Deployment.Secrecy
import WasmDeploy.Proofs.Crypto.Curve
import WasmDeploy.Proofs.Crypto.Recovery
import WasmDeploy.Proofs.Deployment.Sender
import WasmDeploy.Proofs.Crypto.Order
import WasmDeploy.Proofs.Coupling
import WasmDeploy.Proofs.Tracker.Extension
import WasmDeploy.Proofs.Comparison
import WasmDeploy.Proofs.Tracker.Fewer
import WasmDeploy.Proofs.Tracker.Cancellation
import WasmDeploy.Proofs.Tracker.Schedule
import WasmDeploy.Proofs.Receipt
import WasmDeploy.Proofs.Calls
import WasmDeploy.Proofs.Url
import WasmDeploy.Proofs.Selection
import WasmDeploy.Proofs.Integer
import WasmDeploy.Proofs.Settings
import WasmDeploy.Proofs.Binary64
import WasmDeploy.Proofs.Duration
import WasmDeploy.Proofs.Deployment.Pricing
import WasmDeploy.Proofs.Deployment.Handover
import WasmDeploy.Proofs.Logging.Console
