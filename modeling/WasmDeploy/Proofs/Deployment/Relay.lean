import WasmDeploy.Proofs.Checks
import WasmDeploy.Proofs.Deployment.Walk
import WasmDeploy.Proofs.Relay

/-!
# A deployment relays its endpoint

This file shows that no stage of a deployment makes a request after one that failed, and that none of them finds a
transaction to be for another chain than its signer. Relaying is one of the relations that the stages keep, so what
is left to show is that no check of a deployment ends with such a mismatch.
-/

namespace WasmDeploy

open Run

variable {σ : Type}

theorem Run.relaying_relatesClients (kind : Failure → Prop) (client : Client σ) :
    (relaying σ kind).RelatesClients client client :=
  relays_ask client

/-- A client relays what it is asked, and a client that is opened for a use is closed after it. -/
theorem Run.relaying_relatesSources (kind : Failure → Prop) (source : ClientSource σ)
    (network : Network) : (relaying σ kind).RelatesSources source source network := by
  intro operation relays
  cases source with
  | given client => exact relays _ _ (relaying_relatesClients kind client)
  | opened connect => exact relays_closing (relays _ _ (relaying_relatesClients kind _))

/-- A transaction was found to be for another chain than its signer. -/
def Failure.IsMismatch : Failure → Prop
  | .chainMismatch .. => True
  | _ => False

/-- A check that has no failures of its own about the course of a deployment finds no mismatch. -/
theorem avoids_isMismatch {α : Type} {kinds : List FailureKind} {result : Except Fault α}
    (fails : FailsAs kinds result) (other : .deployment ∉ kinds) :
    Avoids Failure.IsMismatch result := by
  apply Avoids.of_failsAs fails
  intro cause isMismatch
  cases cause with
  | chainMismatch => exact other
  | _ => cases isMismatch

/-! ## The whole deployment -/

namespace DeploymentRequest

theorem neverBegins_isMismatch (request : DeploymentRequest) :
    request.NeverBegins Failure.IsMismatch where
  content files := avoids_isMismatch (Artifact.content_failsAs files _) (by decide)
  select := avoids_isMismatch (Network.select_failsAs _ _ _ _) (by decide)
  readKey := avoids_isMismatch (Signer.readKey_failsAs _) (by decide)
  ofSettings := avoids_isMismatch (Tracker.ofSettings_failsAs _ _) (by decide)
  readGas := avoids_isMismatch (readGas_failsAs _ _) (by decide)
  rejected _ := id
  tracking := by
    rintro tracker hash _ ⟨⟩ isMismatch <;> exact isMismatch

/-- A deployment makes no request after one that failed, and ends with a mismatch of chains only if a request has
failed with one. -/
theorem relays_deploy (request : DeploymentRequest) (tracker : Option Tracker)
    (source : ClientSource σ) : Relays Failure.IsMismatch (request.deploy source tracker) :=
  (relaying σ Failure.IsMismatch).relates_deploy tracker request.neverBegins_isMismatch
    fun network _ => relaying_relatesSources _ source network

end DeploymentRequest

end WasmDeploy
