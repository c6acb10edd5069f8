import WasmDeploy.Proofs.Checks
import WasmDeploy.Proofs.Deployment.Course
import WasmDeploy.Proofs.Deployment.Defects
import WasmDeploy.Proofs.Deployment.Stages
import WasmDeploy.Proofs.Report

/-!
# Reporting every failure

This file compares a deployment with one that reports its failures instead of ending with them. They do the same,
and they end the same way but for a failure, which becomes a report that names the network once that is known.
-/

namespace WasmDeploy

open Run

variable {σ : Type}

namespace DeploymentRequest

variable (request : DeploymentRequest)

/-- A failure comes from reading the artifact or from selecting the network. -/
inductive FailsUnlocated (files : FileTree File) (cause : Failure) : Prop where
  | unread (refused : Artifact.content files request.wasmFile = .error (.of cause))
  | unselected {artifact : Bytes}
      (isRead : Artifact.content files request.wasmFile = .ok artifact)
      (refused : Network.select request.localNode request.development request.rpcUrl
        request.chainId = .error (.of cause))

/-- The network that is noted on a failure: none if it comes from reading the artifact or from selecting the network,
and the selected one otherwise. -/
structure Locates (files : FileTree File) (cause : Failure) (network : Option Network) : Prop where
  unlocated : network = none ↔ request.FailsUnlocated files cause
  selected : ∀ known, network = some known → Network.select request.localNode request.development
    request.rpcUrl request.chainId = .ok known

/-- What a report tells of a failure. -/
structure TellsOf (files : FileTree File) (cause : Failure) (report : Report) : Prop where
  network : report.network = .null ↔ request.FailsUnlocated files cause
  chainId : report.chainId = .null ↔ request.FailsUnlocated files cause
  located : ¬request.FailsUnlocated files cause → ∃ known, Network.select request.localNode
    request.development request.rpcUrl request.chainId = .ok known ∧
      report.network = .text known.name ∧ report.chainId = .int known.chainId
  timedOut : report.status = .timedOut ↔
    ∃ hash timeout receipt, cause = .timedOut hash timeout receipt
  failed : report.status = .failed ↔ ¬∃ hash timeout receipt, cause = .timedOut hash timeout receipt

/-- How a deployment that reports its failures ends, by how the plain one does: it has done the same. If the plain one
ended with a failure, there is one more log record and the report on the failure; any other end is kept as it is. -/
structure Reports (files : FileTree File) (plain reported : Except Fault Report × World σ) : Prop where
  acts : actsOf reported.2.entries = actsOf plain.2.entries
  keeps : (∀ cause network, plain.1 ≠ .error (.failure cause network)) → reported = plain
  reports : ∀ cause network, plain.1 = .error (.failure cause network) →
    reported = (.ok (Report.ofFailure network cause), plain.2.record
      (.log .error .deployment (.ok s!"Deployment failed during {cause.stage}: {cause.message}"))) ∧
    request.TellsOf files cause (Report.ofFailure network cause)

variable {request} {files : FileTree File} {cause : Failure}

theorem Locates.tellsOf {network : Option Network} (locates : request.Locates files cause network) :
    request.TellsOf files cause (Report.ofFailure network cause) where
  network := by
    rw [Report.network_ofFailure, ← locates.unlocated]
    cases network <;> simp
  chainId := by
    rw [Report.chainId_ofFailure, ← locates.unlocated]
    cases network <;> simp
  located := by
    rw [← locates.unlocated, Report.network_ofFailure, Report.chainId_ofFailure]
    intro isLocated
    rcases network with _ | known
    · exact absurd rfl isLocated
    · exact ⟨known, locates.selected known rfl, rfl, rfl⟩
  timedOut := (Report.status_ofFailure network cause).1
  failed := (Report.status_ofFailure network cause).2

/-- A failure that comes after the selection of the network is noted with that network. -/
theorem locates_onNetwork {artifact : Bytes} {known : Network} {network : Option Network} {fault : Fault}
    (isRead : Artifact.content files request.wasmFile = .ok artifact)
    (isSelected : Network.select request.localNode request.development request.rpcUrl
      request.chainId = .ok known)
    (noted : fault.onNetwork known = .failure cause network) : request.Locates files cause network := by
  rcases Fault.of_onNetwork noted with ⟨rfl, _⟩
  have located : ¬request.FailsUnlocated files cause := by
    rintro (refused | ⟨_, refused⟩)
    · cases refused.symm.trans isRead
    · cases refused.symm.trans isSelected
  refine ⟨⟨nofun, fun unlocated => absurd unlocated located⟩, ?_⟩
  rintro _ ⟨⟩
  exact isSelected

variable (request) (source : ClientSource σ) (tracker : Option Tracker) (world : World σ)

/-- Every failure of a deployment is noted with the network that was selected by then. -/
theorem deploy_locates :
    (request.deploy source tracker).Yields world fun _ result _ => ∀ cause network,
      result = .error (.failure cause network) → request.Locates world.files cause network := by
  apply (request.deploy_course source tracker fun artifact network signer _ client seen =>
    request.converse_yields tracker artifact network signer client).mono
  rintro added result final deployed cause network ends
  cases deployed with
  | unread refused =>
      cases ends
      obtain ⟨rfl, _⟩ := (Artifact.content_failsAs _ _).eq_of refused
      exact ⟨iff_of_true rfl (.unread refused), nofun⟩
  | unselected isRead noted refused =>
      cases ends
      obtain ⟨rfl, _⟩ := (Network.select_failsAs _ _ _ _).eq_of refused
      exact ⟨iff_of_true rfl (.unselected isRead refused), nofun⟩
  | failed isRead noted isSelected proceeded =>
      exact locates_onNetwork isRead isSelected (Except.error.inj ends)
  | unreported isRead noted isSelected proceeded refused =>
      cases ends
      exact absurd refused ((onlyDefects_ofResult _ _).ne_failure cause network)
  | reported isRead noted isSelected proceeded isReport announced => cases ends

/-- A deployment that reports its failures does the same as the plain one, and reports every failure. -/
theorem deployAndReport_reports :
    request.Reports world.files ((request.deploy source tracker).outcome world)
      ((request.deployAndReport source tracker).outcome world) := by
  rcases request.deploy_locates source tracker world with ⟨_, _, locates⟩
  rw [deployAndReport, outcome_tryCatch]
  generalize (request.deploy source tracker).outcome world = plain at locates ⊢
  rcases plain with ⟨fault | report, final⟩
  · rcases fault with ⟨cause, network⟩ | defect | _
    · exact {
        acts := actsOf_record_log final _ _ _
        keeps := fun other => absurd rfl (other cause network)
        reports := by
          rintro _ _ ⟨⟩
          exact ⟨rfl, (locates cause network rfl).tellsOf⟩ }
    · exact ⟨rfl, fun _ => rfl, by simp⟩
    · exact ⟨rfl, fun _ => rfl, by simp⟩
  · exact ⟨rfl, fun _ => rfl, by simp⟩

end DeploymentRequest

end WasmDeploy
