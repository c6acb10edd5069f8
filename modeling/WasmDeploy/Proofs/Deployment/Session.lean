import WasmDeploy.Proofs.Deployment.Course
import WasmDeploy.Proofs.Deployment.Walk

/-!
# The session of a deployment

A deployment that is given no client opens one for the endpoint of its network. This file shows that the session of
that client is closed exactly once, whatever the end of the deployment is, and that nothing but log records comes
after it. The session of a client that is given is never closed.
-/

namespace WasmDeploy

open Run

variable {σ α β : Type}

/-! ## What operations may add to the journal -/

namespace Run

variable {admitted : Event → Prop}

/-- An operation adds nothing to the journal but events that are admitted. -/
def Adds (admitted : Event → Prop) (operation : Run σ α) : Prop :=
  ∀ world, operation.Yields world fun added _ _ => ∀ entry ∈ added, admitted entry.event

theorem adds_bind_of_ensures {first : Run σ α} {next : α → Run σ β} (ensured : α → Prop)
    (adds : Adds admitted first) (ensures : first.Ensures ensured)
    (nextAdds : ∀ value, ensured value → Adds admitted (next value)) :
    Adds admitted (first >>= next) := by
  intro world
  apply yields_bind
  apply ((adds world).and_ensures ensures).mono
  rintro added (fault | value) middle ⟨isAdmitted, isEnsured⟩
  · exact isAdmitted
  · apply (nextAdds value (isEnsured value rfl) middle).mono
    intro more result final moreAdmitted
    exact List.forall_mem_append.mpr ⟨isAdmitted, moreAdmitted⟩

theorem adds_tryCatch {operation : Run σ α} {change : Fault → Fault} (adds : Adds admitted operation) :
    Adds admitted (tryCatch operation fun fault => throw (change fault)) := by
  intro world
  apply yields_tryCatch
  apply (adds world).mono
  rintro added (fault | value) middle isAdmitted
  · apply yields_throw
    rwa [List.append_nil]
  · exact isAdmitted

/-- Adding only what is admitted is kept by every way of composing operations, if log records and sleeps are
admitted. -/
def adding (σ : Type) (admitted : Event → Prop)
    (logs : ∀ severity component message, admitted (.log severity component message))
    (sleeps : ∀ duration, admitted (.sleep duration)) : Congruence σ fun _ => False where
  related operation _ := Adds admitted operation
  pure _ _ := yields_pure (by simp)
  throw _ _ := yields_throw (by simp)
  log _ _ _ _ := yields_record (by simpa using logs _ _ _)
  recordSleep _ _ := yields_record (by simpa using sleeps _)
  modify unposted world := yields_modify (unposted.entries world) (by simp)
  get_bind relates world := yields_get_bind (relates world world (.refl world) world)
  bind_of_ensures := adds_bind_of_ensures
  tryCatch adds _ := adds_tryCatch adds

/-- An operation that closes no session adds only events that are not the end of one. -/
def stayingOpen (σ : Type) : Congruence σ fun _ => False :=
  adding σ (· ≠ .close) (fun _ _ _ => nofun) (fun _ => nofun)

end Run

/-- A request closes no session. -/
theorem Client.adds_ask (client : Client σ) (request : Request) :
    Adds (· ≠ .close) (client.ask request) := by
  intro world
  apply (client.ask_yields request).mono
  rintro added result final asked
  rcases asked.spelled with ⟨between, carries, rfl⟩
  simp only [List.cons_append, List.mem_cons, List.mem_append, List.not_mem_nil, or_false]
  rintro entry (rfl | mem | rfl)
  · nofun
  · rcases (carries entry mem).1 with ⟨_, _, _, isLog⟩ | ⟨_, _, _, isPost⟩
    · simp [isLog]
    · simp [isPost]
  · nofun

/-! ## The whole deployment -/

/-- Entries that close a session exactly once, with nothing after it but log records. -/
def ClosesOnce (entries : List Entry) : Prop :=
  ∃ before closing after, entries = before ++ closing :: after ∧ closing.event = .close ∧
    (∀ entry ∈ before, entry.event ≠ .close) ∧ ∀ entry ∈ after, entry.IsLog

theorem Entry.IsLog.ne_close {entry : Entry} (isLog : entry.IsLog) : entry.event ≠ .close := by
  rcases isLog with ⟨_, _, _, isLog⟩
  simp [isLog]

theorem ClosesOnce.between {notes entries lines : List Entry} (closes : ClosesOnce entries)
    (noted : ∀ entry ∈ notes, entry.IsLog) (announced : ∀ entry ∈ lines, entry.IsLog) :
    ClosesOnce (notes ++ (entries ++ lines)) := by
  rcases closes with ⟨before, closing, after, rfl, isClose, open_, logs⟩
  refine ⟨notes ++ before, closing, after ++ lines, by simp, isClose, ?_, ?_⟩
  · exact List.forall_mem_append.mpr ⟨fun entry mem => (noted entry mem).ne_close, open_⟩
  · exact List.forall_mem_append.mpr ⟨logs, announced⟩

namespace DeploymentRequest

variable (request : DeploymentRequest)

/-- A deployment gets as far as to use a client: it reads the artifact, selects the network and accepts the key. -/
def UsesClient (files : FileTree File) : Prop :=
  ∃ artifact network signer, Artifact.content files request.wasmFile = .ok artifact ∧
    Network.select request.localNode request.development request.rpcUrl request.chainId =
      .ok network ∧
    Signer.ofKey request.privateKey (.int network.chainId) = .ok signer

/-- What a deployment does with sessions. One that opens a client closes its session exactly once; one that ends
before that does nothing but log; one that is given a client closes nothing. -/
structure KeepsSession (source : ClientSource σ) (files : FileTree File) (added : List Entry) :
    Prop where
  opened : ∀ connect, source = .opened connect → request.UsesClient files → ClosesOnce added
  unopened : ∀ connect, source = .opened connect → ¬request.UsesClient files →
    ∀ entry ∈ added, entry.IsLog
  given : ∀ client, source = .given client → ∀ entry ∈ added, entry.event ≠ .close

theorem neverBegins_nothing : request.NeverBegins fun _ => False where
  content _ _ _ := by rintro ⟨_, _, _, ⟨⟩⟩
  select _ _ := by rintro ⟨_, _, _, ⟨⟩⟩
  readKey _ _ := by rintro ⟨_, _, _, ⟨⟩⟩
  ofSettings _ _ := by rintro ⟨_, _, _, ⟨⟩⟩
  readGas _ _ := by rintro ⟨_, _, _, ⟨⟩⟩
  rejected _ := id
  tracking _ _ _ _ := id

variable {request}

/-- The conversation with the endpoint closes nothing. -/
theorem converse_adds {client : Client σ} {tracker : Option Tracker} {artifact : Bytes}
    {network : Network} {signer : Signer}
    (isSigner : Signer.ofKey request.privateKey (.int network.chainId) = .ok signer) :
    Adds (· ≠ .close) (request.converse client tracker artifact network signer) := by
  have asks : (stayingOpen σ).RelatesClients client client := client.adds_ask
  exact (stayingOpen σ).relates_converse tracker request.neverBegins_nothing asks artifact
    (ofKey_eq_ok isSigner).2

variable {source : ClientSource σ} {network : Network} {files : FileTree File} {world final : World σ}
  {added : List Entry}

/-- A deployment that does nothing but log has not got as far as to use a client. -/
theorem KeepsSession.of_logs (logs : ∀ entry ∈ added, entry.IsLog)
    (unused : ¬request.UsesClient files) : request.KeepsSession source files added where
  opened _ _ uses := absurd uses unused
  unopened _ _ _ := logs
  given _ _ entry mem := (logs entry mem).ne_close

/-- What a deployment adds once its network is selected, together with the log records around it. -/
theorem Proceeded.keepsSession {notes lines : List Entry} {artifact : Bytes}
    {result : Except Fault TrackingResult}
    (isRead : Artifact.content files request.wasmFile = .ok artifact)
    (isSelected : Network.select request.localNode request.development request.rpcUrl
      request.chainId = .ok network)
    (proceeded : request.Proceeded source network
      (fun _ _ _ added _ _ => ∀ entry ∈ added, entry.event ≠ .close) world added result final)
    (noted : ∀ entry ∈ notes, entry.IsLog) (announced : ∀ entry ∈ lines, entry.IsLog) :
    request.KeepsSession source files (notes ++ (added ++ lines)) := by
  cases proceeded with
  | unsigned refused =>
      apply KeepsSession.of_logs (List.forall_mem_append.mpr ⟨noted, announced⟩)
      rintro ⟨_, _, signer, _, isSelected', isSigner⟩
      cases isSelected.symm.trans isSelected'
      cases refused.symm.trans isSigner
  | @conversed signer banner talk seen _ _ isSigner bannered used =>
      have uses : request.UsesClient files := ⟨artifact, network, signer, isRead, isSelected, isSigner⟩
      have before := List.forall_mem_append.mpr ⟨noted, bannered.areLogs⟩
      rw [List.append_assoc, ← List.append_assoc]
      cases used with
      | given isGiven stays =>
          subst isGiven
          have rest := List.forall_mem_append.mpr
            ⟨stays, fun entry mem => (announced entry mem).ne_close⟩
          have all := List.forall_mem_append.mpr ⟨fun entry mem => (before entry mem).ne_close, rest⟩
          exact ⟨nofun, nofun, fun _ _ => all⟩
      | @opened connect talk _ middle isOpened stays =>
          subst isOpened
          have closes : ClosesOnce (talk ++ [⟨middle.now, middle.tracking, .close⟩]) :=
            ⟨talk, _, [], rfl, rfl, stays, by simp⟩
          exact ⟨fun _ _ _ => closes.between before announced, fun _ _ unused => absurd uses unused,
            nofun⟩

/-- Every deployment closes the session that it opens exactly once, and no other one. -/
theorem deploy_keepsSession (request : DeploymentRequest) (source : ClientSource σ)
    (tracker : Option Tracker) (world : World σ) :
    (request.deploy source tracker).Yields world fun added _ _ =>
      request.KeepsSession source world.files added := by
  apply (request.deploy_course source tracker
    fun artifact network signer isSigner client => converse_adds isSigner).mono
  intro added result final deployed
  have silence : ∀ entry ∈ ([] : List Entry), entry.IsLog := by simp
  cases deployed with
  | unread refused =>
      apply KeepsSession.of_logs silence
      rintro ⟨_, _, _, isRead, _⟩
      cases refused.symm.trans isRead
  | unselected isRead noted refused =>
      apply KeepsSession.of_logs noted.areLogs
      rintro ⟨_, _, _, _, isSelected, _⟩
      cases refused.symm.trans isSelected
  | failed isRead noted isSelected proceeded =>
      simpa using proceeded.keepsSession isRead isSelected noted.areLogs silence
  | unreported isRead noted isSelected proceeded refused =>
      simpa using proceeded.keepsSession isRead isSelected noted.areLogs silence
  | reported isRead noted isSelected proceeded isReport announced =>
      exact proceeded.keepsSession isRead isSelected noted.areLogs announced.areLogs

end DeploymentRequest

end WasmDeploy
