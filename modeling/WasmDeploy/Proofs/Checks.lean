import WasmDeploy.Proofs.Defects

/-!
# How checks fail

Each check of local input reports what it refuses in its own way: the artifact with the failures of artifacts, the
selection of the network and the settings of the tracker as a matter of configuration, the key and the gas as
invalid values. This file shows that none of them fails with anything else, and that none of them knows the
network.
-/

namespace WasmDeploy

variable {α β : Type} {kinds : List FailureKind}

/-- A computation ends with a value, with a failure of one of the kinds that names no network, or with a defect. -/
def FailsAs (kinds : List FailureKind) (result : Except Fault α) : Prop :=
  ∀ fault, result = .error fault →
    (∃ cause, fault = .of cause ∧ cause.kind ∈ kinds) ∨ ∃ cause, fault = .defect cause

namespace FailsAs

theorem of_onlyDefects {result : Except Fault α} (defects : OnlyDefects result) :
    FailsAs kinds result :=
  fun fault failed => Or.inr ((defects fault failed).imp fun _ isDefect => isDefect.1)

theorem ok (value : α) : FailsAs kinds (.ok value) :=
  of_onlyDefects (.ok value)

theorem pure (value : α) : FailsAs kinds (pure value : Except Fault α) :=
  ok value

theorem reject (cause : Defect) : FailsAs kinds (reject cause : Except Fault α) := by
  rintro _ ⟨⟩
  exact Or.inr ⟨cause, rfl⟩

theorem mapError (result : Except Defect α) : FailsAs kinds (result.mapError Fault.defect) := by
  cases result with
  | ok value => exact ok value
  | error cause => exact reject cause

theorem fail {cause : Failure} (isKind : cause.kind ∈ kinds) :
    FailsAs kinds (fail cause : Except Fault α) := by
  rintro _ ⟨⟩
  exact Or.inl ⟨cause, rfl, isKind⟩

theorem refuse {value : Datum} {cause : Failure} (isKind : cause.kind ∈ kinds) :
    FailsAs kinds (value.refuse cause : Except Fault α) := by
  unfold Datum.refuse
  split
  · exact .fail isKind
  · exact .reject _

theorem bind {first : Except Fault α} {next : α → Except Fault β} (fails : FailsAs kinds first)
    (nextFails : ∀ value, FailsAs kinds (next value)) : FailsAs kinds (first >>= next) := by
  cases first with
  | error fault =>
      rintro _ ⟨⟩
      exact fails fault rfl
  | ok value => exact nextFails value

/-- A failure that a check ends with names no network. -/
theorem eq_of {result : Except Fault α} {cause : Failure} {network : Option Network}
    (fails : FailsAs kinds result) (failed : result = .error (.failure cause network)) :
    network = none ∧ cause.kind ∈ kinds := by
  rcases fails _ failed with ⟨_, ⟨⟩, isKind⟩ | ⟨_, ⟨⟩⟩
  exact ⟨rfl, isKind⟩

end FailsAs

theorem Avoids.of_failsAs {kind : Failure → Prop} {result : Except Fault α}
    (fails : FailsAs kinds result) (other : ∀ cause, kind cause → cause.kind ∉ kinds) :
    Avoids kind result := by
  rintro _ failed ⟨cause, network, rfl, isKind⟩
  exact other cause isKind (fails.eq_of failed).2

/-! ## The artifact -/

theorem onlyDefects_find (files : FileTree File) (path : FilePath) : OnlyDefects (files.find path) := by
  simp only [FileTree.find]
  split
  · exact .ok _
  · split
    · split
      · exact .reject _
      · exact .ok _
    · split <;> exact .ok _

namespace Artifact

theorem locate_failsAs (files : FileTree File) (path : FilePath) :
    FailsAs [.artifact, .artifactMissing] (locate files path) := by
  apply FailsAs.bind (.of_onlyDefects (onlyDefects_find files path))
  intro found
  split
  · split
    · exact .fail List.mem_cons_self
    · split
      · exact .pure _
      · exact .fail List.mem_cons_self
  · exact .fail (List.mem_cons_of_mem _ List.mem_cons_self)

theorem content_failsAs (files : FileTree File) (wasmFile : Datum) :
    FailsAs [.artifact, .artifactMissing] (content files wasmFile) := by
  apply FailsAs.bind (.mapError _)
  intro path
  apply FailsAs.bind (locate_failsAs files path)
  intro file
  split
  · exact .fail List.mem_cons_self
  · exact .pure _

end Artifact

/-! ## The network -/

namespace Network

theorem onlyDefects_urlCharacters (url : Datum) : OnlyDefects (urlCharacters url) := by
  simp only [urlCharacters]
  split
  · exact .ok _
  · split
    · exact .reject _
    · exact .ok _
  · split
    · exact .reject _
    · exact .ok _

theorem endpointOf_failsAs (url : Datum) : FailsAs [.configuration] (endpointOf url) := by
  apply FailsAs.bind (.of_onlyDefects (onlyDefects_urlCharacters url))
  intro characters
  split
  · exact .reject _
  · split
    · split
      · exact .pure _
      · exact .fail List.mem_cons_self
    · exact .fail List.mem_cons_self

theorem chainIdOf_failsAs (value : Datum) : FailsAs [.configuration] (chainIdOf value) := by
  simp only [chainIdOf]
  split
  · split
    · exact .ok _
    · exact .refuse List.mem_cons_self
  · exact .refuse List.mem_cons_self

theorem select_failsAs (localNode development rpcUrl chainId : Datum) :
    FailsAs [.configuration] (select localNode development rpcUrl chainId) := by
  unfold select
  dsimp only
  repeat' split
  any_goals exact .fail List.mem_cons_self
  · exact .pure _
  · exact .pure _
  · apply FailsAs.bind (endpointOf_failsAs rpcUrl)
    intro endpoint
    apply FailsAs.bind (chainIdOf_failsAs chainId)
    intro chainId
    exact .pure _

end Network

/-! ## The key, the tracker and the gas -/

theorem Signer.readKey_failsAs (key : Datum) : FailsAs [.privateKey] (readKey key) := by
  unfold readKey
  split
  · dsimp only
    split
    · exact .fail List.mem_cons_self
    · split
      · exact .ok _
      · exact .fail List.mem_cons_self
  · exact .fail List.mem_cons_self

namespace Tracker

theorem readDuration_failsAs {failure : Datum → Failure} {value : Datum}
    (isKind : (failure value).kind ∈ kinds) : FailsAs kinds (readDuration failure value) := by
  simp only [readDuration]
  split
  · exact .reject _
  · split
    · exact .refuse isKind
    · exact .ok _

theorem ofSettings_failsAs (timeout pollInterval : Datum) :
    FailsAs [.configuration] (ofSettings timeout pollInterval) := by
  apply FailsAs.bind (readDuration_failsAs List.mem_cons_self)
  intro timeout
  apply FailsAs.bind (readDuration_failsAs List.mem_cons_self)
  intro pollInterval
  exact .pure _

end Tracker

theorem GasParameter.read_failsAs (parameter : GasParameter) (value : Datum) :
    FailsAs [.validation] (parameter.read value) := by
  simp only [GasParameter.read]
  split
  · split
    · exact .ok _
    · exact .refuse List.mem_cons_self
  · exact .refuse List.mem_cons_self

theorem readGas_failsAs (gasLimit gasPrice : Datum) :
    FailsAs [.validation] (readGas gasLimit gasPrice) := by
  apply FailsAs.bind (GasParameter.read_failsAs .limit gasLimit)
  intro limit
  apply FailsAs.bind (GasParameter.read_failsAs .price gasPrice)
  intro price
  split
  · exact .fail List.mem_cons_self
  · exact .pure _

end WasmDeploy
