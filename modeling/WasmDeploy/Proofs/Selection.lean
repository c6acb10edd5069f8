import WasmDeploy.Network.Selection
import WasmDeploy.Proofs.Url

/-!
# Selections of a network

This file decides every selection of a network: which network it gives, and that it is refused as a matter of
configuration if it gives none. Two sorts of custom networks escape with a defect instead: those with a URL whose
authority is unsound, and those with a chain id that is too long for the message that would refuse it.
-/

namespace WasmDeploy.Network

/-- The network that a selection by two flags, a URL and a chain id gives: exactly one preset and nothing else, or
else a URL that leads to an endpoint and a positive chain id of 64 bits. -/
inductive Selects : Bool → Bool → Option Text → Option Int → Network → Prop where
  | localNode : Selects true false none none localNode
  | development : Selects false true none none development
  | custom {url : Text} {id : Int} (leads : Url.LeadsToEndpoint url.characters) (positive : 0 < id)
      (fits : id < Nat.pow 2 64) : Selects false false (some url) (some id) ⟨customName, url, id⟩

/-- A chain id has more digits than a message shows. -/
def IsEndless (id : Int) : Prop :=
  Nat.pow 10 Number.maxIntegerDigits ≤ id.natAbs

/-- The defect that a selection ends with, for want of a check: its URL cannot be taken apart, or its URL leads to an
endpoint and no message can show its chain id. -/
inductive Escapes : Bool → Bool → Option Text → Option Int → Defect → Prop where
  | url {url : Text} {id : Int} {defect : UrlDefect} (isRefused : Url.parse url.characters = .error defect) :
      Escapes false false (some url) (some id) (.malformedUrl defect)
  | chainId {url : Text} {id : Int} (leads : Url.LeadsToEndpoint url.characters) (endless : IsEndless id) :
      Escapes false false (some url) (some id) .tooManyDigits

/-- The network that is selected by values of the kinds that are asked for, those that are not given being null. -/
def selectGiven (localNode development : Bool) (rpcUrl : Option Text) (chainId : Option Int) :
    Except Fault Network :=
  select (.bool localNode) (.bool development) (rpcUrl.elim .null .text) (chainId.elim .null .int)

/-! ## Endpoints -/

theorem leadsToEndpoint_iff {parts : Url.Parts} :
    leadsToEndpoint parts = true ↔ parts.scheme ∈ ["http".toList, "https".toList] ∧ parts.authority ≠ [] := by
  simp [leadsToEndpoint]

theorem endpointOf_of_leads {url : Text} (leads : Url.LeadsToEndpoint url.characters) :
    endpointOf (.text url) = .ok url := by
  rcases Url.exists_parts_iff.mpr leads with ⟨parts, isRead, leads⟩
  simp only [endpointOf, urlCharacters, bind, Except.bind, isRead, leadsToEndpoint_iff.mpr leads, if_true]
  rfl

theorem endpointOf_of_refused {url : Text} {defect : UrlDefect}
    (isRefused : Url.parse url.characters = .error defect) :
    endpointOf (.text url) = reject (.malformedUrl defect) := by
  simp only [endpointOf, urlCharacters, bind, Except.bind, isRefused]

/-- A URL leads to an endpoint, or it cannot be taken apart, or it is refused. -/
theorem endpointOf_cases (url : Text) :
    Url.LeadsToEndpoint url.characters ∨ (∃ defect, Url.parse url.characters = .error defect) ∨
      endpointOf (.text url) = fail (.endpointInvalid (.text url)) := by
  cases isRead : Url.parse url.characters with
  | error defect => exact .inr (.inl ⟨defect, rfl⟩)
  | ok parts =>
      by_cases leads : leadsToEndpoint parts = true
      · exact .inl (Url.exists_parts_iff.mp ⟨parts, isRead, leadsToEndpoint_iff.mp leads⟩)
      · refine .inr (.inr ?_)
        simp only [endpointOf, urlCharacters, bind, Except.bind, isRead, if_neg leads]

/-! ## Chain ids -/

theorem bounds_iff {id : Int} : 0 < id ∧ id ≤ maxUInt64 ↔ 0 < id ∧ id < Nat.pow 2 64 := by
  have isPower : (Nat.pow 2 64 : Int) = maxUInt64 + 1 := rfl
  rw [isPower]
  omega

theorem chainIdOf_of_bounds {id : Int} (bounds : 0 < id ∧ id < Nat.pow 2 64) : chainIdOf (.int id) = .ok id :=
  if_pos (bounds_iff.mpr bounds)

theorem IsEndless.not_bounds {id : Int} (endless : IsEndless id) : ¬(0 < id ∧ id < Nat.pow 2 64) := by
  rintro ⟨positive, fits⟩
  have long : Nat.pow 2 64 ≤ Nat.pow 10 Number.maxIntegerDigits := by decide +kernel
  rw [IsEndless] at endless
  omega

theorem chainIdOf_of_outside {id : Int} (outside : ¬(0 < id ∧ id < Nat.pow 2 64)) :
    chainIdOf (.int id) = Datum.refuse (.int id) (.chainIdOutOfRange id) :=
  if_neg (bounds_iff.not.mpr outside)

theorem isShowable_int_iff {id : Int} : (Datum.int id).isShowable = true ↔ ¬IsEndless id := by
  rw [Datum.isShowable, decide_eq_true_iff, IsEndless, not_le]

/-! ## Selections -/

variable {localNode development : Bool} {rpcUrl : Option Text} {chainId : Option Int}

theorem selectGiven_custom (url : Text) (id : Int) :
    selectGiven false false (some url) (some id) = (do
      let endpoint ← endpointOf (.text url)
      let chainId ← chainIdOf (.int id)
      return ⟨customName, endpoint, chainId⟩) := rfl

theorem Selects.selectGiven_eq {network : Network}
    (selects : Selects localNode development rpcUrl chainId network) :
    selectGiven localNode development rpcUrl chainId = .ok network := by
  cases selects with
  | localNode => rfl
  | development => rfl
  | custom leads positive fits =>
      rw [selectGiven_custom, endpointOf_of_leads leads, chainIdOf_of_bounds ⟨positive, fits⟩]
      rfl

theorem Escapes.selectGiven_eq {defect : Defect}
    (escapes : Escapes localNode development rpcUrl chainId defect) :
    selectGiven localNode development rpcUrl chainId = .error (.defect defect) := by
  cases escapes with
  | url isRefused =>
      rw [selectGiven_custom, endpointOf_of_refused isRefused]
      rfl
  | chainId leads endless =>
      have unshowable := isShowable_int_iff.not.mpr (not_not.mpr endless)
      rw [selectGiven_custom, endpointOf_of_leads leads, chainIdOf_of_outside endless.not_bounds, Datum.refuse,
        if_neg unshowable]
      rfl

/-- A selection that is refused as a matter of configuration. -/
def IsRefused (localNode development : Bool) (rpcUrl : Option Text) (chainId : Option Int) : Prop :=
  ∃ cause, selectGiven localNode development rpcUrl chainId = .error (.of cause) ∧ cause.kind = .configuration

theorem custom_cases (url : Text) (id : Int) :
    (∃ network, Selects false false (some url) (some id) network) ∨
      (∃ defect, Escapes false false (some url) (some id) defect) ∨
        IsRefused false false (some url) (some id) := by
  rcases endpointOf_cases url with leads | ⟨defect, isRefused⟩ | refused
  · by_cases bounds : 0 < id ∧ id < Nat.pow 2 64
    · exact .inl ⟨_, .custom leads bounds.1 bounds.2⟩
    · by_cases endless : IsEndless id
      · exact .inr (.inl ⟨_, .chainId leads endless⟩)
      · refine .inr (.inr ⟨.chainIdOutOfRange id, ?_, rfl⟩)
        rw [selectGiven_custom, endpointOf_of_leads leads, chainIdOf_of_outside bounds, Datum.refuse,
          if_pos (isShowable_int_iff.mpr endless)]
        rfl
  · exact .inr (.inl ⟨_, .url isRefused⟩)
  · refine .inr (.inr ⟨.endpointInvalid (.text url), ?_, rfl⟩)
    rw [selectGiven_custom, refused]
    rfl

/-- A selection selects a network, escapes with a defect or is refused. -/
theorem selectGiven_cases (localNode development : Bool) (rpcUrl : Option Text) (chainId : Option Int) :
    (∃ network, Selects localNode development rpcUrl chainId network) ∨
      (∃ defect, Escapes localNode development rpcUrl chainId defect) ∨
        IsRefused localNode development rpcUrl chainId := by
  cases rpcUrl with
  | none =>
      cases chainId with
      | none =>
          match localNode, development with
          | true, false => exact .inl ⟨_, .localNode⟩
          | false, true => exact .inl ⟨_, .development⟩
          | true, true => exact .inr (.inr ⟨_, rfl, rfl⟩)
          | false, false => exact .inr (.inr ⟨_, rfl, rfl⟩)
      | some id => cases localNode <;> cases development <;> exact .inr (.inr ⟨_, rfl, rfl⟩)
  | some url =>
      cases chainId with
      | none => cases localNode <;> cases development <;> exact .inr (.inr ⟨_, rfl, rfl⟩)
      | some id =>
          match localNode, development with
          | false, false => exact custom_cases url id
          | true, false => exact .inr (.inr ⟨_, rfl, rfl⟩)
          | false, true => exact .inr (.inr ⟨_, rfl, rfl⟩)
          | true, true => exact .inr (.inr ⟨_, rfl, rfl⟩)

/-- What a selection gives is decided: exactly the network that it selects, exactly the defect that it escapes with,
and in every other case a failure of configuration. Only a dubious character in the URL or an endless chain id lets a
selection escape. -/
structure IsDecided (localNode development : Bool) (rpcUrl : Option Text) (chainId : Option Int) : Prop where
  selected : ∀ network, selectGiven localNode development rpcUrl chainId = .ok network ↔
    Selects localNode development rpcUrl chainId network
  escaped : ∀ defect, selectGiven localNode development rpcUrl chainId = .error (.defect defect) ↔
    Escapes localNode development rpcUrl chainId defect
  refused : IsRefused localNode development rpcUrl chainId ↔
    (∀ network, ¬Selects localNode development rpcUrl chainId network) ∧
      ∀ defect, ¬Escapes localNode development rpcUrl chainId defect
  unlikely : ∀ defect, Escapes localNode development rpcUrl chainId defect →
    (∃ url, rpcUrl = some url ∧ ∃ character ∈ url.characters, Url.IsDubious character) ∨
      ∃ id, chainId = some id ∧ IsEndless id

/-- Every selection is decided. -/
theorem selectGiven_isDecided (localNode development : Bool) (rpcUrl : Option Text) (chainId : Option Int) :
    IsDecided localNode development rpcUrl chainId := by
  have ends := selectGiven_cases localNode development rpcUrl chainId
  refine { selected := ?selected, escaped := ?escaped, refused := ?refused, unlikely := ?unlikely }
  case selected =>
    intro network
    refine ⟨fun isSelected => ?_, Selects.selectGiven_eq⟩
    rcases ends with ⟨other, selects⟩ | ⟨defect, escapes⟩ | ⟨cause, isRefused, _⟩
    · cases isSelected.symm.trans selects.selectGiven_eq
      exact selects
    · cases isSelected.symm.trans escapes.selectGiven_eq
    · cases isSelected.symm.trans isRefused
  case escaped =>
    intro defect
    refine ⟨fun hasEscaped => ?_, Escapes.selectGiven_eq⟩
    rcases ends with ⟨network, selects⟩ | ⟨other, escapes⟩ | ⟨cause, isRefused, _⟩
    · cases hasEscaped.symm.trans selects.selectGiven_eq
    · cases hasEscaped.symm.trans escapes.selectGiven_eq
      exact escapes
    · cases hasEscaped.symm.trans isRefused
  case refused =>
    constructor
    · rintro ⟨cause, isRefused, _⟩
      constructor
      · intro network selects
        cases isRefused.symm.trans selects.selectGiven_eq
      · intro defect escapes
        cases isRefused.symm.trans escapes.selectGiven_eq
    · rintro ⟨unselected, unescaped⟩
      rcases ends with ⟨network, selects⟩ | ⟨defect, escapes⟩ | isRefused
      · exact absurd selects (unselected network)
      · exact absurd escapes (unescaped defect)
      · exact isRefused
  case unlikely =>
    rintro defect (isRefused | ⟨_, endless⟩)
    · exact .inl ⟨_, rfl, Url.exists_dubious_of_parse isRefused⟩
    · exact .inr ⟨_, rfl, endless⟩

/-- A selection that selects no network need not be refused: the bracket of its URL may be left open. -/
theorem exists_unrefused :
    ¬∀ (url : Text) (id : Int), (∀ network, ¬Selects false false (some url) (some id) network) →
      IsRefused false false (some url) (some id) := by
  intro refused
  have escapes : Escapes false false (some (.ofString "ftp://[a")) (some 777) (.malformedUrl .brackets) :=
    .url rfl
  have unselected (network : Network) : ¬Selects false false (some (.ofString "ftp://[a")) (some 777) network := by
    intro selects
    cases escapes.selectGiven_eq.symm.trans selects.selectGiven_eq
  rcases refused "ftp://[a" 777 unselected with ⟨cause, isRefused, _⟩
  cases isRefused.symm.trans escapes.selectGiven_eq

end WasmDeploy.Network
