import Mathlib.Data.List.Basic
import WasmDeploy.Logging

/-!
# The loggers of a registry

This file shows what the operations on a registry do to its loggers and to the tree that the names make of them.
Registering a logger changes no level and no handler. Parents have shorter names than their children, however the
loggers come to be registered, so that no logger is found again among those above it.
-/

namespace WasmDeploy.Logging

/-- An entry that is left out is not missed under another key. -/
theorem lookup_filter_ne {α β : Type} [BEq α] [LawfulBEq α] (entries : List (α × β)) {key other : α}
    (isOther : other ≠ key) : (entries.filter fun entry => entry.1 != key).lookup other = entries.lookup other := by
  induction entries with
  | nil => rfl
  | cons entry rest ih =>
      by_cases isKey : entry.1 = key
      · have unlike : (other == entry.1) = false := beq_eq_false_iff_ne.mpr (isKey ▸ isOther)
        rw [List.filter_cons_of_neg (by simp [isKey]), ih, List.lookup_cons, unlike]
      · rw [List.filter_cons_of_pos (by simpa using isKey), List.lookup_cons, List.lookup_cons, ih]

theorem mem_of_lookup {α β : Type} [BEq α] [LawfulBEq α] {entries : List (α × β)} {key : α} {value : β}
    (isFound : entries.lookup key = some value) : (key, value) ∈ entries := by
  rcases List.lookup_eq_some_iff.mp isFound with ⟨before, after, rfl, _⟩
  exact List.mem_append_right before List.mem_cons_self

namespace Registry

/-! ## Loggers -/

@[simp]
theorem logger_setLogger_self (registry : Registry) (name : LoggerName) (logger : Logger) :
    (registry.setLogger name logger).logger name = logger := by
  simp [Registry.logger, setLogger]

theorem logger_setLogger_of_ne (registry : Registry) {name other : LoggerName} (isOther : other ≠ name)
    (logger : Logger) : (registry.setLogger name logger).logger other = registry.logger other := by
  simp [Registry.logger, setLogger, List.lookup_cons, beq_eq_false_iff_ne.mpr isOther, lookup_filter_ne _ isOther]

theorem loggers_adopt (name : String) (registry : Registry) (child : String) :
    (adopt name registry child).loggers = registry.loggers := by
  rw [adopt]
  split <;> rfl

theorem loggers_foldl_adopt (name : String) (registry : Registry) (children : List String) :
    (children.foldl (adopt name) registry).loggers = registry.loggers := by
  induction children generalizing registry with
  | nil => rfl
  | cons child rest ih => rw [List.foldl_cons, ih, loggers_adopt]

theorem loggers_settle (registry : Registry) (child : String) (names : List String) :
    (registry.settle child names).loggers = registry.loggers := by
  induction names generalizing registry with
  | nil => rfl
  | cons name rest ih =>
      rw [settle]
      split
      · rfl
      · exact ih _

theorem loggers_register (registry : Registry) (name : LoggerName) :
    (registry.register name).loggers = registry.loggers := by
  cases name with
  | none => rfl
  | some name =>
      simp only [register]
      split
      · rfl
      · rw [loggers_settle, loggers_foldl_adopt]

@[simp]
theorem logger_register (registry : Registry) (name other : LoggerName) :
    (registry.register name).logger other = registry.logger other := by
  rw [Registry.logger, loggers_register]
  rfl

/-! ## The tree of the names -/

/-- Parents have shorter names than their children, and so have the names that a child has passed. -/
structure IsTree (registry : Registry) : Prop where
  parent : ∀ child parent, (child, some parent) ∈ registry.parents → parent.length < child.length
  passed : ∀ name children, (name, children) ∈ registry.awaited → ∀ child ∈ children, name.length < child.length

theorem isTree_empty : empty.IsTree where
  parent := by simp [empty]
  passed := by simp [empty]

namespace IsTree

variable {registry : Registry}

theorem waiting (isTree : registry.IsTree) {name child : String}
    (mem : child ∈ (registry.awaited.lookup name).getD []) : name.length < child.length := by
  cases isFound : registry.awaited.lookup name with
  | none => simp [isFound] at mem
  | some children =>
      rw [isFound] at mem
      exact isTree.passed name children (mem_of_lookup isFound) child mem

theorem length_parent (isTree : registry.IsTree) {child parent : String}
    (isParent : registry.parent child = some parent) : parent.length < child.length := by
  have isFound : registry.parents.lookup child = some (some parent) := by
    simpa [Registry.parent, Option.getD_eq_iff] using isParent
  exact isTree.parent child parent (mem_of_lookup isFound)

theorem setLogger (isTree : registry.IsTree) (name : LoggerName) (logger : Logger) :
    (registry.setLogger name logger).IsTree :=
  ⟨isTree.parent, isTree.passed⟩

theorem setParent (isTree : registry.IsTree) {child : String} {parent : LoggerName}
    (shorter : ∀ name, parent = some name → name.length < child.length) :
    (registry.setParent child parent).IsTree where
  parent := by
    intro other name mem
    rcases List.mem_cons.mp mem with isNew | isOld
    · cases isNew
      exact shorter name rfl
    · exact isTree.parent other name (List.mem_of_mem_filter isOld)
  passed := isTree.passed

theorem notePassed (isTree : registry.IsTree) {child name : String} (shorter : name.length < child.length) :
    (registry.notePassed child name).IsTree where
  parent := isTree.parent
  passed := by
    intro other children mem waiting isWaiting
    rcases List.mem_cons.mp mem with isNew | isOld
    · cases isNew
      rcases List.mem_append.mp isWaiting with waited | isChild
      · exact isTree.waiting waited
      · rwa [List.mem_singleton.mp isChild]
    · exact isTree.passed other children (List.mem_of_mem_filter isOld) waiting isWaiting

theorem adopt (isTree : registry.IsTree) {name child : String} (shorter : name.length < child.length) :
    (Registry.adopt name registry child).IsTree := by
  rw [Registry.adopt]
  split
  · exact isTree
  · refine isTree.setParent ?_
    rintro _ ⟨⟩
    exact shorter

theorem foldl_adopt (isTree : registry.IsTree) {name : String} {children : List String}
    (shorter : ∀ child ∈ children, name.length < child.length) :
    (children.foldl (Registry.adopt name) registry).IsTree := by
  induction children generalizing registry with
  | nil => exact isTree
  | cons child rest ih =>
      rcases List.forall_mem_cons.mp shorter with ⟨shorterFirst, shorterRest⟩
      exact ih (isTree.adopt shorterFirst) shorterRest

theorem settle (isTree : registry.IsTree) {child : String} {names : List String}
    (shorter : ∀ name ∈ names, name.length < child.length) : (registry.settle child names).IsTree := by
  induction names generalizing registry with
  | nil => exact isTree.setParent nofun
  | cons name rest ih =>
      rcases List.forall_mem_cons.mp shorter with ⟨shorterFirst, shorterRest⟩
      rw [Registry.settle]
      split
      · refine isTree.setParent ?_
        rintro _ ⟨⟩
        exact shorterFirst
      · exact ih (isTree.notePassed shorterFirst) shorterRest

end IsTree

theorem length_of_mem_namesAbove {characters : List Char} {name : String} (mem : name ∈ namesAbove characters) :
    name.length < characters.length := by
  fun_induction namesAbove characters with
  | case1 last rest ih =>
      rcases List.mem_cons.mp mem with rfl | mem
      · simp
      · have shorter := ih mem
        simp only [List.length_cons]
        omega
  | case2 character rest _ ih =>
      have shorter := ih mem
      simp only [List.length_cons]
      omega
  | case3 => cases mem

/-- However loggers come to be registered, they form a tree. -/
theorem IsTree.register {registry : Registry} (isTree : registry.IsTree) (name : LoggerName) :
    (registry.register name).IsTree := by
  cases name with
  | none => exact isTree
  | some name =>
      simp only [Registry.register]
      split
      · exact isTree
      · have fulfilled : { registry with
            awaited := registry.awaited.filter fun other => other.1 != name : Registry }.IsTree :=
          ⟨isTree.parent, fun other children mem => isTree.passed other children (List.mem_of_mem_filter mem)⟩
        refine (fulfilled.foldl_adopt fun child mem => isTree.waiting mem).settle fun above mem => ?_
        simpa [String.length_toList] using length_of_mem_namesAbove mem

/-! ## The loggers above -/

/-- The loggers above a logger, the root last. -/
def above (registry : Registry) (name : LoggerName) : List LoggerName :=
  (registry.lineage name).tail

/-- A logger has the empty name only if it was not asked for by name. -/
theorem loggerNamed_ne_empty (name : String) : loggerNamed name ≠ some "" := by
  rw [loggerNamed]
  split
  · nofun
  · next isNamed =>
    intro isEmpty
    exact isNamed (.inl (Option.some.inj isEmpty))

theorem lineage_eq (registry : Registry) {name : LoggerName} (isNamed : name ≠ some "") :
    registry.lineage name = name :: registry.above name := by
  cases name with
  | none => rfl
  | some name =>
      have nonempty : name.length ≠ 0 := by
        rw [Ne, String.length_eq_zero_iff]
        rintro rfl
        exact isNamed rfl
      rcases Nat.exists_eq_succ_of_ne_zero nonempty with ⟨steps, isLength⟩
      simp only [above, lineage, Option.map_some, Option.getD_some, isLength]
      rfl

theorem IsTree.length_lt_of_mem_lineageFrom {registry : Registry} (isTree : registry.IsTree) {steps bound : Nat}
    {name : LoggerName} (below : ∀ first, name = some first → first.length < bound) {other : String}
    (mem : some other ∈ registry.lineageFrom steps name) : other.length < bound := by
  induction steps generalizing name with
  | zero => simp [lineageFrom] at mem
  | succ steps ih =>
      cases name with
      | none => simp [lineageFrom] at mem
      | some first =>
          -- The bound is kept fixed while the names on the way up only get shorter.
          rcases List.mem_cons.mp mem with isFirst | mem
          · exact below other isFirst.symm
          · exact ih (fun parent isParent => Nat.lt_trans (isTree.length_parent isParent) (below first rfl)) mem

/-- No logger is above itself. -/
theorem IsTree.not_mem_above {registry : Registry} (isTree : registry.IsTree) (name : LoggerName) :
    name ∉ registry.above name := by
  cases name with
  | none => simp [above, lineage, lineageFrom]
  | some name =>
      simp only [above, lineage, Option.map_some, Option.getD_some]
      cases name.length with
      | zero => simp [lineageFrom]
      | succ steps =>
          intro mem
          have shorter : name.length < name.length :=
            isTree.length_lt_of_mem_lineageFrom (fun _ isParent => isTree.length_parent isParent) mem
          exact absurd shorter (Nat.lt_irrefl _)

/-- The handlers that a record is handed to are those of its logger and then those of the loggers above. -/
theorem handlers_eq (registry : Registry) {name : LoggerName} (isNamed : name ≠ some "") :
    registry.handlers name = (registry.logger name).handlers ++
      (registry.above name).flatMap fun other => (registry.logger other).handlers := by
  rw [handlers, lineage_eq registry isNamed, List.flatMap_cons]

/-- A level that is set decides for its logger. -/
theorem effectiveLevel_of_set (registry : Registry) {name : LoggerName} (isNamed : name ≠ some "")
    (isSet : (registry.logger name).level ≠ 0) : registry.effectiveLevel name = (registry.logger name).level := by
  rw [effectiveLevel, lineage_eq registry isNamed, List.map_cons, List.find?_cons_of_pos (by simpa using isSet)]
  rfl

theorem none_mem_lineageFrom (registry : Registry) (steps : Nat) (name : LoggerName) :
    none ∈ registry.lineageFrom steps name := by
  induction steps generalizing name with
  | zero => simp [lineageFrom]
  | succ steps ih =>
      cases name with
      | none => simp [lineageFrom]
      | some name => exact List.mem_cons_of_mem _ (ih _)

/-- Among loggers of which only the root has a level, the root decides. -/
theorem find?_level_of_unset {registry : Registry} {names : List LoggerName}
    (unset : ∀ name ∈ names, (registry.logger name).level = if name.isNone then warningLevel else 0)
    (hasRoot : none ∈ names) :
    (names.map fun name => (registry.logger name).level).find? (· ≠ 0) = some warningLevel := by
  induction names with
  | nil => cases hasRoot
  | cons name rest ih =>
      rcases List.forall_mem_cons.mp unset with ⟨unsetFirst, unsetRest⟩
      rw [List.map_cons, unsetFirst]
      cases name with
      | none => rfl
      | some name =>
          rw [List.find?_cons_of_neg (by simp)]
          exact ih unsetRest (by simpa using hasRoot)

/-- A level that is left open is that of the root, if no level is set in between; and open for the root itself. -/
theorem effectiveLevel_of_unset (registry : Registry) {name : LoggerName} (isNamed : name ≠ some "")
    (isUnset : (registry.logger name).level = 0)
    (above : ∀ other ∈ registry.above name,
      (registry.logger other).level = if other.isNone then warningLevel else 0) :
    registry.effectiveLevel name = if name.isNone then 0 else warningLevel := by
  rw [effectiveLevel, lineage_eq registry isNamed, List.map_cons, List.find?_cons_of_neg (by simpa using isUnset)]
  cases name with
  | none => rfl
  | some name =>
      have hasRoot : none ∈ registry.above (some name) := by
        have mem := registry.none_mem_lineageFrom name.length (some name)
        have isLineage := lineage_eq registry isNamed
        rw [lineage, Option.map_some, Option.getD_some] at isLineage
        simpa [isLineage] using mem
      rw [find?_level_of_unset above hasRoot]
      rfl

end Registry

end WasmDeploy.Logging
