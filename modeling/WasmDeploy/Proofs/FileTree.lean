import WasmDeploy.FileTree

/-!
# Files that are opened

This file shows two facts about directories that are made and files that are opened for a path. Whatever comes of it,
everything that was in the tree stays there. And where a path leads to is told by the path alone: the tree decides
only whether the place can be reached.
-/

namespace WasmDeploy

/-! ## Where a path leads to -/

/-- The place that a component leads to from a place. -/
def Place.enter (place : Place) (component : String) : Place :=
  if component = ".." then place.above else place ++ [component]

/-- The place that a path leads to if every step of it can be made. -/
def FilePath.place (path : FilePath) : Place :=
  path.components.foldl Place.enter (Place.start path)

namespace FileTree

variable {α : Type} {tree : FileTree α}

theorem follow_eq_ok {place reached : Place} {components : List String}
    (follows : tree.follow place components = .ok reached) :
    reached = components.foldl Place.enter place := by
  induction components generalizing place with
  | nil => exact (Except.ok.inj follows).symm
  | cons component rest ih =>
      rw [follow] at follows
      rw [List.foldl_cons, Place.enter]
      split at follows
      · split at follows
        · next isAbove =>
          rw [if_pos isAbove]
          exact ih follows
        · next isBelow =>
          rw [if_neg isBelow]
          split at follows
          · cases follows
          · exact ih follows
      · cases follows
      · cases follows

theorem resolve_eq_ok {path : FilePath} {place : Place} (resolves : tree.resolve path = .ok place) :
    place = path.place := by
  rw [resolve] at resolves
  split at resolves
  · cases resolves
  · exact follow_eq_ok resolves

theorem openFile_eq_ok {path : FilePath} {about : α} {place : Place}
    (opened : (tree.openFile path about).1 = .ok place) : place = path.place := by
  rw [openFile] at opened
  split at opened
  · cases opened
  · split at opened
    · cases opened
    · next reached resolves =>
      split at opened
      · cases opened
      · exact (Except.ok.inj opened).symm.trans (resolve_eq_ok resolves)
      · exact (Except.ok.inj opened).symm.trans (resolve_eq_ok resolves)

/-- A file that is opened is where its path leads to. -/
theorem makeFile_eq_ok {path : FilePath} {about : α} {place : Place}
    (opened : (tree.makeFile path about).1 = .ok place) : place = path.place := by
  rw [makeFile] at opened
  split at opened
  · cases opened
  · split at opened
    · cases opened
    · exact openFile_eq_ok opened

/-! ## What stays in a tree -/

/-- A tree still has everything that another one had. -/
def Keeps (tree made : FileTree α) : Prop :=
  ∀ place entry, tree.entry? place = some entry → made.entry? place = some entry

namespace Keeps

theorem refl (tree : FileTree α) : tree.Keeps tree :=
  fun _ _ isEntry => isEntry

theorem trans {first second third : FileTree α} (keeps : first.Keeps second) (next : second.Keeps third) :
    first.Keeps third :=
  fun place entry isEntry => next place entry (keeps place entry isEntry)

end Keeps

/-- Nothing gets lost when something is put where nothing was. -/
theorem keeps_append {place : Place} (isFree : tree.entry? place = none) (new : FileEntry α) :
    tree.Keeps (tree ++ [(place, new)]) := by
  intro other entry isEntry
  have isOther : other ≠ place := by
    rintro rfl
    cases isFree.symm.trans isEntry
  unfold FileTree.entry? at isEntry ⊢
  rw [List.lookup_append, List.lookup_cons, beq_eq_false_iff_ne.mpr isOther, List.lookup_nil, Option.or_none]
  split at isEntry
  · exact isEntry
  · split at isEntry
    · next isAbove =>
      rw [if_pos]
      · exact isEntry
      · rw [List.any_append, ← Bool.or_assoc, isAbove, Bool.true_or]
    · cases isEntry

theorem makeDirectory_keeps {path : FilePath} {made : FileTree α} (isMade : tree.makeDirectory path = .ok made) :
    tree.Keeps made := by
  simp only [makeDirectory, bind, Except.bind] at isMade
  split at isMade
  · cases isMade
  · split at isMade
    · cases isMade
    · next isFree =>
      cases isMade
      exact keeps_append isFree _

theorem makeMissing_keeps {path : FilePath} {above : Option Defect × FileTree α} (keeps : tree.Keeps above.2) :
    tree.Keeps (tree.makeMissing path above).2 := by
  unfold makeMissing
  split
  · next made isMade => exact makeDirectory_keeps isMade
  · split
    · exact .refl tree
    · split
      · exact keeps
      · next withAbove =>
        split
        · next made isMade => exact keeps.trans (makeDirectory_keeps isMade)
        · exact keeps

theorem makeDirectories_keeps (tree : FileTree α) (root : String) (names : List String) :
    tree.Keeps (tree.makeDirectories root names).2 := by
  induction names with
  | nil => exact .refl tree
  | cons name rest ih => exact makeMissing_keeps ih

theorem openFile_keeps (path : FilePath) (about : α) : tree.Keeps (tree.openFile path about).2 := by
  rw [openFile]
  split
  · exact .refl tree
  · split
    · exact .refl tree
    · split
      · exact .refl tree
      · exact .refl tree
      · next isFree => exact keeps_append isFree _

/-- Opening a file keeps everything that is in the tree, also when it fails. -/
theorem makeFile_keeps (path : FilePath) (about : α) : tree.Keeps (tree.makeFile path about).2 := by
  have keeps := makeDirectories_keeps tree path.root path.parent.components.reverse
  rw [makeFile]
  split
  · exact .refl tree
  · split
    · next isMade =>
      rw [isMade] at keeps
      exact keeps
    · next isMade =>
      rw [isMade] at keeps
      exact keeps.trans (openFile_keeps path about)

end FileTree

end WasmDeploy
