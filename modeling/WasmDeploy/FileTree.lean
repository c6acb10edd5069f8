import WasmDeploy.FilePath

/-!
# Files and directories

This file gives the files and directories around the working directory, finds the place that a path leads to
and makes directories. Every step of a path has to go through a directory, also a step to the directory above.
-/

namespace WasmDeploy

/-- A file: its content, and the errors that opening it and reading it in full end with. -/
structure File where
  content : Bytes
  openError : Option FileError
  readError : Option FileError
deriving DecidableEq, Repr, Inhabited

/-- A place: the components of the way to it from the working directory. The directories above that one are
written with `..`, and the places that do not depend on it start with `/`. -/
abbrev Place := List String

namespace Place

/-- The place above all others. -/
def root : Place := ["/"]

/-- The place that a path starts from. -/
def start (path : FilePath) : Place :=
  if path.root.isEmpty then [] else root

/-- Whether a place is a directory whatever a tree holds: the root, the working directory and those above
it. -/
def isGiven (place : Place) : Bool :=
  place == root || place.all (· == "..")

/-- The directory above a place; the root is above itself. -/
def above (place : Place) : Place :=
  if place == root then place
  else if place.all (· == "..") then place ++ [".."]
  else place.dropLast

/-- Whether a place lies below the working directory. -/
def isInside (place : Place) : Bool :=
  place.head?.any fun first => first != ".." && first != "/"

end Place

/-- What a place in a tree holds: a directory, or a file known by something about it. -/
inductive FileEntry (α : Type) where
  | directory
  | file (about : α)
deriving DecidableEq, Repr, Inhabited

/-- The places of a tree with what they hold. -/
abbrev FileTree (α : Type) := List (Place × FileEntry α)

namespace FileTree

variable {α : Type}

/-- What a place holds. Whatever lies above another place is a directory. -/
def entry? (tree : FileTree α) (place : Place) : Option (FileEntry α) :=
  match tree.lookup place with
  | some entry => some entry
  | none =>
      if place.isGiven || tree.any fun other => place.isPrefixOf other.1 then some .directory
      else none

/-- The most bytes that the name of a file may have. -/
def maxNameBytes : Nat := 255

/-- The most bytes that a path may have. -/
def maxPathBytes : Nat := 4095

/-- The place that components lead to from a place. All but the last of them have to lead to directories. -/
def follow (tree : FileTree α) (place : Place) : List String → Except FileError Place
  | [] => .ok place
  | component :: rest =>
      match tree.entry? place with
      | some .directory =>
          if component = ".." then tree.follow place.above rest
          else if maxNameBytes < component.utf8ByteSize then .error .nameTooLong
          else tree.follow (place ++ [component]) rest
      | some (.file _) => .error .notDirectory
      | none => .error .missing

/-- The place that a path leads to. -/
def resolve (tree : FileTree α) (path : FilePath) : Except FileError Place :=
  if maxPathBytes < path.text.utf8ByteSize then .error .nameTooLong
  else tree.follow (Place.start path) path.components

/-- The file that a path leads to, if any. A path with a NUL character leads nowhere. -/
def find (tree : FileTree α) (path : FilePath) : Except Fault (Option α) :=
  if path.hasNul then .ok none
  else
    match tree.resolve path with
    | .error error =>
        if error = .nameTooLong then reject (.fileError error path.text) else .ok none
    | .ok place =>
        match tree.entry? place with
        | some (.file about) => .ok (some about)
        | _ => .ok none

/-- Whether a path leads to a directory. -/
def hasDirectory (tree : FileTree α) (path : FilePath) : Bool :=
  match tree.resolve path with
  | .error _ => false
  | .ok place =>
      match tree.entry? place with
      | some .directory => true
      | _ => false

/-- The tree with one more directory. -/
def makeDirectory (tree : FileTree α) (path : FilePath) : Except FileError (FileTree α) := do
  let place ← tree.resolve path
  match tree.entry? place with
  | some _ => .error .alreadyThere
  | none => .ok (tree ++ [(place, .directory)])

/-- What is wrong if no directory could be made at a path: nothing, if a directory is there already. -/
def refusal? (tree : FileTree α) (path : FilePath) (error : FileError) : Option Defect :=
  if tree.hasDirectory path then none else some (.fileError error path.text)

/-- Makes the directory of a path. Those above it, if they are missing, come from `above`, and a directory that is
there already is kept. What comes back is what went wrong, if anything, and the tree, in which everything that
was made before stays. -/
def makeMissing (tree : FileTree α) (path : FilePath) (above : Option Defect × FileTree α) :
    Option Defect × FileTree α :=
  match tree.makeDirectory path with
  | .ok made => (none, made)
  | .error error =>
      if error ≠ .missing then (tree.refusal? path error, tree)
      else
        match above with
        | (some defect, tree) => (some defect, tree)
        | (none, tree) =>
            match tree.makeDirectory path with
            | .ok made => (none, made)
            | .error error => (tree.refusal? path error, tree)

/-- Makes the directory of a path and all those above it, the path being given by its root and its components
from the last one on. -/
def makeDirectories (tree : FileTree α) (root : String) :
    List String → Option Defect × FileTree α
  | [] => (none, tree)
  | name :: rest =>
      tree.makeMissing ⟨root, (name :: rest).reverse⟩ (tree.makeDirectories root rest)

/-- Opens the file at a path, which is made if nothing is there. What comes back is the place of the file. -/
def openFile (tree : FileTree α) (path : FilePath) (about : α) : Except Defect Place × FileTree α :=
  if path.hasNul then (.error .pathWithNul, tree)
  else
    match tree.resolve path with
    | .error error => (.error (.fileError error path.text), tree)
    | .ok place =>
        match tree.entry? place with
        | some .directory => (.error (.fileError .isDirectory path.text), tree)
        | some (.file _) => (.ok place, tree)
        | none => (.ok place, tree ++ [(place, .file about)])

/-- Opens the file at a path once the directories above it are made. These stay if the file cannot be opened. -/
def makeFile (tree : FileTree α) (path : FilePath) (about : α) : Except Defect Place × FileTree α :=
  if path.parent.hasNul then (.error .pathWithNul, tree)
  else
    match tree.makeDirectories path.root path.parent.components.reverse with
    | (some defect, tree) => (.error defect, tree)
    | (none, tree) => tree.openFile path about

end FileTree

end WasmDeploy
