import WasmDeploy.Fault
import WasmDeploy.Url.Address

/-!
# Paths of files

This file puts paths into their plain form: repeated separators count as one, a component `.` and a separator
at the end are left out, and `..` stays. A path that starts with exactly two separators keeps both.
-/

namespace WasmDeploy

/-- A path in its plain form: what it starts with, and its components. -/
structure FilePath where
  root : String
  components : List String
deriving DecidableEq, Repr, Inhabited

namespace FilePath

/-- The root of a path, given the count of separators that it starts with. -/
def rootOf (separators : Nat) : String :=
  if separators = 0 then "" else if separators = 2 then "//" else "/"

/-- The components of a path. -/
def componentsOf (path : List Char) : List String :=
  ((Url.splitAt '/' path).map String.ofList).filter fun component =>
    component != "" && component != "."

/-- The plain form of a path. -/
def ofText (path : String) : FilePath where
  root := rootOf (path.toList.takeWhile (· == '/')).length
  components := componentsOf path.toList

/-- The text of a path; the empty path is the current directory. -/
def text (path : FilePath) : String :=
  if path.root.isEmpty && path.components.isEmpty then "."
  else path.root ++ String.intercalate "/" path.components

/-- Whether a path has a NUL character, which no name of a file may have. -/
def hasNul (path : FilePath) : Bool :=
  path.text.contains '\x00'

/-- The directory that holds the file of a path. -/
def parent (path : FilePath) : FilePath :=
  { path with components := path.components.dropLast }

/-- The path that a value gives. -/
def ofDatum (value : Datum) : Except Defect FilePath :=
  match value with
  | .text text => .ok (ofText text.shown)
  | .bytes _ => .error .pathOfBytes
  | other => .error (.notPath other.kindName)

end FilePath

end WasmDeploy
