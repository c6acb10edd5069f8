import WasmDeploy.Text.Quoted

/-!
# Errors of the file system

This file gives the errors that the file system answers with, each known by its number and its text.
-/

namespace WasmDeploy

/-- An error of the file system: its number and its text. -/
structure FileError where
  number : Int
  text : String
deriving DecidableEq, Repr, Inhabited

namespace FileError

/-- The message of an error on a path. -/
def message (error : FileError) (path : String) : String :=
  s!"[Errno {error.number}] {error.text}: {Text.quoted path}"

/-- Nothing is at a path, or at a place on the way to it. -/
def missing : FileError := ⟨2, "No such file or directory"⟩

/-- Something is at a path already. -/
def alreadyThere : FileError := ⟨17, "File exists"⟩

/-- A place on the way to a path is no directory. -/
def notDirectory : FileError := ⟨20, "Not a directory"⟩

/-- A directory is where a file is asked for. -/
def isDirectory : FileError := ⟨21, "Is a directory"⟩

/-- A path, or a name in it, has too many bytes. -/
def nameTooLong : FileError := ⟨36, "File name too long"⟩

end FileError

end WasmDeploy
