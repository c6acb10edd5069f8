import WasmDeploy.World

/-!
# Artifacts

This file checks that a path leads to a WebAssembly binary module and reads it. The check reads no more than
the first bytes of the file.
-/

namespace WasmDeploy

namespace Artifact

/-- The bytes that every WebAssembly binary module starts with. -/
def magic : Bytes :=
  [0x00, 0x61, 0x73, 0x6d]

/-- The file that a path leads to, checked to be a module. -/
def locate (files : FileTree File) (path : FilePath) : Except Fault File := do
  let some file ← files.find path
    | fail (.artifactMissing path.text)
  match file.openError with
  | some error => fail (.artifactUnreadable path.text error)
  | none =>
      if file.content.take magic.length = magic then return file
      else fail (.artifactWithoutMagic path.text)

/-- The path that a value gives, checked to lead to a module. -/
def validate (files : FileTree File) (wasmFile : Datum) : Except Fault FilePath := do
  let path ← (FilePath.ofDatum wasmFile).mapError .defect
  let _ ← locate files path
  return path

/-- The content of the module that a value gives the path of. -/
def content (files : FileTree File) (wasmFile : Datum) : Except Fault Bytes := do
  let path ← (FilePath.ofDatum wasmFile).mapError .defect
  let file ← locate files path
  match file.readError with
  | some error => fail (.artifactUnreadable path.text error)
  | none => return file.content

/-- Reads the module that a value gives the path of. -/
def read {σ : Type} (wasmFile : Datum) : Run σ Bytes := do
  let artifact ← content (← get).files wasmFile
  Run.log .info .artifact (.ok s!"WASM file size: {artifact.length} bytes")
  return artifact

end Artifact

end WasmDeploy
