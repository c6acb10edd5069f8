import WasmDeploy.FileTree
import WasmDeploy.Logging.Format

/-!
# The tree of loggers

This file gives the loggers and the tree that their dotted names make of them. A logger is registered when it
is first asked for. Its parent is then the nearest logger above it; a name that is passed on the way is noted,
so that a logger that comes to be registered under it later can take the place of the parent.
-/

namespace WasmDeploy.Logging

/-- Where a handler writes to. -/
inductive Target where
  | console
  | file (place : Place)
deriving DecidableEq, Repr

/-- A handler writes the records from a level on. -/
structure Handler where
  target : Target
  level : Int
  format : Format
deriving DecidableEq, Repr

/-- A logger. Level zero leaves the level to the loggers above. -/
structure Logger where
  level : Int
  handlers : List Handler
deriving DecidableEq, Repr, Inhabited

/-- The name of a logger; the root of all loggers has none. -/
abbrev LoggerName := Option String

/-- The name that the root of all loggers goes by. -/
def rootName : String := "root"

/-- The logger that a name stands for. -/
def loggerNamed (name : String) : LoggerName :=
  if name = "" ∨ name = rootName then none else some name

/-- The logger that a value names. -/
def loggerOf (name : Datum) : Except Defect LoggerName :=
  match name with
  | .text text => .ok (loggerNamed text.shown)
  | other => if other.isTruthy then .error .loggerNameNotText else .ok none

/-- The level that a value gives: an integer, or the name of a level. -/
def levelOf (level : Datum) : Except Defect Int :=
  match level with
  | .text name =>
      match levelNamed? name.shown with
      | some level => .ok level
      | none => .error (.levelUnknown name)
  | other =>
      match other.integer? with
      | some level => .ok level
      | none => .error (.levelNotInteger other)

/-- The names above a name that its logger looks for a parent under, the nearest one first. The name is given
by its characters in reverse order. It is cut at its dots from the last one on, but a dot just before another
one that it is cut at is passed over, and so is one at its start. -/
def namesAbove : List Char → List String
  | '.' :: last :: rest => String.ofList (last :: rest).reverse :: namesAbove rest
  | _ :: rest => namesAbove rest
  | [] => []

/-- The loggers with what was set for them, the parents of those that are registered, and the names that
registered loggers have passed in search of a parent. -/
structure Registry where
  loggers : List (LoggerName × Logger)
  parents : List (String × LoggerName)
  awaited : List (String × List String)
deriving Inhabited

namespace Registry

/-- No logger registered. -/
def empty : Registry :=
  ⟨[], [], []⟩

/-- A logger. One that was never set up has no handlers and no level; only the root has one. -/
def logger (registry : Registry) (name : LoggerName) : Logger :=
  (registry.loggers.lookup name).getD ⟨if name.isNone then warningLevel else 0, []⟩

/-- The registry with one logger changed. -/
def setLogger (registry : Registry) (name : LoggerName) (logger : Logger) : Registry :=
  { registry with
    loggers := (name, logger) :: registry.loggers.filter fun other => other.1 != name }

/-- The parent of a logger. -/
def parent (registry : Registry) (name : String) : LoggerName :=
  (registry.parents.lookup name).getD none

/-- Whether a logger is registered under a name. -/
def isRegistered (registry : Registry) (name : String) : Bool :=
  (registry.parents.lookup name).isSome

/-- The registry with a parent for a logger. -/
def setParent (registry : Registry) (name : String) (parent : LoggerName) : Registry :=
  { registry with
    parents := (name, parent) :: registry.parents.filter fun other => other.1 != name }

/-- Puts a logger that has passed a name under the logger registered there, unless its parent's name starts
with that name. The root counts with the name that it goes by. -/
def adopt (name : String) (registry : Registry) (child : String) : Registry :=
  if ((registry.parent child).getD rootName).startsWith name then registry
  else registry.setParent child (some name)

/-- The registry with a note that a logger has passed a name in search of a parent. -/
def notePassed (registry : Registry) (child name : String) : Registry :=
  let waiting := (registry.awaited.lookup name).getD [] ++ [child]
  { registry with
    awaited := (name, waiting) :: registry.awaited.filter fun other => other.1 != name }

/-- Finds the parent of a new logger under the names above it, noting those that are passed. -/
def settle (registry : Registry) (child : String) : List String → Registry
  | [] => registry.setParent child none
  | name :: rest =>
      if registry.isRegistered name then registry.setParent child (some name)
      else (registry.notePassed child name).settle child rest

/-- Registers a logger if it is not registered yet. -/
def register (registry : Registry) (name : LoggerName) : Registry :=
  match name with
  | none => registry
  | some name =>
      if registry.isRegistered name then registry
      else
        let children := (registry.awaited.lookup name).getD []
        let fulfilled :=
          { registry with awaited := registry.awaited.filter fun other => other.1 != name }
        (children.foldl (adopt name) fulfilled).settle name (namesAbove name.toList.reverse)

/-- A logger and the loggers above it, the root last. A parent has a shorter name than its child, so there
are no more `steps` than characters in a name. -/
def lineageFrom (registry : Registry) : (steps : Nat) → LoggerName → List LoggerName
  | steps + 1, some name => some name :: registry.lineageFrom steps (registry.parent name)
  | _, _ => [none]

/-- A logger and all loggers above it, the root last. -/
def lineage (registry : Registry) (name : LoggerName) : List LoggerName :=
  registry.lineageFrom ((name.map String.length).getD 0) name

/-- The level that decides for a logger: the first one that is set from the logger upwards. -/
def effectiveLevel (registry : Registry) (name : LoggerName) : Int :=
  (((registry.lineage name).map fun name => (registry.logger name).level).find? (· ≠ 0)).getD 0

/-- Whether a logger takes records of a level; records of level zero and below are never taken. -/
def isEnabled (registry : Registry) (name : LoggerName) (level : Int) : Bool :=
  0 < level && registry.effectiveLevel name ≤ level

/-- The handlers of a logger and of all loggers above it. -/
def handlers (registry : Registry) (name : LoggerName) : List Handler :=
  (registry.lineage name).flatMap fun name => (registry.logger name).handlers

end Registry

end WasmDeploy.Logging
