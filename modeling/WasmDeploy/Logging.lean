import WasmDeploy.Logging.Registry

/-!
# Logging

This file sends log records to the console and to files. Setting a logger up gives it a level every time but
handlers only once. A record is handed to the handlers of its logger and of all loggers above, each with a
level of its own, and to the console as it is if there are no handlers at all.
-/

namespace WasmDeploy.Logging

/-- The size at which a log file is put aside, in bytes. -/
def fileSizeLimit : Nat := 10 * 1024 * 1024

/-- How many log files are kept aside. -/
def fileBackups : Nat := 5

/-- The loggers and the files that they write, each file with its text. -/
structure State where
  registry : Registry
  files : FileTree String
deriving Inhabited

namespace State

/-- No logger set up and no file. -/
def empty : State :=
  ⟨.empty, []⟩

/-- A logger. -/
def logger (state : State) (name : LoggerName) : Logger :=
  state.registry.logger name

/-- The state with one logger changed. -/
def setLogger (state : State) (name : LoggerName) (logger : Logger) : State :=
  { state with registry := state.registry.setLogger name logger }

/-- The state with a logger registered. -/
def register (state : State) (name : LoggerName) : State :=
  { state with registry := state.registry.register name }

/-- Adds a handler to a logger. -/
def addHandler (state : State) (name : LoggerName) (handler : Handler) : State :=
  let logger := state.logger name
  state.setLogger name { logger with handlers := logger.handlers ++ [handler] }

/-- Adds a line to a file. -/
def appendLine (state : State) (place : Place) (line : String) : State :=
  let extended (entry : Place × FileEntry String) : Place × FileEntry String :=
    match entry with
    | (other, .file text) => (other, .file (if other = place then text ++ line else text))
    | directory => directory
  { state with files := state.files.map extended }

end State

/-- How a logger is to be set up. The log file is a path, or null for none. -/
structure Setup where
  logger : LoggerName
  level : Int
  logFile : Datum
  console : Bool
  detailed : Bool
deriving Inhabited

namespace Setup

/-- The set-up that is made unless said otherwise. -/
def standard : Setup where
  logger := some "gblend_deploy"
  level := 20
  logFile := .null
  console := true
  detailed := false

/-- The state once the logger has its level and, if it had no handlers and a console is asked for, a
handler for the console. -/
def attachConsole (setup : Setup) (state : State) : State :=
  let state := state.register setup.logger
  let state :=
    state.setLogger setup.logger { state.logger setup.logger with level := setup.level }
  if setup.console && (state.logger setup.logger).handlers.isEmpty then
    state.addHandler setup.logger {
      target := .console
      level := setup.level
      format := if setup.detailed then .detailed else .simple }
  else state

/-- The state once the log file is open, with the directories above it made, and has a handler; and what went
wrong, if anything. -/
def attachFile (setup : Setup) (state : State) : Option Defect × State :=
  match FilePath.ofDatum setup.logFile with
  | .error defect => (some defect, state)
  | .ok path =>
      match state.files.makeFile path "" with
      | (.error defect, files) => (some defect, { state with files })
      | (.ok place, files) =>
          (none, { state with files }.addHandler setup.logger {
            target := .file place, level := setup.level, format := .detailed })

/-- Sets a logger up. A log file that cannot be opened is refused once all else is done. -/
def apply (setup : Setup) (state : State) : Option Defect × State :=
  let attached := setup.attachConsole state
  if setup.logFile.isNull || !(state.logger setup.logger).handlers.isEmpty then (none, attached)
  else setup.attachFile attached

end Setup

/-- Hands a record to a handler, given what is on the console already. -/
def Handler.handle (record : Record) (outcome : String × State) (handler : Handler) :
    String × State :=
  if record.level < handler.level then outcome
  else
    match handler.target with
    | .console => (outcome.1 ++ handler.format.line record, outcome.2)
    | .file place => (outcome.1, outcome.2.appendLine place (handler.format.line record))

/-- Hands a record to its logger. What comes back is what is written to the console. -/
def emit (state : State) (record : Record) : String × State :=
  let name := loggerNamed record.logger
  let state := state.register name
  if !state.registry.isEnabled name record.level then ("", state)
  else
    let handlers := state.registry.handlers name
    if handlers.isEmpty then
      (if warningLevel ≤ record.level then record.message ++ "\n" else "", state)
    else handlers.foldl (Handler.handle record) ("", state)

end WasmDeploy.Logging
