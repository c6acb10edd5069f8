import Mathlib
import WasmDeploy.Proofs.FileTree
import WasmDeploy.Proofs.Logging.Registry

/-!
# Histories of set-ups

This file follows loggers through any sequence of set-ups. Every set-up sets the level of its logger, but only the
first one that asks for a handler attaches any. Its handlers are never changed again, neither by a set-up of the same
logger nor by one of another. A set-up that fails at its log file has set the level and attached the console already:
the logger is left with the console alone, and setting it up again does not attach the file any more.
-/

namespace WasmDeploy.Logging

namespace State

/-! ## Loggers of a state -/

@[simp]
theorem logger_register (state : State) (name other : LoggerName) :
    (state.register name).logger other = state.logger other :=
  Registry.logger_register _ _ _

@[simp]
theorem logger_setLogger_self (state : State) (name : LoggerName) (logger : Logger) :
    (state.setLogger name logger).logger name = logger :=
  Registry.logger_setLogger_self _ _ _

theorem logger_setLogger_of_ne (state : State) {name other : LoggerName} (isOther : other ≠ name)
    (logger : Logger) : (state.setLogger name logger).logger other = state.logger other :=
  Registry.logger_setLogger_of_ne _ isOther _

@[simp]
theorem logger_addHandler_self (state : State) (name : LoggerName) (handler : Handler) :
    (state.addHandler name handler).logger name =
      ⟨(state.logger name).level, (state.logger name).handlers ++ [handler]⟩ :=
  logger_setLogger_self _ _ _

theorem logger_addHandler_of_ne (state : State) {name other : LoggerName} (isOther : other ≠ name)
    (handler : Handler) : (state.addHandler name handler).logger other = state.logger other :=
  logger_setLogger_of_ne _ isOther _

/-- The loggers at the start, when there are files and no logger was set up yet. -/
def start (files : FileTree String) : State :=
  ⟨.empty, files⟩

theorem handlers_start (files : FileTree String) (name : LoggerName) : ((start files).logger name).handlers = [] :=
  rfl

end State

open State

namespace Setup

/-! ## The handlers that a set-up asks for -/

/-- The handler for the console, with the level of the set-up and the format that it asks for. -/
def consoleHandler (setup : Setup) : Handler where
  target := .console
  level := setup.level
  format := if setup.detailed then .detailed else .simple

/-- The handler for the console, if it is asked for. -/
def consoleHandlers (setup : Setup) : List Handler :=
  if setup.console then [setup.consoleHandler] else []

/-- The handler for the file that the path of the log file leads to, if there is one; its format is always the
detailed one. -/
def fileHandlers (setup : Setup) : List Handler :=
  match FilePath.ofDatum setup.logFile with
  | .ok path => [⟨.file path.place, setup.level, .detailed⟩]
  | .error _ => []

/-- The handlers that a set-up asks for: one for the console at most, and then one for a file at most. -/
def handlers (setup : Setup) : List Handler :=
  setup.consoleHandlers ++ setup.fileHandlers

/-- The handlers that a set-up attaches to a logger that has none, given the defect that it ends with. -/
def attached (setup : Setup) : Option Defect → List Handler
  | none => setup.handlers
  | some _ => setup.consoleHandlers

/-- Whether a set-up asks for a handler. -/
def asksForHandler (setup : Setup) : Bool :=
  setup.console || !setup.logFile.isNull

theorem fileHandlers_of_null {setup : Setup} (isNull : setup.logFile.isNull = true) :
    setup.fileHandlers = [] := by
  cases isFile : setup.logFile <;> simp_all [Datum.isNull, fileHandlers, FilePath.ofDatum]

theorem target_of_mem_fileHandlers {setup : Setup} {handler : Handler} (mem : handler ∈ setup.fileHandlers) :
    handler.target ≠ .console := by
  rw [fileHandlers] at mem
  split at mem
  · rw [List.mem_singleton.mp mem]
    nofun
  · cases mem

theorem handlers_of_idle {setup : Setup} (idle : setup.asksForHandler = false) : setup.handlers = [] := by
  simp only [asksForHandler, Bool.or_eq_false_iff, Bool.not_eq_false'] at idle
  simp [handlers, consoleHandlers, idle.1, fileHandlers_of_null idle.2]

/-! ## What one set-up does -/

variable {setup : Setup} {state : State}

theorem logger_attachConsole_self (setup : Setup) (state : State) :
    (setup.attachConsole state).logger setup.logger =
      ⟨setup.level, if (state.logger setup.logger).handlers = [] then setup.consoleHandlers
        else (state.logger setup.logger).handlers⟩ := by
  simp only [attachConsole, logger_register, logger_setLogger_self, Bool.and_eq_true, List.isEmpty_iff, consoleHandlers]
  split
  · next asked => simp [asked, consoleHandler]
  · next unasked =>
    rw [logger_setLogger_self]
    split
    · next bare => simp_all
    · rfl

theorem logger_attachConsole_of_ne {name : LoggerName} (isOther : name ≠ setup.logger) (state : State) :
    (setup.attachConsole state).logger name = state.logger name := by
  simp only [attachConsole]
  split
  · rw [logger_addHandler_of_ne _ isOther, logger_setLogger_of_ne _ isOther, logger_register]
  · rw [logger_setLogger_of_ne _ isOther, logger_register]

theorem files_attachConsole (setup : Setup) (state : State) : (setup.attachConsole state).files = state.files := by
  simp only [attachConsole]
  split <;> rfl

/-- A log file that cannot be opened leaves all loggers as they are, and one that is opened adds its handler to the
logger that is set up. -/
theorem attachFile_cases (setup : Setup) (state : State) :
    (∃ defect, (setup.attachFile state).1 = some defect ∧
      ∀ name, (setup.attachFile state).2.logger name = state.logger name) ∨
    (setup.attachFile state).1 = none ∧ setup.fileHandlers ≠ [] ∧
      (setup.attachFile state).2.logger setup.logger =
        ⟨(state.logger setup.logger).level, (state.logger setup.logger).handlers ++ setup.fileHandlers⟩ ∧
      ∀ name, name ≠ setup.logger → (setup.attachFile state).2.logger name = state.logger name := by
  simp only [attachFile]
  split
  · next defect _ => exact .inl ⟨defect, rfl, fun _ => rfl⟩
  · next path isFile =>
    split
    · next defect files _ => exact .inl ⟨defect, rfl, fun _ => rfl⟩
    · next place files opened =>
      have isPlace : place = path.place := FileTree.makeFile_eq_ok (congrArg Prod.fst opened)
      have asked : setup.fileHandlers = [⟨.file place, setup.level, .detailed⟩] := by
        rw [fileHandlers, isFile, isPlace]
      refine .inr ⟨rfl, by simp [asked], ?_, fun name isOther => logger_addHandler_of_ne _ isOther _⟩
      rw [logger_addHandler_self, asked]
      rfl

theorem files_attachFile (setup : Setup) (state : State) : state.files.Keeps (setup.attachFile state).2.files := by
  simp only [attachFile]
  split
  · exact .refl _
  · next path _ =>
    have keeps := state.files.makeFile_keeps path ""
    split
    · next files isMade =>
      rw [isMade] at keeps
      exact keeps
    · next files isMade =>
      rw [isMade] at keeps
      exact keeps

/-- A set-up stops once the console is attached, unless there is a log file to attach as well. -/
theorem apply_cases (setup : Setup) (state : State) :
    (setup.apply state = (none, setup.attachConsole state) ∧
      (setup.logFile.isNull = true ∨ (state.logger setup.logger).handlers ≠ [])) ∨
    (setup.apply state = setup.attachFile (setup.attachConsole state) ∧
      (state.logger setup.logger).handlers = []) := by
  simp only [apply]
  split
  · next stops =>
    simp only [Bool.or_eq_true, Bool.not_eq_true', List.isEmpty_eq_false_iff] at stops
    exact .inl ⟨rfl, stops⟩
  · next goes =>
    simp only [Bool.or_eq_true, Bool.not_eq_true', List.isEmpty_eq_false_iff, not_or, not_not] at goes
    exact .inr ⟨rfl, goes.2⟩

/-- A set-up sets the level of its logger, and attaches handlers if it has none. -/
theorem logger_apply_self (setup : Setup) (state : State) :
    (setup.apply state).2.logger setup.logger =
      ⟨setup.level, if (state.logger setup.logger).handlers = [] then setup.attached (setup.apply state).1
        else (state.logger setup.logger).handlers⟩ := by
  rcases setup.apply_cases state with ⟨isConsole, stops⟩ | ⟨isFile, bare⟩
  · rw [isConsole, logger_attachConsole_self]
    congr 1
    refine ite_congr rfl (fun bare => ?_) fun _ => rfl
    rcases stops with isNull | busy
    · simp [attached, handlers, fileHandlers_of_null isNull]
    · exact absurd bare busy
  · rw [isFile, if_pos bare]
    have isConsole := logger_attachConsole_self setup state
    rw [if_pos bare] at isConsole
    rcases setup.attachFile_cases (setup.attachConsole state) with ⟨defect, failed, kept⟩ | ⟨opened, _, added, _⟩
    · rw [failed, kept, isConsole, attached]
    · rw [opened, added, isConsole, attached, handlers]

theorem logger_apply_of_nil (bare : (state.logger setup.logger).handlers = [])
    (succeeds : (setup.apply state).1 = none) :
    (setup.apply state).2.logger setup.logger = ⟨setup.level, setup.handlers⟩ := by
  rw [logger_apply_self, if_pos bare, succeeds, attached]

/-- A set-up does nothing to other loggers. -/
theorem logger_apply_of_ne {name : LoggerName} (isOther : name ≠ setup.logger) (state : State) :
    (setup.apply state).2.logger name = state.logger name := by
  rcases setup.apply_cases state with ⟨isConsole, _⟩ | ⟨isFile, _⟩
  · rw [isConsole, logger_attachConsole_of_ne isOther]
  · rw [isFile, ← logger_attachConsole_of_ne isOther state]
    rcases setup.attachFile_cases (setup.attachConsole state) with ⟨_, _, kept⟩ | ⟨_, _, _, kept⟩
    · exact kept name
    · exact kept name isOther

theorem files_apply (setup : Setup) (state : State) : state.files.Keeps (setup.apply state).2.files := by
  rcases setup.apply_cases state with ⟨isConsole, _⟩ | ⟨isFile, _⟩
  · rw [isConsole, files_attachConsole]
    exact .refl _
  · rw [isFile, ← files_attachConsole setup state]
    exact files_attachFile _ _

/-- A logger that has handlers keeps them, whatever is set up. -/
theorem handlers_apply_of_ne_nil (setup : Setup) {name : LoggerName} (busy : (state.logger name).handlers ≠ []) :
    ((setup.apply state).2.logger name).handlers = (state.logger name).handlers := by
  by_cases isSelf : name = setup.logger
  · subst isSelf
    rw [logger_apply_self, if_neg busy]
  · rw [logger_apply_of_ne isSelf]

/-- A set-up that asks for a handler and does not fail attaches one. -/
theorem handlers_ne_nil (asks : setup.asksForHandler = true) (bare : (state.logger setup.logger).handlers = [])
    (succeeds : (setup.apply state).1 = none) : setup.handlers ≠ [] := by
  by_cases console : setup.console = true
  · simp [handlers, consoleHandlers, console]
  · have isFile : setup.logFile.isNull = false := by simpa [asksForHandler, console] using asks
    rcases setup.apply_cases state with ⟨_, isNull | busy⟩ | ⟨attaches, _⟩
    · simp [isFile] at isNull
    · exact absurd bare busy
    · rw [attaches] at succeeds
      rcases setup.attachFile_cases (setup.attachConsole state) with ⟨_, failed, _⟩ | ⟨_, made, _⟩
      · cases failed.symm.trans succeeds
      · exact fun none => made (List.append_eq_nil_iff.mp none).2

/-- A set-up that does not touch its log file does not fail. -/
theorem apply_eq_none_of_ne_nil (busy : (state.logger setup.logger).handlers ≠ []) :
    (setup.apply state).1 = none := by
  rcases setup.apply_cases state with ⟨isConsole, _⟩ | ⟨_, bare⟩
  · rw [isConsole]
  · exact absurd bare busy

end Setup

/-! ## Set-ups one after another -/

namespace State

variable {state : State} {name : LoggerName}

/-- The state after set-ups that are made one after another, whatever comes of each. -/
def afterAll (state : State) (history : List Setup) : State :=
  history.foldl (fun state setup => (setup.apply state).2) state

@[simp]
theorem afterAll_cons (state : State) (setup : Setup) (rest : List Setup) :
    state.afterAll (setup :: rest) = (setup.apply state).2.afterAll rest :=
  rfl

theorem afterAll_append (state : State) (before after : List Setup) :
    state.afterAll (before ++ after) = (state.afterAll before).afterAll after :=
  List.foldl_append

/-- None of the set-ups that are made one after another fails. -/
def AllSucceed : State → List Setup → Prop
  | _, [] => True
  | state, setup :: rest => (setup.apply state).1 = none ∧ AllSucceed (setup.apply state).2 rest

theorem allSucceed_append {before after : List Setup} :
    state.AllSucceed (before ++ after) ↔ state.AllSucceed before ∧ (state.afterAll before).AllSucceed after := by
  induction before generalizing state with
  | nil => simp [AllSucceed, afterAll]
  | cons setup rest ih => simp [AllSucceed, ih, and_assoc]

/-- Set-ups of other loggers do nothing to a logger. -/
theorem logger_afterAll_of_others {history : List Setup} (others : ∀ setup ∈ history, setup.logger ≠ name) :
    (state.afterAll history).logger name = state.logger name := by
  induction history generalizing state with
  | nil => rfl
  | cons setup rest ih =>
      rcases List.forall_mem_cons.mp others with ⟨isOther, others⟩
      rw [afterAll_cons, ih others, Setup.logger_apply_of_ne isOther.symm]

/-- Handlers that a logger has are kept through any history. -/
theorem handlers_afterAll_of_ne_nil (history : List Setup) (busy : (state.logger name).handlers ≠ []) :
    ((state.afterAll history).logger name).handlers = (state.logger name).handlers := by
  induction history generalizing state with
  | nil => rfl
  | cons setup rest ih =>
      have kept := setup.handlers_apply_of_ne_nil busy
      rw [afterAll_cons, ih (kept ▸ busy), kept]

/-- A logger has no handlers as long as none of its set-ups asks for any. -/
theorem handlers_afterAll_of_idle {history : List Setup} (bare : (state.logger name).handlers = [])
    (idle : ∀ setup ∈ history, setup.logger = name → setup.asksForHandler = false) :
    ((state.afterAll history).logger name).handlers = [] := by
  induction history generalizing state with
  | nil => exact bare
  | cons setup rest ih =>
      rcases List.forall_mem_cons.mp idle with ⟨idleFirst, idle⟩
      refine ih ?_ idle
      by_cases isSelf : name = setup.logger
      · subst isSelf
        have none := Setup.handlers_of_idle (idleFirst rfl)
        have noConsole := (List.append_eq_nil_iff.mp none).1
        rw [Setup.logger_apply_self, if_pos bare]
        cases (setup.apply state).1 with
        | none => exact none
        | some defect => exact noConsole
      · rw [Setup.logger_apply_of_ne isSelf, bare]

/-- The level of a logger is the one of its latest set-up. -/
theorem level_afterAll (state : State) {history : List Setup} {last : Setup}
    (isLast : (history.filter (·.logger = name)).getLast? = some last) :
    ((state.afterAll history).logger name).level = last.level := by
  -- Looked at from its end, the history starts with set-ups of other loggers.
  rw [List.getLast?_filter, List.find?_eq_some_iff_append] at isLast
  rcases isLast with ⟨isNamed, after, before, isHistory, others⟩
  obtain rfl : last.logger = name := by simpa using isNamed
  rw [List.reverse_eq_iff, List.reverse_append, List.reverse_cons, List.append_assoc] at isHistory
  rw [isHistory, afterAll_append]
  show (((last.apply _).2.afterAll after.reverse).logger last.logger).level = last.level
  rw [logger_afterAll_of_others, Setup.logger_apply_self]
  simpa using others

/-- The handlers that a set-up attaches to a logger without any are kept from then on. -/
theorem handlers_afterAll_of_attached {before : List Setup} {first : Setup} (after : List Setup)
    (bare : ((state.afterAll before).logger first.logger).handlers = [])
    (attaches : first.attached (first.apply (state.afterAll before)).1 ≠ []) :
    ((state.afterAll (before ++ first :: after)).logger first.logger).handlers =
      first.attached (first.apply (state.afterAll before)).1 := by
  have made : ((first.apply (state.afterAll before)).2.logger first.logger).handlers =
      first.attached (first.apply (state.afterAll before)).1 := by
    rw [Setup.logger_apply_self, if_pos bare]
  rw [afterAll_append, afterAll_cons, handlers_afterAll_of_ne_nil _ (made ▸ attaches), made]

/-- The handlers of a logger are those of the first of its set-ups that asks for any. -/
theorem handlers_afterAll {history : List Setup} {first : Setup} (bare : (state.logger name).handlers = [])
    (succeed : state.AllSucceed history)
    (isFirst : history.find? (fun setup => setup.logger = name && setup.asksForHandler) = some first) :
    ((state.afterAll history).logger name).handlers = first.handlers := by
  rcases List.find?_eq_some_iff_append.mp isFirst with ⟨asks, before, after, rfl, idle⟩
  simp only [Bool.and_eq_true, decide_eq_true_eq] at asks
  obtain ⟨rfl, asks⟩ := asks
  rcases allSucceed_append.mp succeed with ⟨_, succeeds, _⟩
  have bareBefore : ((state.afterAll before).logger first.logger).handlers = [] := by
    refine handlers_afterAll_of_idle bare fun setup mem isNamed => ?_
    simpa [isNamed] using idle setup mem
  -- What is attached is told by how the set-up ends; it could be less only if it failed.
  have attached : first.attached (first.apply (state.afterAll before)).1 = first.handlers := by
    rw [succeeds, Setup.attached]
  rw [handlers_afterAll_of_attached after bareBefore, attached]
  rw [attached]
  exact Setup.handlers_ne_nil asks bareBefore succeeds

/-- What a history of set-ups has made of a logger. Its level is that of its latest set-up. It has no handlers if none
of its set-ups has asked for any, and otherwise exactly those of the first that has; and whatever is set up next, the
handlers that it has are kept. -/
structure IsSetUp (state : State) (history : List Setup) (name : LoggerName) : Prop where
  level : ∀ last, (history.filter (·.logger = name)).getLast? = some last → (state.logger name).level = last.level
  bare : history.find? (fun setup => setup.logger = name && setup.asksForHandler) = none →
    (state.logger name).handlers = []
  attached : ∀ first, history.find? (fun setup => setup.logger = name && setup.asksForHandler) = some first →
    (state.logger name).handlers = first.handlers
  kept : (state.logger name).handlers ≠ [] → ∀ setup : Setup,
    ((setup.apply state).2.logger name).handlers = (state.logger name).handlers

/-- However loggers are set up, each has the level of its latest set-up and the handlers of its first one. -/
theorem afterAll_isSetUp (files : FileTree String) (history : List Setup) (succeed : (start files).AllSucceed history)
    (name : LoggerName) : ((start files).afterAll history).IsSetUp history name where
  level := fun _ => level_afterAll (start files)
  bare := by
    intro idle
    refine handlers_afterAll_of_idle (handlers_start files name) fun setup mem isNamed => ?_
    simpa [isNamed] using List.find?_eq_none.mp idle setup mem
  attached := fun _ => handlers_afterAll (handlers_start files name) succeed
  kept := fun busy setup => setup.handlers_apply_of_ne_nil busy

/-- Set-ups of two loggers, the first of them asking for no handler and the last for another file. -/
def exampleHistory : List Setup :=
  [⟨some "app", 30, .null, false, false⟩, ⟨some "app", 20, .text "logs/app.log", true, true⟩,
    ⟨none, 40, .null, true, false⟩, ⟨some "app", 10, .text "app.log", false, false⟩]

/-- The logger that is set up three times ends with the last level and with the handlers of the second set-up. -/
theorem afterAll_isSetUp_exampleHistory :
    (start []).AllSucceed exampleHistory ∧
      ((start []).afterAll exampleHistory).IsSetUp exampleHistory (some "app") := by
  have succeed : (start []).AllSucceed exampleHistory := by
    refine ⟨rfl, ?_, rfl, ?_, trivial⟩
    · cbv
    · cbv
  exact ⟨succeed, afterAll_isSetUp [] exampleHistory succeed (some "app")⟩

end State

/-! ## Set-ups that fail -/

namespace Setup

variable {setup : Setup} {state : State}

/-- What a set-up that has failed leaves behind. Its logger had no handlers before; it has the level of the set-up
and, if the set-up asks for it, the handler for the console. Other loggers and the files that were there are kept.
Without a console the set-up can be made again, and the logger is then as if it had not failed; with one, no later
set-up ever attaches the file, nor does it fail. -/
structure LeavesConsole (setup : Setup) (before after : State) : Prop where
  bare : (before.logger setup.logger).handlers = []
  logger : after.logger setup.logger = ⟨setup.level, setup.consoleHandlers⟩
  others : ∀ name, name ≠ setup.logger → after.logger name = before.logger name
  files : before.files.Keeps after.files
  again : setup.console = false → ∀ retry : Setup, retry.logger = setup.logger → (retry.apply after).1 = none →
    (retry.apply after).2.logger setup.logger = ⟨retry.level, retry.handlers⟩ ∧
      ((retry.apply before).1 = none →
        (retry.apply after).2.logger setup.logger = (retry.apply before).2.logger setup.logger)
  stuck : setup.console = true → ∀ later : List Setup,
    ((after.afterAll later).logger setup.logger).handlers = [setup.consoleHandler] ∧
      ∀ retry : Setup, retry.logger = setup.logger → (retry.apply (after.afterAll later)).1 = none

/-- A set-up that fails leaves its logger with the console alone. -/
theorem apply_leavesConsole {defect : Defect} (failed : (setup.apply state).1 = some defect) :
    setup.LeavesConsole state (setup.apply state).2 := by
  have bare : (state.logger setup.logger).handlers = [] := by
    by_contra busy
    cases failed.symm.trans (apply_eq_none_of_ne_nil busy)
  have isLogger : (setup.apply state).2.logger setup.logger = ⟨setup.level, setup.consoleHandlers⟩ := by
    rw [logger_apply_self, if_pos bare, failed, attached]
  refine {
    bare
    logger := isLogger
    others := fun name isOther => logger_apply_of_ne isOther state
    files := files_apply setup state
    again := ?again
    stuck := ?stuck }
  case again =>
    intro silent retry isNamed succeeds
    have noConsole : setup.consoleHandlers = [] := by simp [consoleHandlers, silent]
    have bareAfter : ((setup.apply state).2.logger retry.logger).handlers = [] := by
      rw [isNamed, isLogger, noConsole]
    rw [← isNamed] at bare ⊢
    refine ⟨logger_apply_of_nil bareAfter succeeds, fun succeedsBefore => ?_⟩
    rw [logger_apply_of_nil bareAfter succeeds, logger_apply_of_nil bare succeedsBefore]
  case stuck =>
    intro asked later
    have console : setup.consoleHandlers = [setup.consoleHandler] := by simp [consoleHandlers, asked]
    have busy : ((setup.apply state).2.logger setup.logger).handlers ≠ [] := by simp [isLogger, console]
    have kept := handlers_afterAll_of_ne_nil later busy
    refine ⟨by rw [kept, isLogger, console], fun retry isNamed => apply_eq_none_of_ne_nil ?_⟩
    rw [isNamed, kept]
    exact busy

/-- A log file that is asked for below a file, where no directory can be made. -/
def belowFile : Setup :=
  { standard with logFile := .text "app.log/deploy.log" }

/-- The files that hold just the one in the way. -/
def fileInTheWay : FileTree String :=
  [(["app.log"], .file "")]

theorem apply_belowFile :
    (belowFile.apply (start fileInTheWay)).1 = some (.fileError .alreadyThere "app.log") := by
  cbv

/-- The logger keeps the console of the set-up that has failed. -/
theorem apply_leavesConsole_belowFile :
    (belowFile.apply (start fileInTheWay)).1 = some (.fileError .alreadyThere "app.log") ∧
      belowFile.LeavesConsole (start fileInTheWay) (belowFile.apply (start fileInTheWay)).2 :=
  ⟨apply_belowFile, apply_leavesConsole apply_belowFile⟩

/-- A set-up that fails need not leave the handlers as they were. -/
theorem exists_halfConfigured :
    ¬∀ (files : FileTree String) (setup : Setup), (setup.apply (start files)).1 ≠ none →
      ((setup.apply (start files)).2.logger setup.logger).handlers =
        ((start files).logger setup.logger).handlers := by
  intro unchanged
  have failed := apply_belowFile
  have bare := unchanged fileInTheWay belowFile (by rw [failed]; nofun)
  rw [logger_apply_self, handlers_start, failed] at bare
  cases bare

end Setup

end WasmDeploy.Logging
