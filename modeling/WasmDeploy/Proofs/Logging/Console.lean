import WasmDeploy.Proofs.Logging.History

/-!
# What is printed of a record

This file shows which records of a logger get to the console after any history of set-ups that ask for a console. A
record has to reach two levels: the one from which on its logger takes records, which the latest set-up decides, and
the one of the handler, which is still that of the first set-up. A level that is lowered later prints nothing more.
-/

namespace WasmDeploy.Logging

/-! ## Handing a record to handlers -/

/-- What a handler prints on the console of a record that its logger takes. -/
def Handler.printed (record : Record) (handler : Handler) : String :=
  if handler.target = .console ∧ handler.level ≤ record.level then handler.format.line record else ""

/-- What some handlers print on the console, one after another. -/
def printedBy (record : Record) (handlers : List Handler) : String :=
  String.join (handlers.map (Handler.printed record))

theorem Handler.handle_fst (record : Record) (outcome : String × State) (handler : Handler) :
    (handler.handle record outcome).1 = outcome.1 ++ handler.printed record := by
  simp only [handle, printed]
  by_cases isLow : record.level < handler.level
  · rw [if_pos isLow, if_neg (by omega), String.append_empty]
  · rw [if_neg isLow]
    cases isTarget : handler.target with
    | console => simp [Int.not_lt.mp isLow]
    | file place => simp

theorem foldl_handle_fst (record : Record) (handlers : List Handler) (outcome : String × State) :
    (handlers.foldl (Handler.handle record) outcome).1 = outcome.1 ++ printedBy record handlers := by
  induction handlers generalizing outcome with
  | nil => simp [printedBy]
  | cons handler rest ih =>
      rw [List.foldl_cons, ih, Handler.handle_fst, printedBy, printedBy, List.map_cons, String.join_cons,
        String.append_assoc]

theorem printedBy_append (record : Record) (first second : List Handler) :
    printedBy record (first ++ second) = printedBy record first ++ printedBy record second := by
  rw [printedBy, List.map_append, String.join_append]
  rfl

theorem printedBy_of_files {record : Record} {handlers : List Handler}
    (files : ∀ handler ∈ handlers, handler.target ≠ .console) : printedBy record handlers = "" := by
  induction handlers with
  | nil => rfl
  | cons handler rest ih =>
      rcases List.forall_mem_cons.mp files with ⟨isFile, files⟩
      rw [printedBy, List.map_cons, String.join_cons, ← printedBy, ih files]
      simp [Handler.printed, isFile]

namespace State

/-- The level from which on the logger of a record takes records. -/
def threshold (state : State) (record : Record) : Int :=
  (state.register (loggerNamed record.logger)).registry.effectiveLevel (loggerNamed record.logger)

/-- The loggers above the logger of a record. -/
def above (state : State) (record : Record) : List LoggerName :=
  (state.register (loggerNamed record.logger)).registry.above (loggerNamed record.logger)

/-- Whether the logger of a record takes it. -/
def Takes (state : State) (record : Record) : Prop :=
  0 < record.level ∧ state.threshold record ≤ record.level

instance (state : State) (record : Record) : Decidable (state.Takes record) :=
  inferInstanceAs (Decidable (_ ∧ _))

theorem isEnabled_iff (state : State) (record : Record) :
    (state.register (loggerNamed record.logger)).registry.isEnabled (loggerNamed record.logger) record.level = true ↔
      state.Takes record := by
  simp [Registry.isEnabled, Takes, threshold]

/-- What the handlers of the loggers above print of a record. -/
def printedAbove (state : State) (record : Record) : String :=
  if state.Takes record then
    printedBy record ((state.above record).flatMap fun other => (state.logger other).handlers)
  else ""

/-- A record is printed by the handlers of its logger, if it has any, and then by those of the loggers above. -/
theorem emit_fst (state : State) (record : Record)
    (busy : (state.logger (loggerNamed record.logger)).handlers ≠ []) :
    (emit state record).1 =
      (if state.Takes record then printedBy record (state.logger (loggerNamed record.logger)).handlers else "") ++
        state.printedAbove record := by
  have own : (state.register (loggerNamed record.logger)).registry.handlers (loggerNamed record.logger) =
      (state.logger (loggerNamed record.logger)).handlers ++
        (state.above record).flatMap fun other => (state.logger other).handlers := by
    rw [Registry.handlers_eq _ (Registry.loggerNamed_ne_empty record.logger)]
    simp only [above, State.register, State.logger, Registry.logger_register]
  simp only [emit, own, printedAbove]
  by_cases takes : state.Takes record
  · have enabled := (state.isEnabled_iff record).mpr takes
    simp only [enabled, takes, if_true, Bool.not_true, Bool.false_eq_true, if_false]
    rw [if_neg (by simp [busy]), foldl_handle_fst, printedBy_append, String.empty_append]
  · have disabled := Bool.eq_false_iff.mpr (mt (state.isEnabled_iff record).mp takes)
    simp [disabled, takes]

/-! ## The loggers after a history -/

theorem isTree_apply {state : State} (isTree : state.registry.IsTree) (setup : Setup) :
    (setup.apply state).2.registry.IsTree := by
  have attached : (setup.attachConsole state).registry.IsTree := by
    simp only [Setup.attachConsole]
    split
    · exact ((isTree.register _).setLogger _ _).setLogger _ _
    · exact (isTree.register _).setLogger _ _
  rcases setup.apply_cases state with ⟨isConsole, _⟩ | ⟨isFile, _⟩
  · rw [isConsole]
    exact attached
  · rw [isFile]
    simp only [Setup.attachFile]
    split
    · exact attached
    · split
      · exact attached
      · exact attached.setLogger _ _

/-- However loggers are set up, no logger is above itself. -/
theorem isTree_afterAll {state : State} (isTree : state.registry.IsTree) (history : List Setup) :
    (state.afterAll history).registry.IsTree := by
  induction history generalizing state with
  | nil => exact isTree
  | cons setup rest ih => exact ih (isTree_apply isTree setup)

/-- If a logger is set up with a console every time, its handlers are the one for the console that its first set-up
asks for, and none or one for a file. -/
theorem handlers_afterAll_of_console (files : FileTree String) {history : List Setup} {first : Setup}
    {name : LoggerName}
    (console : ∀ setup ∈ history, setup.logger = name → setup.console = true)
    (isFirst : (history.filter (·.logger = name)).head? = some first) :
    ∃ others, (((start files).afterAll history).logger name).handlers = first.consoleHandler :: others ∧
      ∀ handler ∈ others, handler.target ≠ .console := by
  rw [List.head?_filter] at isFirst
  have asked := console first (List.mem_of_find?_eq_some isFirst) (by simpa using List.find?_some isFirst)
  rcases List.find?_eq_some_iff_append.mp isFirst with ⟨isNamed, before, after, rfl, others⟩
  obtain rfl : first.logger = name := by simpa using isNamed
  have bare : (((start files).afterAll before).logger first.logger).handlers = [] := by
    rw [logger_afterAll_of_others (by simpa using others), handlers_start]
  have isConsole : first.consoleHandlers = [first.consoleHandler] := by simp [Setup.consoleHandlers, asked]
  -- The console is attached before the log file is tried, so that it is there whatever becomes of the file.
  have made := handlers_afterAll_of_attached after bare
  cases ends : (first.apply ((start files).afterAll before)).1 with
  | none =>
      rw [ends, Setup.attached, Setup.handlers, isConsole] at made
      exact ⟨first.fileHandlers, made (by simp), fun _ => Setup.target_of_mem_fileHandlers⟩
  | some defect =>
      rw [ends, Setup.attached, isConsole] at made
      exact ⟨[], made (by simp), by simp⟩

/-- The level that is set for a logger decides which records it takes. -/
theorem threshold_of_set {state : State} {record : Record}
    (isSet : (state.logger (loggerNamed record.logger)).level ≠ 0) :
    state.threshold record = (state.logger (loggerNamed record.logger)).level := by
  have known : (state.register (loggerNamed record.logger)).registry.logger (loggerNamed record.logger) =
      state.logger (loggerNamed record.logger) := logger_register _ _ _
  rw [threshold, Registry.effectiveLevel_of_set _ (Registry.loggerNamed_ne_empty _) (known ▸ isSet), known]

/-- A logger whose level is left open takes what the root takes, if only the root has a level besides. -/
theorem threshold_of_unset {state : State} {record : Record}
    (isUnset : (state.logger (loggerNamed record.logger)).level = 0)
    (above : ∀ other ∈ state.above record,
      (state.logger other).level = if other.isNone then warningLevel else 0) :
    state.threshold record = if (loggerNamed record.logger).isNone then 0 else warningLevel := by
  have known (name : LoggerName) :
      (state.register (loggerNamed record.logger)).registry.logger name = state.logger name :=
    logger_register _ _ _
  refine Registry.effectiveLevel_of_unset _ (Registry.loggerNamed_ne_empty _) ?_ fun other mem => ?_
  · rw [known, isUnset]
  · rw [known]
    exact above other mem

/-- How a record is printed after a history in which the first and the last set-up of its logger are given. The
handler of the logger prints it if the logger takes it and its level reaches that of the first set-up; the loggers
above, of which it is none, print it after that. The last set-up decides which records the logger takes, unless it
leaves the level open; so its level is the one that is obtained as long as it is not below that of the first. If no
other logger was set up, nothing else is printed, and a level that is left open is that of the root. -/
structure Prints (state : State) (history : List Setup) (first last : Setup) (record : Record) : Prop where
  printed : (emit state record).1 =
    (if state.Takes record ∧ first.level ≤ record.level then first.consoleHandler.format.line record else "") ++
      state.printedAbove record
  apart : loggerNamed record.logger ∉ state.above record
  threshold : last.level ≠ 0 → state.threshold record = last.level
  asked : 0 < last.level → first.level ≤ last.level → (emit state record).1 =
    (if last.level ≤ record.level then first.consoleHandler.format.line record else "") ++ state.printedAbove record
  alone : (∀ setup ∈ history, setup.logger = loggerNamed record.logger) → state.printedAbove record = "" ∧
    (last.level = 0 → state.threshold record = if (loggerNamed record.logger).isNone then 0 else warningLevel)

/-- Whatever was set up, a logger that is set up with a console every time prints what reaches both the level that it
has now and the level that it had first. -/
theorem emit_prints (files : FileTree String) {history : List Setup} {first last : Setup} {record : Record}
    (console : ∀ setup ∈ history, setup.logger = loggerNamed record.logger → setup.console = true)
    (isFirst : (history.filter (·.logger = loggerNamed record.logger)).head? = some first)
    (isLast : (history.filter (·.logger = loggerNamed record.logger)).getLast? = some last) :
    ((start files).afterAll history).Prints history first last record := by
  rcases handlers_afterAll_of_console files console isFirst with ⟨others, isOwn, areFiles⟩
  have level := level_afterAll (start files) isLast
  generalize isState : (start files).afterAll history = state at isOwn level
  have own : printedBy record (state.logger (loggerNamed record.logger)).handlers =
      if first.level ≤ record.level then first.consoleHandler.format.line record else "" := by
    rw [isOwn, ← List.singleton_append, printedBy_append, printedBy_of_files areFiles, String.append_empty]
    simp [printedBy, Handler.printed, Setup.consoleHandler]
  have printed : (emit state record).1 =
      (if state.Takes record ∧ first.level ≤ record.level then first.consoleHandler.format.line record else "") ++
        state.printedAbove record := by
    rw [state.emit_fst record (by simp [isOwn]), own, ite_and]
  have apart : loggerNamed record.logger ∉ state.above record := by
    have isTree : ((start files).afterAll history).registry.IsTree := isTree_afterAll Registry.isTree_empty history
    rw [isState] at isTree
    exact (isTree.register _).not_mem_above _
  have threshold : last.level ≠ 0 → state.threshold record = last.level := by
    intro isSet
    rw [← level] at isSet ⊢
    exact threshold_of_set isSet
  refine { printed, apart, threshold, asked := ?asked, alone := ?alone }
  case asked =>
    intro positive rising
    have same : (state.Takes record ∧ first.level ≤ record.level) ↔ last.level ≤ record.level := by
      rw [Takes.eq_def, threshold (by omega)]
      omega
    rw [printed, if_congr same rfl rfl]
  case alone =>
    intro only
    have bare : ∀ other ∈ state.above record, state.logger other = (start files).logger other := by
      intro other mem
      rw [← isState]
      refine logger_afterAll_of_others fun setup isMember isOther => ?_
      rw [← isOther, only setup isMember] at mem
      exact apart mem
    constructor
    · have none : ((state.above record).flatMap fun other => (state.logger other).handlers) = [] := by
        rw [List.flatMap_eq_nil_iff]
        intro other mem
        rw [bare other mem, handlers_start]
      rw [printedAbove, none]
      exact ite_self _
    · intro isUnset
      refine threshold_of_unset (level.trans isUnset) fun other mem => ?_
      rw [bare other mem]
      rfl

/-- A logger is set up for what matters more and then for everything, another one in between. -/
def loweredHistory : List Setup :=
  [Setup.standard, { Setup.standard with logger := none, level := 40 }, { Setup.standard with level := 10 }]

/-- A record that matters less than the first set-up of its logger asks for. -/
def lightRecord : Record where
  logger := "gblend_deploy"
  level := 10
  message := "Transaction built"
  created := .exact 0
  fileName := "builder.py"
  line := 63

/-- The logger takes the record, which its handler does not print. -/
theorem emit_prints_lightRecord :
    (∀ setup ∈ loweredHistory, setup.logger = some "gblend_deploy" → setup.console = true) ∧
      ((start []).afterAll loweredHistory).Prints loweredHistory Setup.standard { Setup.standard with level := 10 }
        lightRecord := by
  have isNamed : loggerNamed lightRecord.logger = some "gblend_deploy" := by decide
  have console : ∀ setup ∈ loweredHistory, setup.logger = some "gblend_deploy" → setup.console = true := by
    simp [loweredHistory, Setup.standard]
  refine ⟨console, emit_prints [] (by rwa [isNamed]) ?_ ?_⟩
  · rw [isNamed]
    rfl
  · rw [isNamed]
    rfl

/-- The level that was asked for last need not be obtained. -/
theorem exists_unprinted :
    ¬∀ (files : FileTree String) (history : List Setup) (last : Setup) (record : Record),
      (∀ setup ∈ history, setup.logger = loggerNamed record.logger ∧ setup.console = true) →
      history.getLast? = some last → last.level ≤ record.level →
      (emit ((start files).afterAll history) record).1 ≠ "" := by
  intro obtained
  have asked : ∀ setup ∈ [Setup.standard, { Setup.standard with level := 10 }],
      setup.logger = loggerNamed lightRecord.logger ∧ setup.console = true := by decide
  have unprinted :
      (emit ((start []).afterAll [Setup.standard, { Setup.standard with level := 10 }]) lightRecord).1 = "" := by
    decide +kernel
  exact obtained [] _ _ lightRecord asked rfl (Int.le_refl 10) unprinted

end State

end WasmDeploy.Logging
