import WasmDeploy.Logging.Calendar

/-!
# Lines of a log

This file gives log records, the levels that tell how much they matter, and the two formats in which a record
becomes a line.
-/

namespace WasmDeploy.Logging

/-- A log record. -/
structure Record where
  logger : String
  level : Int
  message : String
  created : Measure
  fileName : String
  line : Int
deriving Inhabited

/-- The levels that have names. -/
def levelNames : List (Int × String) :=
  [(0, "NOTSET"), (10, "DEBUG"), (20, "INFO"), (30, "WARNING"), (40, "ERROR"), (50, "CRITICAL")]

/-- Further names of levels, which can be asked for but are not shown. -/
def furtherNames : List (Int × String) :=
  [(30, "WARN"), (50, "FATAL")]

/-- The level of a warning. -/
def warningLevel : Int := 30

/-- The name of a level. -/
def levelName (level : Int) : String :=
  (levelNames.lookup level).getD s!"Level {level}"

/-- The level of a name. -/
def levelNamed? (name : String) : Option Int :=
  ((levelNames ++ furtherNames).find? fun entry => entry.2 == name).map (·.1)

/-- What a line of a log shows of a record. -/
inductive Field where
  | time
  | logger
  | level
  | place
  | message
deriving DecidableEq, Repr

/-- The code of a field in a format. -/
def Field.code : Field → String
  | .time => "%(asctime)s"
  | .logger => "%(name)s"
  | .level => "%(levelname)s"
  | .place => "[%(filename)s:%(lineno)d]"
  | .message => "%(message)s"

/-- What a field shows of a record. -/
def Field.text (record : Record) : Field → String
  | .time => timestamp record.created
  | .logger => record.logger
  | .level => levelName record.level
  | .place => s!"[{record.fileName}:{record.line}]"
  | .message => record.message

/-- The fields of a line. -/
abbrev Format := List Field

namespace Format

/-- A format for reading along. -/
def simple : Format :=
  [.time, .level, .message]

/-- A format that also names the logger and the place in the source. -/
def detailed : Format :=
  [.time, .logger, .level, .place, .message]

/-- The code of a format. -/
def code (format : Format) : String :=
  String.intercalate " - " (format.map Field.code)

/-- The line of a record. -/
def line (format : Format) (record : Record) : String :=
  String.intercalate " - " (format.map (Field.text record)) ++ "\n"

end Format

/-- The code of the format of times. -/
def dateCode : String := "%Y-%m-%d %H:%M:%S"

end WasmDeploy.Logging
