/-
# Loggers

A logger adds its context to everything that it says.  The fields of an entry are the context of the
logger with the fields of the call written over it; a logger that is derived from another adds to
its context and leaves the other alone.

What is written depends on the set-up of the log: nothing before the first, and then what is urgent
enough.  `LogEntry.line` is a written line: four context fields stand at the top, all other fields
of the call under `context`.  A line is written as JSON, so an entry with a field that has no JSON
text is lost.
-/
import ModifierLint.Json
import ModifierLint.Keyed
import ModifierLint.Log.Interpolation
import ModifierLint.Log.Record
import ModifierLint.Text.Uppercase

namespace ModifierLint

/-- Fields by name; every name occurs once. -/
abbrev Fields := List (String × Value)

namespace Fields

/-- The value of a field. -/
def get? (fields : Fields) (name : String) : Option Value :=
  Keyed.find? (· == name) fields

/-- The fields with others written over them. -/
def merge (fields added : Fields) : Fields :=
  Keyed.putAll (· == ·) fields added

end Fields

/-- What can be wrong with a call to the log. -/
inductive LogFault
  | unknownLevel (name : String)
  /-- Every entry has a field of this name already. -/
  | fieldTaken (name : String)
  /-- The call has an argument of this name. -/
  | argumentTaken (name : String)
  | notNumeric
  deriving Repr, DecidableEq

/-- The text of the fault. -/
def LogFault.message : LogFault → String
  | .unknownLevel name => "Unknown level: " ++ Text.Quoted.text name
  | .fieldTaken name => "Attempt to overwrite " ++ Text.Quoted.text name ++ " in LogRecord"
  | .argumentTaken name => "More than one value for " ++ Text.Quoted.text name
  | .notNumeric => "The duration is not a number"

/-! ## Entries -/

/-- An error that an entry reports. -/
structure ReportedError where
  kind : String
  message : String
  deriving Repr, DecidableEq, Inhabited

/-- A line of the log. -/
structure LogEntry where
  logger : String
  level : Level
  message : String
  fields : Fields := []
  error : Option ReportedError := none
  deriving Inhabited

namespace LogEntry

/-- The fields that stand at the top of a line, in order. -/
def contextFields : List String := ["file_path", "language", "check", "phase"]

/-- The fields that calls may give and that are never written. -/
def silentFields : List String := ["taskName"]

/-- The field that stands in the way of the message: of an entry with it nothing can be written. -/
def hidingField : String := "getMessage"

/-- The names that every entry uses itself. -/
def takenFields : List String :=
  ["name", "msg", "args", "levelname", "levelno", "pathname", "filename", "module", "exc_info",
    "exc_text", "stack_info", "lineno", "funcName", "created", "msecs", "relativeCreated",
    "thread", "threadName", "processName", "process", "message", "asctime"]

/-- The fields at the top of the line. -/
def contextOf (e : LogEntry) : Fields :=
  contextFields.filterMap fun name => (e.fields.get? name).map fun v => (name, v)

/-- The fields below the top. -/
def details (e : LogEntry) : Fields :=
  e.fields.filter fun (name, _) => !contextFields.contains name && !silentFields.contains name

/-- The line, given what depends on the moment and the place of writing. -/
def line (e : LogEntry) (time trace : String) (source : Value) : Fields :=
  let nested := e.details
  [("timestamp", .str time), ("level", .str e.level.name), ("logger", .str e.logger),
      ("message", .str e.message)] ++
    e.contextOf ++
    (if nested.isEmpty then [] else [("context", .record nested)]) ++
    e.error.toList.map (fun r =>
      ("error", .record [("type", .str r.kind), ("message", .str r.message),
        ("stack_trace", .str trace)])) ++
    [("source", source)]

/-- Whether the fields that the line shows have JSON texts. -/
def isWritable (e : LogEntry) : Bool :=
  (Json.refusal? (.record (e.contextOf ++ e.details))).isNone

/-- The entry of a record. -/
def ofRecord (logger : String) (r : Record) : LogEntry where
  logger := logger
  level := r.level
  message := r.message
  fields := r.fields

end LogEntry

/-! ## Loggers -/

/-- A name and a context. -/
structure Logger where
  name : String
  context : Fields := []
  deriving Inhabited

namespace Logger

/-- The name of the logger that has none. -/
def rootName : String := "root"

/-- Fields that are named in a call may not be named like its arguments. -/
def refuseNames (arguments : List String) (fields : Fields) : Except LogFault Unit :=
  match (Keyed.keys fields).find? arguments.contains with
  | some name => .error (.argumentTaken name)
  | none => .ok ()

/-- A logger with a context. -/
def create (name : String) (context : Fields) : Except LogFault Logger := do
  refuseNames ["name"] context
  return { name := if name.isEmpty then rootName else name, context }

/-- The logger with more context. -/
def withContext (l : Logger) (context : Fields) : Logger :=
  { l with context := l.context.merge context }

/-- The fields of an entry: the context with those of the call written over it. -/
def fieldsOf (l : Logger) (fields : Fields) : Fields :=
  l.context.merge fields

/-- A logger that is derived from another. -/
def derive (l : Logger) (context : Fields) : Except LogFault Logger := do
  refuseNames ["self"] context
  return l.withContext context

/-- The logger inside a block that adds to its context; after the block the logger is as before. -/
def enter (l : Logger) (context : Fields) : Except LogFault Logger := do
  refuseNames ["self", "logger"] context
  return l.withContext context

end Logger

/-! ## The log -/

/-- The set-up of the log: the rank from which on entries are written, if it was set up. -/
structure Log where
  threshold : Option Nat := none
  deriving Repr, DecidableEq, Inhabited

namespace Log

/-- The names of the thresholds with their ranks. -/
def thresholds : List (String × Nat) :=
  [("NOTSET", 0), ("DEBUG", Level.debug.rank), ("INFO", Level.info.rank),
    ("WARNING", Level.warning.rank), ("WARN", Level.warning.rank), ("ERROR", Level.error.rank),
    ("CRITICAL", Level.critical.rank), ("FATAL", Level.critical.rank)]

/-- The threshold if nothing else is said. -/
def usualThreshold : String := "INFO"

/-- A log with the threshold of a name, in capital or small letters. -/
def setUp (name : String) : Except LogFault Log :=
  let name := Text.uppercase name
  match Keyed.find? (· == name) thresholds with
  | some rank => .ok ⟨some rank⟩
  | none => .error (.unknownLevel name)

/-- Loggers whose chatter is never of interest. -/
def quietLoggers : List String := ["asyncio"]

/-- Whether the logger or one above it is quiet. -/
def isQuiet (logger : String) : Bool :=
  quietLoggers.any fun quiet => logger == quiet || logger.startsWith (quiet ++ ".")

/-- The rank from which on calls to a logger are heard at all. -/
def hearing (log : Log) (logger : String) : Nat :=
  match log.threshold with
  | none => Level.warning.rank
  | some rank => if isQuiet logger then Level.warning.rank else rank

/-- Whether entries of the level are written. -/
def writes (log : Log) (level : Level) : Bool :=
  log.threshold.any (· ≤ level.rank)

/-- The entry that a call writes, if it writes one. -/
def entry (log : Log) (l : Logger) (level : Level) (message : String) (values : List Value)
    (fields : Fields) (error : Option ReportedError) : Except LogFault (Option LogEntry) :=
  if level.rank < log.hearing l.name then .ok none
  else
    let fields := l.fieldsOf fields
    match (Keyed.keys fields).find? LogEntry.takenFields.contains with
    | some name => .error (.fieldTaken name)
    | none =>
      if log.writes level && !Keyed.has (· == LogEntry.hidingField) fields then
        let written := (Interpolation.interpolate message values).map fun message =>
          { logger := l.name, level, message, fields, error : LogEntry }
        .ok (written.filter LogEntry.isWritable)
      else .ok none

/-- The entry of an error with its context. -/
def errorEntry (log : Log) (l : Logger) (message : String) (error : ReportedError)
    (context : Fields) : Except LogFault (Option LogEntry) := do
  Logger.refuseNames ["logger", "message", "error"] context
  log.entry l .error message [] context (some error)

end Log

/-! ## Checked files -/

/-- The number of decimals that durations are rounded to. -/
def durationPlaces : Nat := 2

/-- A duration in milliseconds as it is written. -/
def roundedDuration : Value → Except LogFault Value
  | .int n => .ok (.int n)
  | .bool b => .ok (.int (if b then 1 else 0))
  | .float x => .ok (.float (Number.roundTo durationPlaces x))
  | _ => .error .notNumeric

/-- The field of a duration, if one was measured. -/
def timing : Option Value → Except LogFault Fields
  | none | some .null => .ok []
  | some v => (roundedDuration v).map fun v => [("duration_ms", v)]

/-- The record of a file whose checks are done. -/
def Record.fileChecked (filePath language violations : Value) (timing : Fields) : Record where
  level := .info
  message := "Checked " ++ filePath.text ++ ": " ++ violations.text ++ " violation(s)"
  fields := [("file_path", filePath), ("language", language), ("phase", .str "check"),
    ("violations", violations)] ++ timing

/-- The entry of a record that a logger writes. -/
def Log.recordEntry (log : Log) (l : Logger) (r : Record) : Except LogFault (Option LogEntry) :=
  log.entry l r.level r.message [] r.fields none

end ModifierLint
