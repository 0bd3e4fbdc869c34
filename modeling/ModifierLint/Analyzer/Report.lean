/-
# Reports

A report is the outcome of checking a set of files: how many were checked, the diagnostics, and one
record per file that could not be checked.
-/
import ModifierLint.Config.Analysis
import ModifierLint.Schema.Moment

namespace ModifierLint

/-- What was being done with a file when it failed. -/
inductive Phase
  | read
  | check
  deriving Repr, DecidableEq, Inhabited

/-- The name of a phase. -/
def Phase.name : Phase → String
  | read => "read"
  | check => "check"

/-- A file that could not be checked. -/
structure FileError where
  filePath : String
  phase : String
  errorType : String
  message : String
  /-- Where it failed, if that was recorded. -/
  stackTrace : Option String := none
  /-- When it failed, if that was recorded. -/
  moment : Option DateTime := none
  deriving Repr, DecidableEq, Inhabited

/-- The outcome of checking a set of files. -/
structure Report where
  filesChecked : Int := 0
  diagnostics : List Diagnostic := []
  errors : List FileError := []
  deriving Inhabited

/-- Decodes a diagnostic. -/
def Diagnostic.read : Value → Schema.Checked Diagnostic :=
  Schema.record "Diagnostic" fun entries =>
    (fun filePath line column messageKey args checkName severity =>
        { filePath, line, column, messageKey, args, checkName, severity })
      <$> Schema.required entries "file_path" Schema.string
      <*> Schema.required entries "line" Schema.integer
      <*> Schema.required entries "column" Schema.integer
      <*> Schema.required entries "message_key" Schema.string
      <*> Schema.optional entries "args" [] (Schema.tuple Schema.string)
      <*> Schema.required entries "check_name" Schema.string
      <*> Schema.optional entries "severity" .error Schema.severity

/-- Decodes the record of a file that could not be checked. -/
def FileError.read : Value → Schema.Checked FileError :=
  Schema.record "ErrorRecord" fun entries =>
    (fun filePath phase errorType message stackTrace moment =>
        { filePath, phase, errorType, message, stackTrace, moment := some moment })
      <$> Schema.required entries "file_path" Schema.string
      <*> Schema.required entries "phase" Schema.string
      <*> Schema.required entries "error_type" Schema.string
      <*> Schema.required entries "message" Schema.string
      <*> Schema.optional entries "stack_trace" none (Schema.nullable Schema.string)
      <*> Schema.required entries "timestamp" Schema.moment

namespace Report

/-- Whether any check found something. -/
def hasViolations (r : Report) : Bool :=
  !r.diagnostics.isEmpty

/-- Whether any file could not be checked. -/
def hasErrors (r : Report) : Bool :=
  !r.errors.isEmpty

/-- Decodes a report. -/
def read : Value → Schema.Checked Report :=
  Schema.record "AnalysisReport" fun entries =>
    (fun filesChecked diagnostics errors => { filesChecked, diagnostics, errors })
      <$> Schema.optional entries "files_checked" 0 Schema.integer
      <*> Schema.optional entries "diagnostics" [] (Schema.list Diagnostic.read)
      <*> Schema.optional entries "errors" [] (Schema.list FileError.read)

end Report

end ModifierLint
