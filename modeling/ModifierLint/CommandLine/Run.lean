/-
# Runs

A run reads the settings and the command line, checks the files, and renders what was found.  It
ends with zero if nothing was found, with one if there are violations or files that could not be
checked, and with two if the configuration or the command line cannot be used; then nothing is
written to the output.

A run that breaks down ends otherwise: no setting or configuration should make it do so, but an
unreadable settings file, a document with a meaningless value and a log level that does not exist
do.

What reads environment files, documents and Java is given to a run (`Readers`).
-/
import ModifierLint.Analyzer.Basic
import ModifierLint.CommandLine.Arguments
import ModifierLint.Config.Load
import ModifierLint.Java.Plugin

namespace ModifierLint

/-- The name of the program. -/
def programName : String := "modcheck"

/-- The version of the program. -/
def programVersion : String := "1.0.0"

/-- What the program says about its use. -/
def helpLines : List String :=
  ["usage: modcheck [-h] [-c CONFIG] [-f \x7bplain,json\x7d] [-w WORKERS]",
    "                [--log-level \x7bDEBUG,INFO,WARNING,ERROR,CRITICAL\x7d] [--version]",
    "                paths [paths ...]",
    "",
    "Check Java sources for modifiers that should be explicit.",
    "",
    "positional arguments:",
    "  paths                 Files or directories to check",
    "",
    "options:",
    "  -h, --help            show this help message and exit",
    "  -c CONFIG, --config CONFIG",
    "                        YAML analysis configuration (default:",
    "                        $MODCHECK_CONFIG_FILE)",
    "  -f \x7bplain,json\x7d, --format \x7bplain,json\x7d",
    "                        Output format for diagnostics",
    "  -w WORKERS, --workers WORKERS",
    "                        Number of files checked concurrently",
    "  --log-level \x7bDEBUG,INFO,WARNING,ERROR,CRITICAL\x7d",
    "  --version             show program's version number and exit"]

/-- The short form of `helpLines`, which stands before usage errors. -/
def usageLines : List String := helpLines.take 3

/-- What makes the texts of a run into what they mean. -/
structure Readers where
  settings : EnvFile.Reader
  document : DocumentReader
  grammar : Java.Grammar

/-- Why a run breaks down. -/
inductive Breakdown
  | log (e : LogFault)
  | reading (e : ReadFailure)
  | document (f : DocumentFault)
  | unnameable
  | abort (e : Abort)
  | rendering (f : Collector.Fault)
  deriving Repr, DecidableEq

/-- The text of a breakdown. -/
def Breakdown.message : Breakdown → String
  | .log e => e.message
  | .reading e => e.message
  | .document f => f.message
  | .unnameable => Text.tooManyDigits
  | .abort (.files e) => e.message
  | .abort (.setup (.config e)) => e.message
  | .abort (.setup .shape) => "A field of the plugin manifest is not a sequence"
  | .abort (.visit e) => e.message
  | .rendering f => f.text

/-- What a run leaves behind. -/
structure Outcome where
  exitCode : Nat
  /-- The lines written to the output. -/
  output : List String := []
  /-- The lines written next to the log. -/
  complaints : List String := []
  /-- The records that the log writes, in order. -/
  records : List Record := []
  deriving Inhabited

namespace Outcome

/-- Nothing was found. -/
def clean : Nat := 0

/-- Violations were found, or files could not be checked. -/
def found : Nat := 1

/-- The configuration or the command line cannot be used. -/
def unusable : Nat := 2

/-- The record of a configuration that cannot be used. -/
def configRecord (e : ConfigError) : Record where
  level := .error
  message := "Configuration error: " ++ e.message

/-- The complaint about a configuration that cannot be used. -/
def configComplaint (e : ConfigError) : String :=
  programName ++ ": configuration error: " ++ e.message

/-- What settings that cannot be used leave behind: the log is not set up, so its record is a
complaint like others. -/
def badSettings (e : ConfigError) : Outcome where
  exitCode := unusable
  complaints := [(configRecord e).message, configComplaint e]

/-- What the early end of the reading of a command line leaves behind. -/
def stopped : Arguments.Stop → Outcome
  | .help => { exitCode := clean, output := helpLines }
  | .version => { exitCode := clean, output := [programName ++ " " ++ programVersion] }
  | .usage e =>
    { exitCode := unusable
      complaints := usageLines ++ [programName ++ ": error: " ++ e.message] }

/-- What a run leaves behind that complained before. -/
def afterComplaints (lines : List String) (o : Outcome) : Outcome :=
  { o with complaints := lines ++ o.complaints }

/-- The line about a file that could not be checked. -/
def errorLine (e : FileError) : String :=
  e.filePath ++ ": error: " ++ e.message

end Outcome

/-- Why the checks of a run end early. -/
inductive RunFailure
  | config (e : ConfigError)
  | breakdown (e : Breakdown)
  deriving Repr, DecidableEq

/-- A document that cannot be loaded ends a run. -/
def RunFailure.ofLoad : LoadFailure → RunFailure
  | .config e => .config e
  | .opening e => .breakdown (.reading (.file e))
  | .document f => .breakdown (.document f)
  | .unnameable => .breakdown .unnameable

/-- A failure that stops the analysis ends a run. -/
def RunFailure.ofAbort : Abort → RunFailure
  | .setup (.config e) => .config e
  | e => .breakdown (.abort e)

/-- Makes the result of a step that cannot write records part of a run. -/
def RunFailure.lift {ε α : Type} (f : ε → RunFailure) (result : Except ε α) :
    Attempt RunFailure α :=
  match result with
  | .ok a => return a
  | .error e => throw (f e)

/-- Checks the files that a command line names. -/
def checkFiles (files : FileStore) (readers : Readers) (a : Arguments) :
    Attempt RunFailure (Report × Collector) := do
  let config ← RunFailure.lift .ofLoad (AnalysisConfig.load readers.document files a.config)
  let registry ← ExceptT.lift Java.defaultRegistry
  let analyzer ← RunFailure.lift .config (Analyzer.create registry config a.workers readers.grammar)
  let bundle ← ExceptT.lift registry.messages
  let (result, session) ← ExceptT.lift
    (StateT.run (ExceptT.run (Session.analyzePaths files a.paths)) ⟨analyzer, { bundle }⟩)
  let report ← RunFailure.lift .ofAbort result
  return (report, session.collector)

/-- Renders what a collector holds, in the format `json` or else line by line. -/
def renderFound (format : String) (c : Collector) : Attempt RunFailure (List String) := do
  let rendered : Logged (Except Collector.Fault (List String)) :=
    if format = "json" then ((·.map fun text => [text]) <$> c.json.run) else c.plain.run
  match ← ExceptT.lift rendered with
  | .ok lines => return lines
  | .error f => throw (.breakdown (.rendering f))

/-- A run from the command line on. -/
def runArguments (files : FileStore) (readers : Readers) (a : Arguments) :
    Except Breakdown Outcome := do
  let log ← (Log.setUp a.logLevel).mapError .log
  let step : Attempt RunFailure (Report × List String) := do
    let (report, collector) ← checkFiles files readers a
    return (report, ← renderFound a.format collector)
  let (result, records) := Logged.collect step.run
  let written (rs : List Record) : List Record := rs.filter fun r => log.writes r.level
  match result with
  | .ok (report, lines) =>
    return {
      exitCode := if report.hasViolations || report.hasErrors then Outcome.found else Outcome.clean
      output := lines
      complaints := report.errors.map Outcome.errorLine
      records := written records }
  | .error (.config e) =>
    return {
      exitCode := Outcome.unusable
      complaints := [Outcome.configComplaint e]
      records := written (records ++ [Outcome.configRecord e]) }
  | .error (.breakdown e) => .error e

/-- A run.  The complaints about the settings file come first. -/
def run (environment : List (String × String)) (files : FileStore) (readers : Readers)
    (arguments : List String) : Except Breakdown Outcome :=
  match Settings.readFile readers.settings environment files with
  | .error e => .error (.reading e)
  | .ok file => do
    let outcome ← match Settings.ofFile environment file with
      | .error e => pure (.badSettings e)
      | .ok settings =>
        match Arguments.parse settings arguments with
        | .error stop => pure (.stopped stop)
        | .ok a => runArguments files readers a
    return outcome.afterComplaints file.complaints

end ModifierLint
