/-
# The analyzer

The analyzer checks sources with the plugins of a registry under one configuration.  The walker of a
language is built when its first file is analyzed, and kept.

A session is an analyzer with the collector that it reports into.  Analyzing one source either adds
diagnostics and answers their number, or fails.  `Session.analyzePaths` checks many files: a file
that cannot be read, recognised or parsed becomes an error of the report and does not stop the run;
a configuration that cannot be used does.
-/
import ModifierLint.Analyzer.Report
import ModifierLint.Check.Walker
import ModifierLint.Log.Logger
import ModifierLint.Plugin.Registry
import ModifierLint.Files.Store

namespace ModifierLint

/-- Checks sources under a configuration. -/
structure Analyzer where
  registry : Registry
  config : AnalysisConfig
  /-- How many files may be under way at a time. -/
  maxWorkers : Int
  grammar : Java.Grammar
  /-- The walkers built so far, by language. -/
  walkers : List (String × Walker) := []

/-- An analyzer and the collector that it reports into. -/
structure Session where
  analyzer : Analyzer
  collector : Collector

/-- Why a source cannot be analyzed. -/
inductive AnalysisFailure
  | noPlugin (filePath : String)
  | setup (e : SetupFailure)
  | parse (e : Java.ParseError)
  | visit (e : VisitError)
  deriving Repr, DecidableEq

/-- Why a file cannot be checked. -/
inductive FileProblem
  | reading (e : ReadFailure)
  | noPlugin (filePath : String)
  | parse (e : Java.ParseError)
  | notInTree (e : NotInTree)
  deriving Repr, DecidableEq

namespace FileProblem

/-- The kind of the problem. -/
def kind : FileProblem → String
  | reading (.file (.notFound _)) => "FileNotFoundError"
  | reading (.file (.isDirectory _)) => "IsADirectoryError"
  | reading (.file (.notDirectory _)) => "NotADirectoryError"
  | reading (.file (.nameTooLong _)) => "OSError"
  | reading (.file .badName) => "ValueError"
  | reading (.decoding _) => "UnicodeDecodeError"
  | noPlugin _ => "ValueError"
  | parse _ => "ParseError"
  | notInTree _ => "ValueError"

/-- The text of the problem. -/
def message : FileProblem → String
  | reading e => e.message
  | noPlugin filePath => "No plugin found for file: " ++ filePath
  | parse e => e.message
  | notInTree e => e.message

/-- What was being done with the file. -/
def phase : FileProblem → Phase
  | reading _ => .read
  | _ => .check

end FileProblem

/-- The failures that stop a run. -/
inductive Abort
  | files (e : FileFailure)
  | setup (e : SetupFailure)
  | visit (e : VisitError)
  deriving Repr, DecidableEq

/-- A failure concerns the file alone, or stops the run. -/
def AnalysisFailure.sort : AnalysisFailure → FileProblem ⊕ Abort
  | .noPlugin filePath => .inl (.noPlugin filePath)
  | .parse e => .inl (.parse e)
  | .visit (.notInTree e) => .inl (.notInTree e)
  | .visit e => .inr (.visit e)
  | .setup e => .inr (.setup e)

/-- Steps of a session that write records and may fail. -/
abbrev SessionM (ε : Type) := ExceptT ε (StateT Session Logged)

namespace Analyzer

/-- An analyzer; every check that the configuration mentions must be provided. -/
def create (registry : Registry) (config : AnalysisConfig) (workers : Int)
    (grammar : Java.Grammar) : Except ConfigError Analyzer := do
  registry.validate config
  return { registry, config, maxWorkers := max 1 workers, grammar }

/-- The number of workers if nothing else is said. -/
def defaultWorkers : Int := 4

/-- Says which tokens a check was registered for. -/
def announceCheck (c : Check) : Logged Unit :=
  Logged.say .debug ("Registered check '" ++ c.name ++ "' for " ++
    Text.Quoted.list (sortedNames c.effectiveTokens))

/-- Builds the walker of a plugin. -/
def buildWalker (a : Analyzer) (p : Plugin) : Attempt SetupFailure Walker := do
  let checks ← p.createChecks a.config
  for c in checks.takeWhile fun c => c.tokenError?.isNone do announceCheck c
  match Walker.build checks with
  | .error e => throw (.config (.tokens e))
  | .ok w =>
    Logged.say .debug ("Built tree walker for " ++ p.language ++ " with " ++
      Nat.repr checks.length ++ " checks")
    return w

/-- The files that paths name: a directory stands for the files below it with a supported
extension, in order; every file is listed once. -/
def collectFiles (a : Analyzer) (files : FileStore) (paths : List String) :
    Except FileFailure (List Path) := do
  let extensions := a.registry.supported
  let expand (text : String) : Except FileFailure (List Path) := do
    let path := Path.ofString text
    if ← files.isDirectory path then
      return ((← files.filesBelow path).filter fun p =>
        extensions.any (Value.sameKey · (.str p.suffix))).mergeSort Path.le
    else return [path]
  return (← paths.mapM expand).flatten.eraseDups

end Analyzer

namespace Session

/-- Runs a step that only writes records. -/
def log {ε α : Type} (step : Logged α) : SessionM ε α :=
  ExceptT.lift (StateT.lift step)

/-- Runs a step that writes records and may fail. -/
def attempt {ε δ α : Type} (f : δ → ε) (step : Attempt δ α) : SessionM ε α := do
  match ← log step.run with
  | .ok a => return a
  | .error e => throw (f e)

/-- The walker of a plugin's language, built if it is not there yet. -/
def walkerFor (p : Plugin) : SessionM SetupFailure Walker := do
  let a := (← getThe Session).analyzer
  match Keyed.find? (· == p.language) a.walkers with
  | some w => return w
  | none =>
    let w ← attempt id (a.buildWalker p)
    modifyThe Session fun s =>
      { s with analyzer.walkers := Keyed.put (· == ·) p.language w s.analyzer.walkers }
    return w

/-- Analyzes a source: the number of diagnostics reported for it. -/
def analyzeSource (filePath content : String) : SessionM AnalysisFailure Nat := do
  let a := (← getThe Session).analyzer
  match ← log (a.registry.pluginForFile filePath) with
  | none => throw (.noPlugin filePath)
  | some p =>
    let w ← (walkerFor p).adapt .setup
    let root ← attempt .parse (p.parse a.grammar filePath content)
    let walk := w.walk (.ofRoot root filePath)
    modifyThe Session fun s =>
      { s with collector := s.collector.reportAll walk.reported.toList }
    match walk.failure with
    | some e => throw (.visit e)
    | none =>
      log (Logged.write
        (.fileChecked (.str filePath) (.str p.language) (.int walk.reported.size) []))
      return walk.reported.size

/-- Says that a file could not be checked. -/
def announceProblem (filePath : String) (problem : FileProblem) : Logged Unit :=
  Logged.write
    { level := .error
      message := "Failed to check " ++ filePath ++ ": " ++ problem.message
      fields := [("file_path", .str filePath), ("phase", .str problem.phase.name)] }

/-- The record of a problem with a file. -/
def recordProblem (filePath : String) (problem : FileProblem) : SessionM Abort FileError := do
  log (announceProblem filePath problem)
  return {
    filePath
    phase := problem.phase.name
    errorType := problem.kind
    message := problem.message }

/-- Checks a file; the answer is the record of a problem, if there was one. -/
def analyzeFile (files : FileStore) (path : Path) : SessionM Abort (Option FileError) := do
  let filePath := path.toString
  match files.readText path with
  | .error e => some <$> recordProblem filePath (.reading e)
  | .ok content =>
    match ← ExceptT.lift (analyzeSource filePath content).run with
    | .ok _ => return none
    | .error e =>
      match e.sort with
      | .inl problem => some <$> recordProblem filePath problem
      | .inr abort => throw abort

/-- Checks every file that paths name. -/
def analyzePaths (files : FileStore) (paths : List String) : SessionM Abort Report := do
  let a := (← getThe Session).analyzer
  let collected ← (ExceptT.mk (pure ((a.collectFiles files paths).mapError .files)) :
    SessionM Abort (List Path))
  log (Logged.say .info ("Checking " ++ Nat.repr collected.length ++ " file(s) with " ++
    Text.ofInt a.maxWorkers ++ " worker(s)"))
  let problems ← collected.mapM (analyzeFile files)
  let errors := problems.filterMap id
  let diagnostics := (← getThe Session).collector.diagnostics
  let checked := collected.length - errors.length
  log (Logged.say .info ("Checked " ++ Nat.repr checked ++ " file(s): " ++
    Nat.repr diagnostics.length ++ " violation(s), " ++ Nat.repr errors.length ++ " error(s)"))
  return { filesChecked := checked, diagnostics, errors }

end Session

end ModifierLint
