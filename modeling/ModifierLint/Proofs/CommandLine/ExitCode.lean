/-
# Exit codes

A run that is configured well ends with zero if all files that it collects are clean, and with one
if one of them is not.  A run that is configured badly ends with two and writes nothing to the
output, wherever that shows (`Invocation.Misconfigured`).

There is one exception.  Files that cannot be read are recorded and do not stop a run, but paths are
looked up before, and what is below directories as well, and looking up a name that is longer than
names can be fails: there a run breaks down instead of ending (`Invocation.run_of_beyond`).
-/
import ModifierLint.Config.EnvFile
import ModifierLint.Proofs.Analyzer.Clean
import ModifierLint.Proofs.CommandLine.Rendering
import ModifierLint.Proofs.Java.Conversion
import ModifierLint.Yaml.Reader

namespace ModifierLint

/-! ## The steps of a run -/

section

variable {environment : List (String × String)} {files : FileStore} {readers : Readers}
  {arguments : List String} {settings : Settings} {a : Arguments} {log : Log}

theorem lift_answers {ε α : Type} (f : ε → RunFailure) (result : Except ε α) :
    Attempt.Answers (RunFailure.lift f result) (result.mapError f) := by
  cases result with
  | ok x => exact Attempt.Answers.pure x
  | error e => exact Attempt.Answers.throw (f e)

/-- What a run depends on besides its configuration, if it has the arguments `a`. -/
def Arguments.circumstances (a : Arguments) (files : FileStore) (grammar : Java.Grammar) :
    Circumstances where
  workers := a.workers
  grammar
  files
  paths := a.paths
  collector := { bundle := .bundled }

/-- Nothing is checked if the configuration cannot be loaded. -/
theorem checkFiles_of_unloaded {e : LoadFailure}
    (unloaded : AnalysisConfig.load readers.document files a.config = .error e) :
    Attempt.Answers (checkFiles files readers a) (.error (.ofLoad e)) := by
  have first := lift_answers .ofLoad (AnalysisConfig.load readers.document files a.config)
  rw [unloaded] at first
  unfold checkFiles
  rw [unloaded]
  exact Attempt.Answers.bind_error first

variable {config : AnalysisConfig}

/-- Nothing is checked if the configuration mentions an unknown check. -/
theorem checkFiles_of_unknown
    (loaded : AnalysisConfig.load readers.document files a.config = .ok config) (unknown : config.MentionsUnknown) :
    ∃ e, Attempt.Answers (checkFiles files readers a) (.error (.config e)) := by
  obtain ⟨e, refused⟩ := (Registry.validate_bundled config).2 unknown
  have created : Analyzer.create .bundled config a.workers readers.grammar = .error e := by
    unfold Analyzer.create
    rw [refused]
    rfl
  have first := lift_answers .ofLoad (AnalysisConfig.load readers.document files a.config)
  have second := lift_answers .config (Analyzer.create .bundled config a.workers readers.grammar)
  rw [loaded] at first
  rw [created] at second
  refine ⟨e, ?_⟩
  unfold checkFiles
  rw [loaded]
  refine Attempt.Answers.bind first (Attempt.Answers.bind
    (Attempt.Answers.lift Registry.bundled_answers) ?_)
  rw [created]
  exact Attempt.Answers.bind_error second

/-- Otherwise, checking comes to what the analysis of the paths comes to. -/
theorem checkFiles_of_analyzed (loaded : AnalysisConfig.load readers.document files a.config = .ok config)
    (known : ¬ config.MentionsUnknown) {r : Except Abort Report} {s : Session}
    (analyzed : let c := a.circumstances files readers.grammar
      Session.Answers (Session.analyzePaths files a.paths) ⟨c.analyzer config, c.collector⟩ r s) :
    Attempt.Answers (checkFiles files readers a)
      ((r.mapError .ofAbort).map fun report => (report, s.collector)) := by
  have created : Analyzer.create .bundled config a.workers readers.grammar =
      .ok ((a.circumstances files readers.grammar).analyzer config) :=
    Circumstances.create_of_known (c := a.circumstances files readers.grammar) known
  have first := lift_answers .ofLoad (AnalysisConfig.load readers.document files a.config)
  have second := lift_answers .config (Analyzer.create .bundled config a.workers readers.grammar)
  have last := lift_answers .ofAbort r
  rw [loaded] at first
  rw [created] at second
  unfold checkFiles
  rw [loaded]
  refine Attempt.Answers.bind first (Attempt.Answers.bind
    (Attempt.Answers.lift Registry.bundled_answers) ?_)
  rw [created]
  refine Attempt.Answers.bind second (Attempt.Answers.bind
    (Attempt.Answers.lift Registry.messages_bundled)
    (Attempt.Answers.bind (Attempt.Answers.lift analyzed) ?_))
  cases r with
  | ok report => exact Attempt.Answers.bind last (Attempt.Answers.pure _)
  | error abort => exact Attempt.Answers.bind_error last

/-- Checks the files that a command line names, and renders what was found. -/
def checkAndRender (files : FileStore) (readers : Readers) (a : Arguments) :
    Attempt RunFailure (Report × List String) := do
  let (report, collector) ← checkFiles files readers a
  return (report, ← renderFound a.format collector)

/-- What a run leaves behind, by what its checks come to and the records that they write. -/
def conclude (log : Log) (result : Except RunFailure (Report × List String))
    (records : List Record) : Except Breakdown Outcome :=
  let written (rs : List Record) : List Record := rs.filter fun r => log.writes r.level
  match result with
  | .ok (report, lines) => .ok {
      exitCode := if report.hasViolations || report.hasErrors then Outcome.found else Outcome.clean
      output := lines
      complaints := report.errors.map Outcome.errorLine
      records := written records }
  | .error (.config e) => .ok {
      exitCode := Outcome.unusable
      complaints := [Outcome.configComplaint e]
      records := written (records ++ [Outcome.configRecord e]) }
  | .error (.breakdown e) => .error e

theorem runArguments_eq (level : Log.setUp a.logLevel = .ok log) : runArguments files readers a =
    let (result, records) := Logged.collect (checkAndRender files readers a).run
    conclude log result records := by
  unfold runArguments
  rw [level]
  rfl

theorem runArguments_of_answers {r : Except RunFailure (Report × List String)}
    (level : Log.setUp a.logLevel = .ok log)
    (answers : Attempt.Answers (checkAndRender files readers a) r) :
    ∃ records, runArguments files readers a = conclude log r records := by
  rw [runArguments_eq level, ← answers.collect_eq]
  exact ⟨_, rfl⟩

/-- Settings that cannot be used are complained about. -/
theorem run_of_badSettings {e : ConfigError}
    (bad : Settings.load readers.settings environment files = .error (.config e)) :
    ∃ o, run environment files readers arguments = .ok o ∧ o.exitCode = 2 ∧ o.output = [] := by
  unfold Settings.load at bad
  unfold run
  cases read : Settings.readFile readers.settings environment files with
  | error e =>
      rw [read] at bad
      cases bad
  | ok file =>
      rw [read] at bad
      cases made : Settings.ofFile environment file with
      | error e =>
          simp only [made]
          exact ⟨_, rfl, rfl, rfl⟩
      | ok settings =>
          simp only [made] at bad
          cases bad

/-- A run that can read its arguments only adds complaints to what follows. -/
theorem run_of_arguments
    (loaded : Settings.load readers.settings environment files = .ok settings)
    (parsed : Arguments.parse settings arguments = .ok a) :
    ∃ lines, run environment files readers arguments =
      (runArguments files readers a).map (Outcome.afterComplaints lines) := by
  unfold Settings.load at loaded
  unfold run
  cases read : Settings.readFile readers.settings environment files with
  | error e =>
      rw [read] at loaded
      cases loaded
  | ok file =>
      rw [read] at loaded
      cases made : Settings.ofFile environment file with
      | error e =>
          simp only [made] at loaded
          cases loaded
      | ok settings =>
          simp only [made] at loaded
          cases loaded
          refine ⟨file.complaints, ?_⟩
          simp only [made, parsed]
          cases runArguments files readers a with
          | error e => rfl
          | ok o => rfl

end

/-! ## How runs end -/

/-- What a run is given. -/
structure Invocation where
  environment : List (String × String)
  files : FileStore
  readers : Readers
  arguments : List String
  /-- The grammar counts in 32 bits, as grammars do. -/
  counts : readers.grammar.Counts

namespace Invocation

/-- The run. -/
def run (i : Invocation) : Except Breakdown Outcome :=
  ModifierLint.run i.environment i.files i.readers i.arguments

/-- The settings can be used, and with them the command line reads as `a`. -/
def Reads (i : Invocation) (a : Arguments) : Prop :=
  ∃ settings, Settings.load i.readers.settings i.environment i.files = .ok settings ∧
    Arguments.parse settings i.arguments = .ok a

/-- What the run depends on besides its configuration. -/
def circumstances (i : Invocation) (a : Arguments) : Circumstances :=
  a.circumstances i.files i.readers.grammar

/-- The run is configured well: what configures it can be loaded, all checks are known, and nothing
is wrong with what they are given.  Any output format will do. -/
structure Accepts (i : Invocation) (a : Arguments) (config : AnalysisConfig) : Prop where
  reads : i.Reads a
  level : a.logLevel ∈ Arguments.logLevels
  loads : AnalysisConfig.load i.readers.document i.files a.config = .ok config
  known : ¬ config.MentionsUnknown
  fit : ¬ config.Misfit

/-- The run is configured badly, and gets to the point where this shows: when the settings are
loaded, when the configuration is loaded, or when the files are checked under it. -/
inductive Misconfigured (i : Invocation) : Prop
  | settings {e : ConfigError} (bad : Settings.load i.readers.settings i.environment i.files = .error (.config e))
  | document {a : Arguments} {log : Log} {e : ConfigError} (reads : i.Reads a)
      (level : Log.setUp a.logLevel = .ok log)
      (bad : AnalysisConfig.load i.readers.document i.files a.config = .error (.config e))
  | checks {a : Arguments} {log : Log} {config : AnalysisConfig} (reads : i.Reads a)
      (level : Log.setUp a.logLevel = .ok log)
      (loads : AnalysisConfig.load i.readers.document i.files a.config = .ok config)
      (bad : (i.circumstances a).Refuses config)

variable {i : Invocation} {a : Arguments} {config : AnalysisConfig} {log : Log}

/-- The log can be set up with the levels that may be asked for. -/
theorem setUp_of_allowed {level : String} (allowed : level ∈ Arguments.logLevels) :
    ∃ log, Log.setUp level = .ok log := by
  simp only [Arguments.logLevels, List.mem_cons, List.not_mem_nil, or_false] at allowed
  rcases allowed with rfl | rfl | rfl | rfl | rfl
  · exact ⟨_, rfl⟩
  · exact ⟨_, rfl⟩
  · exact ⟨_, rfl⟩
  · exact ⟨_, rfl⟩
  · exact ⟨_, rfl⟩

/-- A run ends as what it checks and renders says. -/
theorem run_of_answers (reads : i.Reads a) (level : Log.setUp a.logLevel = .ok log)
    {r : Except RunFailure (Report × List String)}
    (answers : Attempt.Answers (checkAndRender i.files i.readers a) r) :
    ∃ lines records, i.run = (conclude log r records).map (Outcome.afterComplaints lines) := by
  obtain ⟨settings, loaded, parsed⟩ := reads
  obtain ⟨lines, whole⟩ := run_of_arguments loaded parsed
  obtain ⟨records, ended⟩ := runArguments_of_answers level answers
  exact ⟨lines, records, by rw [run, whole, ended]⟩

/-- A run whose checks end with an error of the configuration ends with two. -/
theorem run_of_config (reads : i.Reads a) (level : Log.setUp a.logLevel = .ok log)
    {e : ConfigError}
    (refused : Attempt.Answers (checkFiles i.files i.readers a) (.error (.config e))) :
    ∃ o, i.run = .ok o ∧ o.exitCode = 2 ∧ o.output = [] := by
  obtain ⟨lines, records, ended⟩ := run_of_answers reads level (Attempt.Answers.bind_error refused)
  exact ⟨_, ended, rfl, rfl⟩

/-- A run that is configured badly ends with two and without output. -/
theorem run_of_misconfigured (bad : i.Misconfigured) :
    ∃ o, i.run = .ok o ∧ o.exitCode = 2 ∧ o.output = [] := by
  cases bad with
  | settings bad => exact run_of_badSettings bad
  | document reads level bad => exact run_of_config reads level (checkFiles_of_unloaded bad)
  | checks reads level loads bad =>
      next a log config =>
      by_cases known : config.MentionsUnknown
      · obtain ⟨e, refused⟩ := checkFiles_of_unknown loads known
        exact run_of_config reads level refused
      · have wrong := (Circumstances.refuses_iff.1 bad).resolve_left known
        obtain ⟨e, stopped⟩ := Circumstances.analyzePaths_of_misfit wrong.1 wrong.2
        exact run_of_config reads level (checkFiles_of_analyzed loads known stopped)

/-- A run that is configured well breaks down if something that has to be looked up has a name that
is too long. -/
theorem run_of_beyond (accepts : i.Accepts a config)
    (beyond : ∃ text ∈ a.paths, ¬ i.files.InReach (.ofString text)) :
    ∃ path, i.run = .error (.abort (.files (.nameTooLong path))) := by
  obtain ⟨log, level⟩ := setUp_of_allowed accepts.level
  obtain ⟨path, lost⟩ :=
    (((i.circumstances a).analyzer config).collectFiles_cases i.files a.paths).2 beyond
  have checked := checkFiles_of_analyzed accepts.loads accepts.known
    (Session.analyzePaths_of_lost (s := ⟨_, (i.circumstances a).collector⟩) lost)
  obtain ⟨lines, records, ended⟩ :=
    run_of_answers accepts.reads level (Attempt.Answers.bind_error checked)
  exact ⟨path, ended⟩

/-- Any other run that is configured well ends with zero if all files that it collects are clean,
and with one if one of them is not. -/
theorem run_of_accepted (accepts : i.Accepts a config)
    (reach : ∀ text ∈ a.paths, i.files.InReach (.ofString text)) :
    ∃ collected o, (i.circumstances a).collected = .ok collected ∧ i.run = .ok o ∧
      (o.exitCode = 0 ∧ (∀ path ∈ collected, (i.circumstances a).Clean config.rules path) ∨
        o.exitCode = 1 ∧ ∃ path ∈ collected, ¬(i.circumstances a).Clean config.rules path) := by
  obtain ⟨log, level⟩ := setUp_of_allowed accepts.level
  obtain ⟨collected, named⟩ :=
    (((i.circumstances a).analyzer {}).collectFiles_cases i.files a.paths).1 reach
  obtain ⟨report, s, check, analyzed, flags, bundle, reports⟩ :=
    Circumstances.analyzePaths_of_fit (c := i.circumstances a) accepts.known accepts.fit rfl named
  have checked := checkFiles_of_analyzed accepts.loads accepts.known analyzed
  obtain ⟨texts, rendered⟩ := renderFound_of_bundled i.counts check a.format bundle reports
  obtain ⟨lines, records, ended⟩ := run_of_answers accepts.reads level
    (Attempt.Answers.bind checked (Attempt.Answers.bind rendered (Attempt.Answers.pure _)))
  refine ⟨collected, _, named, ended, ?_⟩
  by_cases clean : ∀ path ∈ collected, (i.circumstances a).Clean config.rules path
  · refine .inl ⟨?_, clean⟩
    show (if report.hasViolations || report.hasErrors then 1 else 0) = 0
    rw [flags.2 clean]
    rfl
  · refine .inr ⟨?_, by simpa using clean⟩
    show (if report.hasViolations || report.hasErrors then 1 else 0) = 1
    rw [Bool.eq_true_of_not_eq_false fun fine => clean (flags.1 fine)]
    rfl

/-! ### Runs over one path -/

/-- A run over one path, without settings and options. -/
def ofPath (files : FileStore) {grammar : Java.Grammar} (counts : grammar.Counts) (path : String) :
    Invocation where
  environment := []
  files
  readers := { settings := EnvFile.parse, document := Yaml.read, grammar }
  arguments := [path]
  counts

end Invocation

/-- A text that does not begin with a dash is a path. -/
theorem Arguments.parse_path (settings : Settings) {text : String}
    (plain : text.toList.head? ≠ some '-') :
    parse settings [text] = .ok {
      paths := [text]
      config := settings.configFile
      format := settings.outputFormat
      workers := settings.maxWorkers
      logLevel := Text.uppercase settings.logLevel } := by
  have unmarked : text ≠ "--" := by
    rintro rfl
    exact plain rfl
  have kind : kinds [text] = .ok [(text, .plain)] := by
    rw [kinds, if_neg unmarked, kindOf, if_pos plain]
    rfl
  have erased : [text].erase "--" = [text] :=
    List.erase_of_not_mem fun member => unmarked (List.mem_singleton.1 member).symm
  have read (r : Reading) (unread : r.paths = none) :
      readAll r 1 [(text, .plain)] = .ok { r with paths := some [text] } := by
    have run : readPaths r [(text, .plain)] = { r with paths := some ([text].erase "--") } := by
      unfold readPaths
      rw [unread]
      rfl
    rw [erased] at run
    exact congrArg Except.ok run
  have start := read
    { settings, config := settings.configFile, format := settings.outputFormat,
      workers := settings.maxWorkers } rfl
  unfold parse
  rw [kind]
  simp only [Except.mapError, bind, Except.bind, List.length_singleton, start]
  rfl

/-- A name of too many octets cannot be looked up. -/
theorem FileStore.find_of_longName (files : FileStore) {name : String} (plain : '/' ∉ name.toList)
    (printable : '\x00' ∉ name.toList) (long : longestPart < name.utf8ByteSize) :
    files.find (.ofString name) = .tooLong := by
  have full : name ≠ "" := by
    rintro rfl
    exact absurd long (by decide)
  have named : name ≠ "." := by
    rintro rfl
    exact absurd long (by decide)
  have inward : name ≠ ".." := by
    rintro rfl
    exact absurd long (by decide)
  have text : (Path.mk "" [name]).toString = name := by
    simp [Path.toString]
  rw [Path.ofString_of_plain plain full named, find, text]
  simp [printable, walk, inward, long]

/-- If nothing stands under the name of the file with settings, the environment alone makes them. -/
theorem Settings.load_of_absent {files : FileStore} (reader : EnvFile.Reader)
    (environment : List (String × String)) (absent : files.at? [".env"] = none) :
    load reader environment files = (ofFile environment {}).mapError .config := by
  have name : envFile = ⟨"", [".env"]⟩ :=
    Path.ofString_of_plain (by decide) (by decide) (by decide)
  have missing : files.find envFile = .missing := by
    rw [name, FileStore.find, if_neg (by decide), if_neg (by decide)]
    show files.walk [] [".env"] = .missing
    rw [FileStore.walk_of_ne (by decide), if_neg (by decide), List.reverse_singleton, absent]
  have silent : readFile reader environment files = .ok {} := by
    rw [readFile, missing]
  rw [load, silent]

namespace Invocation

/-- What a command line reads as that consists of a path. -/
def pathOnly (path : String) : Arguments where
  paths := [path]
  config := none
  format := "plain"
  workers := 4
  logLevel := "INFO"

/-- A run over one path is configured well if there is no file with settings. -/
theorem accepts_ofPath {files : FileStore} {grammar : Java.Grammar} (counts : grammar.Counts)
    {path : String} (plain : path.toList.head? ≠ some '-')
    (absent : files.at? [".env"] = none) :
    (ofPath files counts path).Accepts (pathOnly path) {} where
  reads := ⟨{}, Settings.load_of_absent EnvFile.parse [] absent, Arguments.parse_path {} plain⟩
  level := by
    show "INFO" ∈ Arguments.logLevels
    decide
  loads := rfl
  known := fun ⟨_, mentioned, _⟩ => nomatch mentioned
  fit := by
    rintro ⟨-, wrong⟩
    cases wrong with
    | unknownOption given => cases given
    | badValue _ given => cases given
    | unsupported given => cases given
    | missing given => cases given

/-- A name of `n` letters. -/
def longName (n : Nat) : String := String.ofList (List.replicate n 'x')

theorem not_mem_longName {n : Nat} {c : Char} (other : c ≠ 'x') : c ∉ (longName n).toList := by
  rw [longName, String.toList_ofList, List.mem_replicate]
  exact fun both => other both.2

theorem utf8ByteSize_longName (n : Nat) : (longName n).utf8ByteSize = n := by
  rw [longName, String.utf8ByteSize_ofList]
  induction n with
  | zero => rfl
  | succ n ih =>
      rw [List.replicate_succ, String.utf8Len_cons, ih]
      rfl

/-- **A run ends with zero if all files are clean, with one if one of them is not, and with two if
it is configured badly; but a name that is too long breaks it down.**  A file is clean if it can be
read, is a Java source, has a tree without an error and violates none of the rules of the
configuration.  A run that is configured badly writes nothing to the output.  What makes settings and
documents into values may be anything; the grammar counts in 32 bits. -/
theorem run_ends (i : Invocation) :
    (∀ a config, i.Accepts a config →
      ((∀ text ∈ a.paths, i.files.InReach (.ofString text)) →
        ∃ collected o, (i.circumstances a).collected = .ok collected ∧ i.run = .ok o ∧
          (o.exitCode = 0 ∧ (∀ path ∈ collected, (i.circumstances a).Clean config.rules path) ∨
            o.exitCode = 1 ∧
              ∃ path ∈ collected, ¬(i.circumstances a).Clean config.rules path)) ∧
      ((∃ text ∈ a.paths, ¬ i.files.InReach (.ofString text)) →
        ∃ path, i.run = .error (.abort (.files (.nameTooLong path))))) ∧
    (i.Misconfigured → ∃ o, i.run = .ok o ∧ o.exitCode = 2 ∧ o.output = []) :=
  ⟨fun _ _ accepts => ⟨run_of_accepted accepts, run_of_beyond accepts⟩, run_of_misconfigured⟩

/-- A program without declarations, in the empty file. -/
def emptyProgram : Java.Cst := .mk "program" default false false []

theorem counts_emptyProgram : Java.Grammar.Counts fun _ => some emptyProgram := by
  rintro text root ⟨⟩ m inside
  obtain rfl : m = emptyProgram := by
    simpa [emptyProgram, Java.Cst.preorder, Java.Cst.preorders] using inside
  exact ⟨by decide, by decide, by decide⟩

/-- A run over one clean file ends with zero. -/
theorem run_ends_of_cleanFile :
    let files : FileStore := { entries := [(["Main.java"], .file [])] }
    let i := ofPath files counts_emptyProgram "Main.java"
    i.Accepts (pathOnly "Main.java") {} ∧ ∃ o, i.run = .ok o ∧ o.exitCode = 0 := by
  intro files i
  have name : Path.ofString "Main.java" = ⟨"", ["Main.java"]⟩ :=
    Path.ofString_of_plain (by decide) (by decide) (by decide)
  have accepts : i.Accepts (pathOnly "Main.java") {} := accepts_ofPath _ (by decide) rfl
  have reach : ∀ text ∈ (pathOnly "Main.java").paths, i.files.InReach (.ofString text) := by
    intro text member
    obtain rfl := List.mem_singleton.1 member
    rw [name]
    exact ⟨nofun, nofun⟩
  have named : (i.circumstances (pathOnly "Main.java")).collected = .ok [⟨"", ["Main.java"]⟩] := by
    rw [Circumstances.collected, Analyzer.collectFiles_eq]
    show Except.map _ (["Main.java"].mapM _) = _
    rw [List.mapM_cons, List.mapM_nil, Analyzer.expand, name]
    rfl
  have clean : (i.circumstances (pathOnly "Main.java")).Clean ({} : AnalysisConfig).rules
      ⟨"", ["Main.java"]⟩ := by
    have text : (Path.mk "" ["Main.java"]).toString = "Main.java" := rfl
    refine ⟨"", emptyProgram, rfl, ?_, rfl, rfl, ?_⟩
    · rw [text, name]
      rfl
    · rw [Java.Abstraction.convert_eq_ofCst]
      rfl
  obtain ⟨collected, o, named', ended, codes⟩ := ((run_ends i).1 _ _ accepts).1 reach
  obtain rfl := Except.ok.inj (named.symm.trans named')
  refine ⟨accepts, o, ended, ?_⟩
  rcases codes with ⟨zero, -⟩ | ⟨-, path, member, unclean⟩
  · exact zero
  · obtain rfl := List.mem_singleton.1 member
    exact absurd clean unclean

/-- A run over a path with a name of 256 letters is configured well, but ends with no exit code. -/
theorem run_breaks_down_of_longName :
    let i := @ofPath {} (fun _ => none) nofun (longName 256)
    i.Accepts (pathOnly (longName 256)) {} ∧
      (∃ path, i.run = .error (.abort (.files (.nameTooLong path)))) ∧
      ¬∀ (i : Invocation) (a : Arguments) (config : AnalysisConfig), i.Accepts a config →
        ∃ o, i.run = .ok o ∧ (o.exitCode = 0 ∨ o.exitCode = 1) := by
  intro i
  have plain : (longName 256).toList.head? ≠ some '-' := fun dash =>
    not_mem_longName (by decide) (List.mem_of_head? dash)
  have long : i.files.find (.ofString (longName 256)) = .tooLong := by
    refine FileStore.find_of_longName i.files (not_mem_longName (by decide))
      (not_mem_longName (by decide)) ?_
    rw [utf8ByteSize_longName]
    decide
  have accepts : i.Accepts (pathOnly (longName 256)) {} := accepts_ofPath _ plain rfl
  obtain ⟨path, broken⟩ := run_of_beyond accepts
    ⟨_, List.mem_singleton_self _, fun reach => reach.itself long⟩
  refine ⟨accepts, ⟨path, broken⟩, fun claimed => ?_⟩
  obtain ⟨o, ended, -⟩ := claimed i _ _ accepts
  rw [broken] at ended
  cases ended

end Invocation

end ModifierLint
