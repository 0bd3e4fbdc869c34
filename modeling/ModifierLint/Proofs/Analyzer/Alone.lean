/-
# One file at a time

What comes of checking a file is its verdict: the diagnostics of its walk, or the problem that kept
it from being walked.  The verdict depends on the file, the registry, the grammar and the walker of
the configuration, and on nothing that happened before.

`Analyzer.Runs` gathers what makes this so: Java is the only language of the registry, and its
walker can be built.  Then checking a file answers its problem, if there is one, and adds its
diagnostics to the collector, in every session that the analyzer serves
(`Analyzer.Runs.analyzeFile_answers`).  `Analyzer.Runs.analyzePaths_answers` is the report of the
files one after the other.

For any plugin at all, what comes of a source follows from whether the plugin claims it, whether
there is a walker, and whether the source is parsed (`Session.analyzeSource_of_walked` and its
like).
-/
import ModifierLint.Proofs.Java.Setup
import ModifierLint.Proofs.Plugin.Choice

namespace ModifierLint

open Java (JavaPlugin)

/-! ## One source -/

namespace Session

variable {s s' : Session} {q : Plugin} {w : Walker} {filePath content : String}

/-- A walker that is there is used again. -/
theorem walkerFor_of_kept
    (kept : Keyed.find? (· == q.language) s.analyzer.walkers = some w) :
    Answers (walkerFor q) s (.ok w) s := by
  unfold walkerFor
  refine Answers.bind Answers.get ?_
  simp only [kept]
  exact Answers.pure w

/-- A walker that is built is kept. -/
theorem walkerFor_of_built
    (absent : Keyed.find? (· == q.language) s.analyzer.walkers = none)
    (built : Attempt.Answers (s.analyzer.buildWalker q) (.ok w)) :
    Answers (walkerFor q) s (.ok w)
      { s with analyzer.walkers := Keyed.put (· == ·) q.language w s.analyzer.walkers } := by
  unfold walkerFor
  refine Answers.bind Answers.get ?_
  simp only [absent]
  exact Answers.bind (Answers.attempt built) (Answers.bind (Answers.modify _) (Answers.pure w))

theorem walkerFor_of_refused {e : SetupFailure}
    (absent : Keyed.find? (· == q.language) s.analyzer.walkers = none)
    (refused : Attempt.Answers (s.analyzer.buildWalker q) (.error e)) :
    Answers (walkerFor q) s (.error e) s := by
  unfold walkerFor
  refine Answers.bind Answers.get ?_
  simp only [absent]
  exact Answers.bind_error (Answers.attempt refused)

/-- A source that no plugin claims is not analyzed. -/
theorem analyzeSource_of_unclaimed (content : String)
    (chosen : s.analyzer.registry.choose filePath = none) :
    Answers (analyzeSource filePath content) s (.error (.noPlugin filePath)) s := by
  have choice := s.analyzer.registry.pluginForFile_answers filePath
  rw [chosen] at choice
  unfold analyzeSource
  exact Answers.bind Answers.get (Answers.bind (Answers.log choice) (Answers.throw _))

/-- A source is not parsed if there is no walker for it. -/
theorem analyzeSource_of_refused {e : SetupFailure} (content : String)
    (chosen : s.analyzer.registry.choose filePath = some q)
    (refused : Answers (walkerFor q) s (.error e) s') :
    Answers (analyzeSource filePath content) s (.error (.setup e)) s' := by
  have choice := s.analyzer.registry.pluginForFile_answers filePath
  rw [chosen] at choice
  unfold analyzeSource
  exact Answers.bind Answers.get
    (Answers.bind (Answers.log choice) (Answers.bind_error (Answers.adapt refused)))

/-- A source that is not parsed reports nothing. -/
theorem analyzeSource_of_unparsed {e : Java.ParseError}
    (chosen : s.analyzer.registry.choose filePath = some q)
    (walker : Answers (walkerFor q) s (.ok w) s')
    (parse : Attempt.Answers (q.parse s.analyzer.grammar filePath content) (.error e)) :
    Answers (analyzeSource filePath content) s (.error (.parse e)) s' := by
  have choice := s.analyzer.registry.pluginForFile_answers filePath
  rw [chosen] at choice
  unfold analyzeSource
  exact Answers.bind Answers.get
    (Answers.bind (Answers.log choice)
      (Answers.bind (Answers.adapt walker) (Answers.bind_error (Answers.attempt parse))))

/-- A source that is parsed reports the diagnostics of its walk. -/
theorem analyzeSource_of_walked {root : Node}
    (chosen : s.analyzer.registry.choose filePath = some q)
    (walker : Answers (walkerFor q) s (.ok w) s')
    (parse : Attempt.Answers (q.parse s.analyzer.grammar filePath content) (.ok root))
    (calm : (w.walk (.ofRoot root filePath)).failure = none) :
    let ds := (w.walk (.ofRoot root filePath)).reported.toList
    Answers (analyzeSource filePath content) s (.ok ds.length)
      { s' with collector := s'.collector.reportAll ds } := by
  have choice := s.analyzer.registry.pluginForFile_answers filePath
  rw [chosen] at choice
  unfold analyzeSource
  refine Answers.bind Answers.get (Answers.bind (Answers.log choice)
    (Answers.bind (Answers.adapt walker)
      (Answers.bind (Answers.attempt parse) (Answers.bind (Answers.modify _) ?_))))
  simp only [calm]
  exact Answers.bind (Answers.log (Logged.Answers.write _)) (Answers.pure _)

end Session

/-! ## An analyzer for Java -/

/-- The registry with a plugin for Java and no other. -/
def Java.JavaPlugin.registry (p : JavaPlugin) : Registry :=
  (Logged.collect (Registry.register {} p.toPlugin)).1.1

theorem Java.JavaPlugin.plugins_registry (p : JavaPlugin) :
    p.registry.plugins = [(JavaPlugin.language, p.toPlugin)] := by
  obtain ⟨r, all, answers, plugins⟩ := Registry.register_answers {} p.toPlugin
  have registered : (Logged.collect (Registry.register {} p.toPlugin)).1 = (r, all) := answers #[]
  rw [JavaPlugin.registry, registered, plugins]
  rfl

/-- The analyzer knows Java and no other language, its configuration gives it the walker `w`, and it
has not been used yet. -/
structure Analyzer.Runs (a : Analyzer) (p : JavaPlugin) (w : Walker) : Prop where
  plugins : a.registry.plugins = [(JavaPlugin.language, p.toPlugin)]
  walker : Attempt.Answers (a.buildWalker p.toPlugin) (.ok w)
  kind : ∀ check ∈ w.checks, ∃ c : Java.ImpliedStatic, check = c.toCheck
  unused : a.walkers = []

/-- A new analyzer has what it was created with, and no walkers. -/
theorem Analyzer.eq_of_create {registry : Registry} {config : AnalysisConfig} {workers : Int}
    {grammar : Java.Grammar} {a : Analyzer}
    (created : Analyzer.create registry config workers grammar = .ok a) :
    a = { registry, config, maxWorkers := max 1 workers, grammar } := by
  unfold Analyzer.create at created
  cases validated : registry.validate config with
  | error e =>
      rw [validated] at created
      cases created
  | ok _ =>
      rw [validated] at created
      cases created
      rfl

/-- An analyzer that could be created with the plugin alone runs if its walker can be built. -/
theorem Analyzer.runs_of_create {p : JavaPlugin} {config : AnalysisConfig} {workers : Int}
    {grammar : Java.Grammar} {a : Analyzer}
    (created : Analyzer.create p.registry config workers grammar = .ok a) {w : Walker}
    (built : (Logged.collect (a.buildWalker p.toPlugin).run).1 = .ok w) : a.Runs p w := by
  obtain rfl := eq_of_create created
  obtain ⟨r, answers, kind⟩ := p.buildWalker_answers _
  obtain rfl : r = .ok w := (answers #[]).symm.trans built
  exact ⟨p.plugins_registry, answers, kind w rfl, rfl⟩

/-- The session is one of the analyzer, whose walker may have been built by now. -/
def Analyzer.Serves (a : Analyzer) (w : Walker) (s : Session) : Prop :=
  s.analyzer = a ∨ s.analyzer = { a with walkers := [(JavaPlugin.language, w)] }

theorem Analyzer.Serves.registry_eq {a : Analyzer} {w : Walker} {s : Session}
    (serves : a.Serves w s) : s.analyzer.registry = a.registry := by
  rcases serves with same | built
  · rw [same]
  · rw [built]

theorem Analyzer.Serves.grammar_eq {a : Analyzer} {w : Walker} {s : Session}
    (serves : a.Serves w s) : s.analyzer.grammar = a.grammar := by
  rcases serves with same | built
  · rw [same]
  · rw [built]

namespace Analyzer.Runs

variable {a : Analyzer} {p : JavaPlugin} {w : Walker} {s : Session}

theorem eq_of_choose (runs : a.Runs p w) {filePath : String} {q : Plugin}
    (chosen : a.registry.choose filePath = some q) : q = p.toPlugin := by
  obtain ⟨language, there⟩ := Registry.mem_of_choose chosen
  rw [runs.plugins] at there
  exact congrArg Prod.snd (List.mem_singleton.1 there)

/-- The walker is built at most once, and is the same at any time. -/
theorem walkerFor_answers (runs : a.Runs p w) (serves : a.Serves w s) : ∃ s',
    Session.Answers (Session.walkerFor p.toPlugin) s (.ok w) s' ∧ a.Serves w s' ∧
      s'.collector = s.collector := by
  rcases serves with same | built
  · have absent : Keyed.find? (· == p.toPlugin.language) s.analyzer.walkers = none := by
      rw [same, runs.unused]
      rfl
    have walker : Attempt.Answers (s.analyzer.buildWalker p.toPlugin) (.ok w) := by
      rw [same]
      exact runs.walker
    refine ⟨_, Session.walkerFor_of_built absent walker, .inr ?_, rfl⟩
    rw [same, runs.unused]
    rfl
  · have present : Keyed.find? (· == p.toPlugin.language) s.analyzer.walkers = some w := by
      rw [built]
      rfl
    exact ⟨s, Session.walkerFor_of_kept present, .inr built, rfl⟩

end Analyzer.Runs

/-! ## Verdicts -/

/-- The diagnostics of a source, or why it cannot be walked. -/
def Analyzer.verdictOf (a : Analyzer) (w : Walker) (filePath content : String) :
    Except FileProblem (List Diagnostic) :=
  match a.registry.choose filePath with
  | none => .error (.noPlugin filePath)
  | some _ =>
    match Java.parseSource a.grammar filePath content with
    | .error e => .error (.parse e)
    | .ok root => .ok (w.walk (.ofRoot root filePath)).reported.toList

/-- The diagnostics of a file, or why it cannot be walked. -/
def Analyzer.verdict (a : Analyzer) (w : Walker) (files : FileStore) (path : Path) :
    Except FileProblem (List Diagnostic) :=
  match files.readText path with
  | .error e => .error (.reading e)
  | .ok content => a.verdictOf w path.toString content

theorem Analyzer.verdict_of_unread {a : Analyzer} {w : Walker} {files : FileStore} {path : Path}
    {e : ReadFailure} (text : files.readText path = .error e) :
    a.verdict w files path = .error (.reading e) := by
  unfold verdict
  rw [text]

theorem Analyzer.verdict_of_read {a : Analyzer} {w : Walker} {files : FileStore} {path : Path}
    {content : String} (text : files.readText path = .ok content) :
    a.verdict w files path = a.verdictOf w path.toString content := by
  unfold verdict
  rw [text]

/-- The record of a problem with a file. -/
def FileProblem.record (problem : FileProblem) (filePath : String) : FileError where
  filePath := filePath
  phase := problem.phase.name
  errorType := problem.kind
  message := problem.message

/-- The diagnostics that a file contributes. -/
def Analyzer.found (a : Analyzer) (w : Walker) (files : FileStore) (path : Path) :
    List Diagnostic :=
  match a.verdict w files path with
  | .error _ => []
  | .ok ds => ds

/-- The error that a file contributes, if there is one. -/
def Analyzer.problem? (a : Analyzer) (w : Walker) (files : FileStore) (path : Path) :
    Option FileError :=
  match a.verdict w files path with
  | .error problem => some (problem.record path.toString)
  | .ok _ => none

theorem Analyzer.outcome_of_error {a : Analyzer} {w : Walker} {files : FileStore} {path : Path}
    {problem : FileProblem} (verdict : a.verdict w files path = .error problem) :
    a.problem? w files path = some (problem.record path.toString) ∧ a.found w files path = [] := by
  unfold problem? found
  simp only [verdict, and_self]

theorem Analyzer.outcome_of_ok {a : Analyzer} {w : Walker} {files : FileStore} {path : Path}
    {ds : List Diagnostic} (verdict : a.verdict w files path = .ok ds) :
    a.problem? w files path = none ∧ a.found w files path = ds := by
  unfold problem? found
  simp only [verdict, and_self]

theorem Session.recordProblem_answers (filePath : String) (problem : FileProblem) (s : Session) :
    Session.Answers (Session.recordProblem filePath problem) s (.ok (problem.record filePath)) s :=
  Session.Answers.bind (Session.Answers.log (Logged.Answers.write _)) (Session.Answers.pure _)

namespace Analyzer.Runs

variable {a : Analyzer} {p : JavaPlugin} {w : Walker} {s : Session}

/-- A source that is not parsed reports nothing. -/
theorem analyzeSource_of_unparsed (runs : a.Runs p w) (serves : a.Serves w s)
    {filePath content : String} {e : Java.ParseError}
    (chosen : a.registry.choose filePath = some p.toPlugin)
    (parsed : Java.parseSource a.grammar filePath content = .error e) : ∃ s',
    Session.Answers (Session.analyzeSource filePath content) s (.error (.parse e)) s' ∧
      a.Serves w s' ∧ s'.collector = s.collector := by
  obtain ⟨s', walker, serves', kept⟩ := runs.walkerFor_answers serves
  rw [← serves.registry_eq] at chosen
  rw [← serves.grammar_eq] at parsed
  have parse := JavaPlugin.parse_answers s.analyzer.grammar filePath content
  rw [parsed] at parse
  exact ⟨s', Session.analyzeSource_of_unparsed chosen walker parse, serves', kept⟩

/-- A source that is parsed reports the diagnostics of its walk. -/
theorem analyzeSource_of_parsed (runs : a.Runs p w) (serves : a.Serves w s)
    {filePath content : String} {root : Node}
    (chosen : a.registry.choose filePath = some p.toPlugin)
    (parsed : Java.parseSource a.grammar filePath content = .ok root) :
    let ds := (w.walk (.ofRoot root filePath)).reported.toList
    ∃ s', Session.Answers (Session.analyzeSource filePath content) s (.ok ds.length) s' ∧
      a.Serves w s' ∧ s'.collector = s.collector.reportAll ds := by
  obtain ⟨s', walker, serves', kept⟩ := runs.walkerFor_answers serves
  rw [← serves.registry_eq] at chosen
  rw [← serves.grammar_eq] at parsed
  have parse := JavaPlugin.parse_answers s.analyzer.grammar filePath content
  rw [parsed] at parse
  have calm := (JavaPlugin.walk_calm runs.kind (.ofRoot root filePath)).1
  refine ⟨_, Session.analyzeSource_of_walked chosen walker parse calm, serves', ?_⟩
  rw [← kept]

/-- Analyzing a source reports its diagnostics, or fails with its problem and reports nothing. -/
theorem analyzeSource_answers (runs : a.Runs p w) (serves : a.Serves w s)
    (filePath content : String) : ∃ r s',
    Session.Answers (Session.analyzeSource filePath content) s r s' ∧ a.Serves w s' ∧
      match a.verdictOf w filePath content with
      | .ok ds => r = .ok ds.length ∧ s'.collector = s.collector.reportAll ds
      | .error problem => (∃ e, r = .error e ∧ e.sort = .inl problem) ∧
          s'.collector = s.collector := by
  unfold Analyzer.verdictOf
  cases chosen : a.registry.choose filePath with
  | none =>
      rw [← serves.registry_eq] at chosen
      exact ⟨_, s, Session.analyzeSource_of_unclaimed content chosen, serves, ⟨_, rfl, rfl⟩, rfl⟩
  | some q =>
      obtain rfl := runs.eq_of_choose chosen
      cases parsed : Java.parseSource a.grammar filePath content with
      | error e =>
          obtain ⟨s', answers, serves', kept⟩ :=
            runs.analyzeSource_of_unparsed serves chosen parsed
          exact ⟨_, s', answers, serves', ⟨_, rfl, rfl⟩, kept⟩
      | ok root =>
          obtain ⟨s', answers, serves', appended⟩ :=
            runs.analyzeSource_of_parsed serves chosen parsed
          exact ⟨_, s', answers, serves', rfl, appended⟩

/-- Checking a file answers its problem, if there is one, and reports its diagnostics. -/
theorem analyzeFile_answers (runs : a.Runs p w) (serves : a.Serves w s) (files : FileStore)
    (path : Path) : ∃ s',
    Session.Answers (Session.analyzeFile files path) s (.ok (a.problem? w files path)) s' ∧
      a.Serves w s' ∧ s'.collector = s.collector.reportAll (a.found w files path) := by
  unfold Session.analyzeFile Analyzer.problem? Analyzer.found Analyzer.verdict
  cases files.readText path with
  | error e =>
      refine ⟨s, Session.Answers.map (Session.recordProblem_answers _ _ s), serves, ?_⟩
      rw [Collector.reportAll_nil]
  | ok content =>
      obtain ⟨r, s', source, serves', outcome⟩ :=
        runs.analyzeSource_answers serves path.toString content
      simp only
      cases verdict : a.verdictOf w path.toString content with
      | ok ds =>
          rw [verdict] at outcome
          obtain ⟨rfl, appended⟩ := outcome
          exact ⟨s', Session.Answers.bind (Session.Answers.run source) (Session.Answers.pure none),
            serves', appended⟩
      | error problem =>
          rw [verdict] at outcome
          obtain ⟨⟨e, rfl, sorted⟩, kept⟩ := outcome
          refine ⟨s', Session.Answers.bind (Session.Answers.run source) ?_, serves', ?_⟩
          · simp only [sorted]
            exact Session.Answers.map (Session.recordProblem_answers _ _ s')
          · rw [kept, Collector.reportAll_nil]

/-- What a file contributes is reported by a walk over a tree of the file. -/
theorem exists_walk_of_found {files : FileStore} {path : Path} {d : Diagnostic}
    (hd : d ∈ a.found w files path) :
    ∃ content root, Java.parseSource a.grammar path.toString content = .ok root ∧
      d ∈ (w.walk (.ofRoot root path.toString)).reported.toList := by
  unfold Analyzer.found at hd
  split at hd
  · cases hd
  · next ds verdict =>
      unfold Analyzer.verdict Analyzer.verdictOf at verdict
      split at verdict
      · cases verdict
      split at verdict
      · cases verdict
      split at verdict
      · cases verdict
      · next parsed =>
          cases verdict
          exact ⟨_, _, parsed, hd⟩

/-- A file contributes diagnostics about itself only. -/
theorem filePath_of_found (runs : a.Runs p w) {files : FileStore} {path : Path} {d : Diagnostic}
    (hd : d ∈ a.found w files path) : d.filePath = path.toString := by
  obtain ⟨-, root, -, reported⟩ := exists_walk_of_found hd
  exact (JavaPlugin.walk_calm runs.kind (.ofRoot root path.toString)).2 d reported

/-- Checking files one after the other answers their problems and reports their diagnostics, in
order. -/
theorem analyzeFiles_answers (runs : a.Runs p w) (files : FileStore) (paths : List Path) :
    ∀ s, a.Serves w s → ∃ s',
      Session.Answers (paths.mapM (Session.analyzeFile files)) s
        (.ok (paths.map (a.problem? w files))) s' ∧
      a.Serves w s' ∧
      s'.collector = s.collector.reportAll (paths.flatMap (a.found w files)) := by
  induction paths with
  | nil =>
      intro s serves
      refine ⟨s, Session.Answers.pure [], serves, ?_⟩
      rw [List.flatMap_nil, Collector.reportAll_nil]
  | cons path rest ih =>
      intro s serves
      obtain ⟨s', first, serves', appended⟩ := runs.analyzeFile_answers serves files path
      obtain ⟨s'', others, serves'', appended'⟩ := ih s' serves'
      rw [List.mapM_cons]
      refine ⟨s'', Session.Answers.bind first
        (Session.Answers.bind others (Session.Answers.pure _)), serves'', ?_⟩
      rw [appended', appended, List.flatMap_cons, Collector.reportAll_append]

end Analyzer.Runs

/-- The report of files whose problems are known, with the diagnostics in order. -/
def Report.gather (problems : List (Option FileError)) (diagnostics : List Diagnostic) : Report where
  filesChecked := (problems.length - (problems.filterMap id).length : Nat)
  diagnostics := diagnostics
  errors := problems.filterMap id

namespace Session

variable {s s' : Session} {files : FileStore} {paths : List String} {collected : List Path}

theorem expand_answers {r : Except FileFailure (List Path)}
    (named : s.analyzer.collectFiles files paths = r) :
    Session.Answers (ExceptT.mk (pure
      ((s.analyzer.collectFiles files paths).mapError Abort.files)) : SessionM Abort (List Path))
      s (r.mapError Abort.files) s := by
  rw [named]
  exact fun _ => rfl

/-- Paths that cannot be looked up stop the run. -/
theorem analyzePaths_of_lost {e : FileFailure}
    (lost : s.analyzer.collectFiles files paths = .error e) :
    Session.Answers (Session.analyzePaths files paths) s (.error (.files e)) s :=
  Session.Answers.bind Session.Answers.get (Session.Answers.bind_error (expand_answers lost))

/-- What stops the check of the files stops the run. -/
theorem analyzePaths_of_stopped {abort : Abort}
    (named : s.analyzer.collectFiles files paths = .ok collected)
    (stopped : Session.Answers (collected.mapM (analyzeFile files)) s (.error abort) s') :
    Session.Answers (Session.analyzePaths files paths) s (.error abort) s' :=
  Session.Answers.bind Session.Answers.get (Session.Answers.bind (expand_answers named)
    (Session.Answers.bind (Session.Answers.log (Logged.Answers.say _ _))
      (Session.Answers.bind_error stopped)))

/-- The problems of the files and what has been reported make the report. -/
theorem analyzePaths_of_checked {problems : List (Option FileError)}
    (named : s.analyzer.collectFiles files paths = .ok collected)
    (checked : Session.Answers (collected.mapM (analyzeFile files)) s (.ok problems) s') :
    Session.Answers (Session.analyzePaths files paths) s
      (.ok {
        filesChecked := (collected.length - (problems.filterMap id).length : Nat)
        diagnostics := s'.collector.diagnostics
        errors := problems.filterMap id }) s' :=
  Session.Answers.bind Session.Answers.get (Session.Answers.bind (expand_answers named)
    (Session.Answers.bind (Session.Answers.log (Logged.Answers.say _ _))
      (Session.Answers.bind checked (Session.Answers.bind Session.Answers.get
        (Session.Answers.bind (Session.Answers.log (Logged.Answers.say _ _))
          (Session.Answers.pure _))))))

end Session

/-- The report of the files that paths name, checked one after the other. -/
theorem Analyzer.Runs.analyzePaths_answers {a : Analyzer} {p : JavaPlugin} {w : Walker}
    {s : Session} (runs : a.Runs p w) (serves : a.Serves w s) {files : FileStore}
    {paths : List String} {collected : List Path}
    (named : s.analyzer.collectFiles files paths = .ok collected) : ∃ s',
    Session.Answers (Session.analyzePaths files paths) s
      (.ok (.gather (collected.map (a.problem? w files)) s'.collector.diagnostics)) s' ∧
    s'.collector = s.collector.reportAll (collected.flatMap (a.found w files)) := by
  obtain ⟨s', checked, -, appended⟩ := runs.analyzeFiles_answers files collected s serves
  refine ⟨s', ?_, appended⟩
  rw [Report.gather, List.length_map]
  exact Session.analyzePaths_of_checked named checked

end ModifierLint
