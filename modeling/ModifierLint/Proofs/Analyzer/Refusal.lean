/-
# Runs that are refused

A configuration that mentions an unknown check is refused when the analyzer is built.  Everything
else that can be wrong with it shows when the walker is built, and the walker is built when the
first source of its language is to be analyzed.  So a run gets as far as its files: it is refused if
one of them is claimed by the plugin and can be read, and goes through otherwise.

`Analyzer.Broken` gathers what the argument needs of an analyzer whose walker cannot be built.  A
file either stops the run or leaves the session as it was (`Analyzer.Broken.analyzeFile_answers`),
and so do files one after the other (`Analyzer.Broken.analyzeFiles_answers`).  What a configuration
is refused for, and where, is `Circumstances.refuses_iff`.
-/
import ModifierLint.Proofs.Analyzer.Alone
import ModifierLint.Proofs.Files.Path
import ModifierLint.Proofs.Java.Misfits
import ModifierLint.Proofs.Plugin.Registration

namespace ModifierLint

open Java (JavaPlugin ImpliedStatic)

/-! ## The bundled registry -/

/-- The bundled plugin as the registry knows it. -/
def Java.bundledPlugin : Plugin :=
  JavaPlugin.toPlugin ⟨JavaPlugin.bundledManifest⟩

/-- The registry that there is unless another one is made. -/
def Registry.bundled : Registry :=
  (Logged.collect Java.defaultRegistry).1

namespace Registry

theorem defaultRegistry_answers :
    Java.defaultRegistry.Answers (perform {} (.register Java.bundledPlugin)) := by
  have plugin : JavaPlugin.bundled.Answers ⟨JavaPlugin.bundledManifest⟩ :=
    Logged.Answers.bind (Logged.Answers.say _ _)
      (Logged.Answers.bind (Logged.Answers.say _ _) (Logged.Answers.pure _))
  have registered : (register {} Java.bundledPlugin).Answers
      (Logged.collect (register {} Java.bundledPlugin)).1 := by
    obtain ⟨r, all, answers, -⟩ := register_answers {} Java.bundledPlugin
    rw [answers.collect_eq]
    exact answers
  exact Logged.Answers.bind plugin (Logged.Answers.bind registered (Logged.Answers.pure _))

theorem bundled_eq : bundled = perform {} (.register Java.bundledPlugin) :=
  defaultRegistry_answers.collect_eq

/-- The bundled registry is made whatever the log holds. -/
theorem bundled_answers : Java.defaultRegistry.Answers bundled := by
  rw [bundled_eq]
  exact defaultRegistry_answers

theorem plugins_bundled : bundled.plugins = [(JavaPlugin.language, Java.bundledPlugin)] := by
  rw [bundled_eq]
  exact JavaPlugin.plugins_registry ⟨JavaPlugin.bundledManifest⟩

/-- The bundled plugin claims the files with its extension. -/
theorem choose_bundled (filePath : String) : bundled.choose filePath =
    if (Path.ofString filePath).suffix = ".java" then some Java.bundledPlugin else none := by
  have textual : Java.bundledPlugin.extensions = .texts [".java"] := rfl
  have owner (extension : String) : bundled.language? (.str extension) =
      if extension = ".java" then some JavaPlugin.language else none := by
    rw [bundled_eq, language?_register ⟨_, textual⟩]
    simp only [Java.bundledPlugin.declares_iff textual, List.mem_singleton]
    rfl
  by_cases java : (Path.ofString filePath).suffix = ".java"
  · have named : JavaPlugin.language ≠ "" := by decide
    have owned := (owner (Path.ofString filePath).suffix).trans (if_pos java)
    rw [if_pos java, choose_of_language named owned, plugin?, plugins_bundled]
    rfl
  · rw [if_neg java, choose, owner, if_neg java]

/-- A configuration may mention the one check that there is. -/
theorem validate_bundled (config : AnalysisConfig) : (∃ e, bundled.validate config = .error e) ↔
    ∃ name ∈ Keyed.keys config.checks, name ≠ ImpliedStatic.name := by
  have known : bundled.availableChecks = [ImpliedStatic.name] := by
    rw [availableChecks, plugins_bundled]
    rfl
  unfold validate
  simp only [known]
  split
  · next empty =>
      refine iff_of_false (fun ⟨_, refused⟩ => nomatch refused) ?_
      rintro ⟨name, mentioned, other⟩
      have there : name ∈ (Keyed.keys config.checks).filter
          fun name => !List.contains [ImpliedStatic.name] name := by
        rw [List.mem_filter]
        exact ⟨mentioned, by simpa using other⟩
      rw [List.isEmpty_iff.1 empty] at there
      cases there
  · next full =>
      refine iff_of_true ⟨_, rfl⟩ ?_
      obtain ⟨name, there⟩ := List.exists_mem_of_ne_nil _
        fun empty => full (List.isEmpty_iff.2 empty)
      rw [List.mem_filter] at there
      exact ⟨name, there.1, by simpa using there.2⟩

end Registry

/-! ## Files under a configuration that cannot be used -/

/-- The file gets as far as the walker: a plugin claims it, and it can be read. -/
def Analyzer.Reaches (a : Analyzer) (files : FileStore) (path : Path) : Prop :=
  a.registry.choose path.toString ≠ none ∧ ∃ content, files.readText path = .ok content

/-- The analyzer knows Java and no other language, and has no walker for it because of an error of
the configuration. -/
structure Analyzer.Broken (a : Analyzer) (p : JavaPlugin) (e : ConfigError) : Prop where
  plugins : a.registry.plugins = [(JavaPlugin.language, p.toPlugin)]
  walker : Attempt.Answers (a.buildWalker p.toPlugin) (.error (.config e))
  unused : a.walkers = []

namespace Analyzer.Broken

variable {a : Analyzer} {p : JavaPlugin} {e : ConfigError} {collector : Collector}

theorem walkerFor_answers (broken : a.Broken p e) :
    Session.Answers (Session.walkerFor p.toPlugin) ⟨a, collector⟩ (.error (.config e))
      ⟨a, collector⟩ := by
  have absent : Keyed.find? (· == p.toPlugin.language) a.walkers = none := by
    rw [broken.unused]
    rfl
  exact Session.walkerFor_of_refused (s := ⟨a, collector⟩) absent broken.walker

/-- A source that the plugin claims stops the run. -/
theorem analyzeSource_answers (broken : a.Broken p e) {filePath : String} (content : String)
    (claimed : a.registry.choose filePath ≠ none) :
    Session.Answers (Session.analyzeSource filePath content) ⟨a, collector⟩
      (.error (.setup (.config e))) ⟨a, collector⟩ := by
  obtain ⟨q, chosen⟩ := Option.ne_none_iff_exists'.1 claimed
  obtain ⟨language, there⟩ := Registry.mem_of_choose chosen
  rw [broken.plugins] at there
  obtain rfl : q = p.toPlugin := congrArg Prod.snd (List.mem_singleton.1 there)
  exact Session.analyzeSource_of_refused (s := ⟨a, collector⟩) content chosen
    broken.walkerFor_answers

/-- A file that gets as far as the walker stops the run; any other one is recorded as a problem. -/
theorem analyzeFile_answers (broken : a.Broken p e) (collector : Collector) (files : FileStore)
    (path : Path) :
    (a.Reaches files path →
      Session.Answers (Session.analyzeFile files path) ⟨a, collector⟩
        (.error (.setup (.config e))) ⟨a, collector⟩) ∧
    (¬ a.Reaches files path → ∃ problem,
      Session.Answers (Session.analyzeFile files path) ⟨a, collector⟩ (.ok problem)
        ⟨a, collector⟩) := by
  unfold Session.analyzeFile Analyzer.Reaches
  cases files.readText path with
  | error failure =>
      refine ⟨fun ⟨_, content, read⟩ => (nomatch read), fun _ => ?_⟩
      exact ⟨_, Session.Answers.map (Session.recordProblem_answers _ _ _)⟩
  | ok content =>
      constructor
      · rintro ⟨claimed, -⟩
        exact Session.Answers.bind
          (Session.Answers.run (broken.analyzeSource_answers content claimed))
          (Session.Answers.throw _)
      · intro lost
        have unclaimed : a.registry.choose path.toString = none :=
          Classical.byContradiction fun claimed => lost ⟨claimed, content, rfl⟩
        exact ⟨_, Session.Answers.bind
          (Session.Answers.run (Session.analyzeSource_of_unclaimed content unclaimed))
          (Session.Answers.map (Session.recordProblem_answers _ _ _))⟩

/-- Files are checked up to the first that gets as far as the walker. -/
theorem analyzeFiles_answers (broken : a.Broken p e) (collector : Collector) (files : FileStore)
    (paths : List Path) :
    ((∃ path ∈ paths, a.Reaches files path) →
      Session.Answers (paths.mapM (Session.analyzeFile files)) ⟨a, collector⟩
        (.error (.setup (.config e))) ⟨a, collector⟩) ∧
    ((¬ ∃ path ∈ paths, a.Reaches files path) → ∃ problems,
      Session.Answers (paths.mapM (Session.analyzeFile files)) ⟨a, collector⟩ (.ok problems)
        ⟨a, collector⟩) := by
  -- the session never changes, so each file meets the one that the first file met
  induction paths with
  | nil =>
      refine ⟨fun ⟨_, member, _⟩ => (nomatch member), fun _ => ⟨[], ?_⟩⟩
      exact Session.Answers.pure []
  | cons path rest ih =>
      obtain ⟨stops, passes⟩ := broken.analyzeFile_answers collector files path
      rw [List.mapM_cons]
      by_cases here : a.Reaches files path
      · refine ⟨fun _ => Session.Answers.bind_error (stops here), fun lost => ?_⟩
        exact absurd ⟨path, List.mem_cons_self, here⟩ lost
      · obtain ⟨problem, first⟩ := passes here
        constructor
        · rintro ⟨other, member, reaches⟩
          have later : other ∈ rest := (List.mem_cons.1 member).resolve_left fun same =>
            here (same ▸ reaches)
          exact Session.Answers.bind first
            (Session.Answers.bind_error (ih.1 ⟨other, later, reaches⟩))
        · intro lost
          obtain ⟨problems, others⟩ := ih.2 fun ⟨other, member, reaches⟩ =>
            lost ⟨other, List.mem_cons_of_mem _ member, reaches⟩
          exact ⟨_, Session.Answers.bind first
            (Session.Answers.bind others (Session.Answers.pure _))⟩

end Analyzer.Broken

/-! ## Runs -/

/-- The configuration mentions a check that there is not. -/
def AnalysisConfig.MentionsUnknown (config : AnalysisConfig) : Prop :=
  ∃ name ∈ Keyed.keys config.checks, name ≠ ImpliedStatic.name

/-- The check runs, and something is wrong with what the configuration gives it. -/
def AnalysisConfig.Misfit (config : AnalysisConfig) : Prop :=
  (config.forCheck ImpliedStatic.name).enabled = true ∧
    ImpliedStatic.Misfit (config.forCheck ImpliedStatic.name)

/-- What a run depends on besides its configuration. -/
structure Circumstances where
  workers : Int
  grammar : Java.Grammar
  files : FileStore
  paths : List String
  collector : Collector

namespace Circumstances

variable {c : Circumstances} {config : AnalysisConfig}

/-- What comes of building an analyzer with the bundled plugin and of checking the files that the
paths name. -/
def run (c : Circumstances) (config : AnalysisConfig) : Except Abort Report :=
  match Analyzer.create .bundled config c.workers c.grammar with
  | .error e => .error (.setup (.config e))
  | .ok a =>
    (Logged.collect ((Session.analyzePaths c.files c.paths).run.run ⟨a, c.collector⟩)).1.1

/-- The run is rejected as misconfigured. -/
def Refuses (c : Circumstances) (config : AnalysisConfig) : Prop :=
  ∃ e, c.run config = .error (.setup (.config e))

/-- The analyzer that is built if the configuration mentions known checks only. -/
def analyzer (c : Circumstances) (config : AnalysisConfig) : Analyzer :=
  { registry := .bundled, config, maxWorkers := max 1 c.workers, grammar := c.grammar }

/-- The files that the paths name; the configuration does not matter for them. -/
def collected (c : Circumstances) : Except FileFailure (List Path) :=
  (c.analyzer {}).collectFiles c.files c.paths

/-- One of the files that the paths name is a Java file that can be read. -/
def ReachSource (c : Circumstances) : Prop :=
  ∃ collected, c.collected = .ok collected ∧
    ∃ path ∈ collected, (Path.ofString path.toString).suffix = ".java" ∧
      ∃ content, c.files.readText path = .ok content

theorem collected_eq (config : AnalysisConfig) :
    (c.analyzer config).collectFiles c.files c.paths = c.collected :=
  rfl

theorem create_of_known (known : ¬ config.MentionsUnknown) :
    Analyzer.create .bundled config c.workers c.grammar = .ok (c.analyzer config) := by
  unfold Analyzer.create
  cases validated : Registry.bundled.validate config with
  | error e => exact absurd ((Registry.validate_bundled config).1 ⟨e, validated⟩) known
  | ok _ => rfl

/-- A configuration that mentions an unknown check is refused at once. -/
theorem refuses_of_unknown (unknown : config.MentionsUnknown) : c.Refuses config := by
  obtain ⟨e, refused⟩ := (Registry.validate_bundled config).2 unknown
  refine ⟨e, ?_⟩
  unfold run Analyzer.create
  rw [refused]
  rfl

/-- Any other run comes to what checking the files comes to. -/
theorem run_of_answers (known : ¬ config.MentionsUnknown) {r : Except Abort Report} {s : Session}
    (answers : Session.Answers (Session.analyzePaths c.files c.paths)
      ⟨c.analyzer config, c.collector⟩ r s) : c.run config = r := by
  rw [run, create_of_known known]
  exact congrArg Prod.fst answers.collect_eq

theorem reaches_iff (path : Path) : (c.analyzer config).Reaches c.files path ↔
    (Path.ofString path.toString).suffix = ".java" ∧
      ∃ content, c.files.readText path = .ok content := by
  have chosen : (c.analyzer config).registry.choose path.toString ≠ none ↔
      (Path.ofString path.toString).suffix = ".java" := by
    rw [analyzer, Registry.choose_bundled]
    split
    · next java => exact iff_of_true (fun equal => nomatch equal) java
    · next other => exact iff_of_false (fun claimed => claimed rfl) other
  rw [Analyzer.Reaches, chosen]

/-- If something is wrong with the check, the walker of the analyzer cannot be built. -/
theorem broken_of_misfit (c : Circumstances) (misfit : config.Misfit) :
    ∃ e, (c.analyzer config).Broken ⟨JavaPlugin.bundledManifest⟩ e := by
  obtain ⟨e, fault⟩ := (ImpliedStatic.fault?_iff_misfit _).2 misfit
  have walker := JavaPlugin.buildWalker_bundled (c.analyzer config)
  have settings : (c.analyzer config).config = config := rfl
  rw [settings, fault] at walker
  exact ⟨e, Registry.plugins_bundled, walker, rfl⟩

/-- If nothing is wrong with the configuration, the analyzer runs. -/
theorem runs_of_fit (known : ¬ config.MentionsUnknown) (fit : ¬ config.Misfit) :
    ∃ w, (c.analyzer config).Runs ⟨JavaPlugin.bundledManifest⟩ w := by
  have faultless : ImpliedStatic.fault? (config.forCheck ImpliedStatic.name) = none := by
    refine Option.eq_none_iff_forall_ne_some.2 fun e fault => fit ?_
    exact (ImpliedStatic.fault?_iff_misfit _).1 ⟨e, fault⟩
  have walker := JavaPlugin.buildWalker_bundled (c.analyzer config)
  have settings : (c.analyzer config).config = config := rfl
  rw [settings, faultless] at walker
  obtain ⟨w, built⟩ := walker
  have created := create_of_known (c := c) known
  rw [Registry.bundled_eq] at created
  exact ⟨w, Analyzer.runs_of_create created (built #[])⟩

/-- If something is wrong with the check, the analysis stops when it reaches a source. -/
theorem analyzePaths_of_misfit (misfit : config.Misfit) (reaches : c.ReachSource) :
    ∃ e, Session.Answers (Session.analyzePaths c.files c.paths) ⟨c.analyzer config, c.collector⟩
      (.error (.setup (.config e))) ⟨c.analyzer config, c.collector⟩ := by
  obtain ⟨e, broken⟩ := c.broken_of_misfit misfit
  obtain ⟨collected, named, reached⟩ := reaches
  have reaches_eq (path : Path) : (c.analyzer config).Reaches c.files path ↔ _ := reaches_iff path
  simp only [← reaches_eq] at reached
  rw [← collected_eq config] at named
  have stops := (broken.analyzeFiles_answers c.collector c.files collected).1 reached
  exact ⟨e, Session.analyzePaths_of_stopped named stops⟩

/-- If something is wrong with the check, a run is refused if it reaches a source. -/
theorem refuses_iff_of_misfit (known : ¬ config.MentionsUnknown) (misfit : config.Misfit) :
    c.Refuses config ↔ c.ReachSource := by
  unfold Refuses
  by_cases reaches : c.ReachSource
  · obtain ⟨e, stopped⟩ := analyzePaths_of_misfit misfit reaches
    rw [run_of_answers known stopped]
    exact iff_of_true ⟨e, rfl⟩ reaches
  · refine iff_of_false ?_ reaches
    cases named : c.collected with
    | error failure =>
        rw [← collected_eq config] at named
        rw [run_of_answers known (Session.analyzePaths_of_lost named)]
        exact fun ⟨_, refused⟩ => nomatch refused
    | ok collected =>
        have lost : ¬ ∃ path ∈ collected, (c.analyzer config).Reaches c.files path := by
          simp only [reaches_iff]
          exact fun found => reaches ⟨collected, named, found⟩
        rw [← collected_eq config] at named
        obtain ⟨e, broken⟩ := c.broken_of_misfit misfit
        obtain ⟨problems, checked⟩ :=
          (broken.analyzeFiles_answers c.collector c.files collected).2 lost
        rw [run_of_answers known (Session.analyzePaths_of_checked named checked)]
        exact fun ⟨_, refused⟩ => nomatch refused

/-- If nothing is wrong with the configuration, no run is refused. -/
theorem not_refuses_of_fit (known : ¬ config.MentionsUnknown) (fit : ¬ config.Misfit) :
    ¬ c.Refuses config := by
  obtain ⟨w, runs⟩ := runs_of_fit (c := c) known fit
  unfold Refuses
  cases named : c.collected with
  | error failure =>
      rw [← collected_eq config] at named
      rw [run_of_answers known (Session.analyzePaths_of_lost named)]
      exact fun ⟨_, refused⟩ => nomatch refused
  | ok collected =>
      rw [← collected_eq config] at named
      obtain ⟨s', answers, -⟩ := runs.analyzePaths_answers
        (s := ⟨c.analyzer config, c.collector⟩) (.inl rfl) named
      rw [run_of_answers known answers]
      exact fun ⟨_, refused⟩ => nomatch refused

/-- A run is refused if its configuration mentions an unknown check, or if something is wrong with
the check and the run reaches a source. -/
theorem refuses_iff : c.Refuses config ↔
    config.MentionsUnknown ∨ (config.Misfit ∧ c.ReachSource) := by
  by_cases known : config.MentionsUnknown
  · exact iff_of_true (refuses_of_unknown known) (.inl known)
  · by_cases misfit : config.Misfit
    · rw [refuses_iff_of_misfit known misfit]
      exact ⟨fun reaches => .inr ⟨misfit, reaches⟩, fun either =>
        (either.resolve_left known).2⟩
    · refine iff_of_false (not_refuses_of_fit known misfit) ?_
      rintro (unknown | ⟨wrong, -⟩)
      · exact known unknown
      · exact misfit wrong

/-! ## Runs without and with a source -/

/-- A run over no paths at all. -/
def idle : Circumstances where
  workers := 1
  grammar := fun _ => none
  files := {}
  paths := []
  collector := {}

/-- A run over one empty Java file. -/
def reading : Circumstances where
  workers := 1
  grammar := fun _ => none
  files := { entries := [(["A.java"], .file [])] }
  paths := ["A.java"]
  collector := {}

theorem not_reachSource_idle : ¬ idle.ReachSource := by
  have nothing : idle.collected = .ok [] := rfl
  rintro ⟨collected, named, path, member, -⟩
  rw [nothing] at named
  cases named
  cases member

theorem reachSource_reading : reading.ReachSource := by
  have name : Path.ofString "A.java" = ⟨"", ["A.java"]⟩ := by
    rw [Path.ofString_eq]
    rfl
  have named : reading.collected = .ok [⟨"", ["A.java"]⟩] := by
    unfold collected Analyzer.collectFiles
    simp only [reading, List.mapM_cons, List.mapM_nil, name]
    rfl
  have java : (Path.ofString (Path.mk "" ["A.java"]).toString).suffix = ".java" := by
    have text : (Path.mk "" ["A.java"]).toString = "A.java" := rfl
    rw [text, name]
    rfl
  exact ⟨_, named, _, List.mem_singleton_self _, java, "", rfl⟩

/-- **What a configuration is refused for depends on the files, unless it is refused at once.**  An
unknown check is refused in every run.  Anything else that is wrong with the check is refused in the
runs that reach a source and in no others; so the configuration alone decides exactly if it mentions
an unknown check or nothing is wrong with it. -/
theorem refusal_turns_on_sources (config : AnalysisConfig) :
    (∀ c : Circumstances, c.Refuses config ↔
      config.MentionsUnknown ∨ (config.Misfit ∧ c.ReachSource)) ∧
    ((∀ c c' : Circumstances, c.Refuses config ↔ c'.Refuses config) ↔
      config.MentionsUnknown ∨ ¬ config.Misfit) := by
  refine ⟨fun c => refuses_iff, ?_⟩
  simp only [refuses_iff]
  constructor
  · intro alike
    refine Classical.byContradiction fun neither => ?_
    have known : ¬ config.MentionsUnknown := fun unknown => neither (.inl unknown)
    have misfit : config.Misfit := Classical.byContradiction fun fit => neither (.inr fit)
    -- a run that reads a source is refused, so a run over no paths would be refused as well
    rcases (alike reading idle).1 (.inr ⟨misfit, reachSource_reading⟩) with unknown | ⟨-, reaches⟩
    · exact known unknown
    · exact not_reachSource_idle reaches
  · rintro (unknown | fit) c c'
    · exact iff_of_true (.inl unknown) (.inl unknown)
    · have only (c : Circumstances) :
          config.MentionsUnknown ∨ (config.Misfit ∧ c.ReachSource) ↔ config.MentionsUnknown :=
        ⟨fun either => either.resolve_right fun both => fit both.1, .inl⟩
      rw [only, only]

/-- The check is given an option that it does not have. -/
def bogusOption : AnalysisConfig where
  checks := [(ImpliedStatic.name, { options := [("bogus", .bool true)] })]

/-- A configuration with an unknown option is refused in a run that reads a source, but not in a run
over no paths; so the configuration alone does not decide. -/
theorem bogusOption_refused_by_reading :
    ¬ idle.Refuses bogusOption ∧ reading.Refuses bogusOption ∧
      ¬ ∀ (config : AnalysisConfig) (c c' : Circumstances),
        c.Refuses config ↔ c'.Refuses config := by
  have known : ¬ bogusOption.MentionsUnknown := by
    rintro ⟨name, mentioned, other⟩
    exact other (List.mem_singleton.1 mentioned)
  have given : "bogus" ∈ Keyed.keys (bogusOption.forCheck ImpliedStatic.name).options :=
    List.mem_cons_self
  have misfit : bogusOption.Misfit := ⟨rfl, .unknownOption given (by decide)⟩
  have accepted : ¬ idle.Refuses bogusOption := by
    rw [refuses_iff_of_misfit known misfit]
    exact not_reachSource_idle
  have refused : reading.Refuses bogusOption := by
    rw [refuses_iff_of_misfit known misfit]
    exact reachSource_reading
  exact ⟨accepted, refused, fun alike => accepted ((alike _ _ _).2 refused)⟩

end Circumstances

end ModifierLint
