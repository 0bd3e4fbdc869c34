/-
# Any interleaving gives the same report

Tasks share the collector, so a schedule decides in which order diagnostics are reported.  It does
not decide anything that the report shows.  What a schedule keeps is `Coherent`: what has been
reported about a file, followed by what its task has left to report, are the diagnostics found in
it (`Coherent.advanceAt`, and by induction `Coherent.follow`).  A step of one task adds reports
about its own file only, which is why the files have to have distinct paths.

When all tasks are done, the reports about each file are those of its walk, in their order, and
sorting forgets how they were mixed.  Every schedule can be completed, because every step of a task
brings it closer to its end.
-/
import ModifierLint.Proofs.Analyzer.Tasks
import ModifierLint.Proofs.Analyzer.Together

namespace ModifierLint

open Java (JavaPlugin)

/-! ## Lists of tasks -/

/-- At an index stands what was put there, or what stood there before. -/
theorem of_getElem?_set {α : Type} {l : List α} {i j : Nat} {x y : α}
    (there : (l.set i x)[j]? = some y) : y = x ∨ i ≠ j ∧ l[j]? = some y := by
  rw [List.getElem?_set] at there
  split at there
  · split at there
    · exact .inl (Option.some.inj there).symm
    · cases there
  · next away => exact .inr ⟨away, there⟩

theorem map_set_of_same {α β : Type} {f : α → β} {l : List α} {i : Nat} {x y : α}
    (here : l[i]? = some x) (same : f y = f x) : (l.set i y).map f = l.map f := by
  obtain ⟨inside, rfl⟩ := List.getElem?_eq_some_iff.1 here
  have inside' : i < (l.map f).length := by rwa [List.length_map]
  have unchanged : (l.map f).set i (l.map f)[i] = l.map f := List.set_getElem_self inside'
  rw [List.getElem_map] at unchanged
  rw [List.map_set, same, unchanged]

/-! ## Coherence -/

/-- What has been reported about a file. -/
def Session.reportsOn (s : Session) (path : Path) : List Diagnostic :=
  s.collector.reported.toList.filter (·.filePath = path.toString)

/-- The tasks are those of the files, each where its verdict lets it come.  What has been reported
about a file and what its task has left to report are the diagnostics found in it, and nothing has
been reported about other files. -/
structure Coherent (a : Analyzer) (p : JavaPlugin) (w : Walker) (files : FileStore)
    (paths : List Path) (s : Session) (tasks : List FileTask) : Prop where
  serves : a.Serves w s
  about : tasks.map (·.path) = paths
  sound : ∀ (i : Nat) (t : FileTask), tasks[i]? = some t → t.progress.Sound a p w files t.path
  reported : ∀ (i : Nat) (t : FileTask), tasks[i]? = some t →
    s.reportsOn t.path ++ t.progress.left (a.found w files t.path) = a.found w files t.path
  known : ∀ d ∈ s.collector.reported.toList, ∃ path ∈ paths, d.filePath = path.toString

/-- The number of steps that tasks take until all are done. -/
def FileTask.steps (a : Analyzer) (w : Walker) (files : FileStore) : List FileTask → Nat
  | [] => 0
  | t :: tasks => t.progress.steps (a.found w files t.path) + steps a w files tasks

/-- The tasks come closer to their ends if one of them does. -/
theorem FileTask.steps_set_lt {a : Analyzer} {w : Walker} {files : FileStore} {t : FileTask}
    {after : Progress}
    (closer : after.steps (a.found w files t.path) < t.progress.steps (a.found w files t.path)) :
    ∀ {tasks : List FileTask} {i : Nat}, tasks[i]? = some t →
      steps a w files (tasks.set i { t with progress := after }) < steps a w files tasks
  | [], _, here => by cases here
  | u :: tasks, 0, here => by
      cases here
      rw [List.set_cons_zero, steps, steps]
      exact Nat.add_lt_add_right closer _
  | u :: tasks, i + 1, here => by
      rw [List.getElem?_cons_succ] at here
      rw [List.set_cons_succ, steps, steps]
      exact Nat.add_lt_add_left (steps_set_lt closer here) _

theorem Progress.steps_pos (found : List Diagnostic) {progress : Progress}
    (unfinished : progress.outcome? = none) : 0 < progress.steps found := by
  cases progress with
  | done problem => cases unfinished
  | waiting => exact Nat.succ_pos _
  | loaded content => exact Nat.succ_pos _
  | assigned content p w => exact Nat.succ_pos _
  | reporting p count left failure => exact Nat.succ_pos _

namespace Coherent

variable {a : Analyzer} {p : JavaPlugin} {w : Walker} {files : FileStore} {paths : List Path}
variable {s : Session} {tasks : List FileTask}

/-- Tasks that have not started are coherent with an empty collector. -/
theorem start (serves : a.Serves w s) (empty : s.collector.reported = #[]) :
    Coherent a p w files paths s (paths.map (⟨·, .waiting⟩)) := by
  have waiting {i : Nat} {t : FileTask}
      (there : (paths.map (⟨·, .waiting⟩ : Path → FileTask))[i]? = some t) :
      t.progress = .waiting := by
    rw [List.getElem?_map] at there
    obtain ⟨path, -, rfl⟩ := Option.map_eq_some_iff.1 there
    rfl
  refine ⟨serves, ?_, ?_, ?_, ?_⟩
  · rw [List.map_map]
    exact List.map_id paths
  · intro i t there
    rw [waiting there]
    exact .waiting
  · intro i t there
    rw [waiting there, Session.reportsOn, empty]
    rfl
  · intro d hd
    rw [empty] at hd
    cases hd

theorem path_ne (distinct : (paths.map Path.toString).Nodup)
    (coherent : Coherent a p w files paths s tasks) {i j : Nat} {t u : FileTask}
    (here : tasks[i]? = some t) (there : tasks[j]? = some u) (away : i ≠ j) :
    t.path.toString ≠ u.path.toString := by
  have name {k : Nat} {v : FileTask} (hv : tasks[k]? = some v) :
      (paths.map Path.toString)[k]? = some v.path.toString := by
    rw [← coherent.about, List.map_map, List.getElem?_map, hv]
    rfl
  have inside : i < (paths.map Path.toString).length :=
    (List.getElem?_eq_some_iff.1 (name here)).1
  intro same
  exact away ((List.getElem?_inj inside distinct).1 (by rw [name here, name there, same]))

/-- A step of one task keeps the tasks coherent. -/
theorem set (runs : a.Runs p w) (distinct : (paths.map Path.toString).Nodup)
    (coherent : Coherent a p w files paths s tasks) {i : Nat} {t : FileTask}
    (here : tasks[i]? = some t) {reports : List Diagnostic} {s' : Session} {after : Progress}
    (moves : t.progress.Moves a p w files t.path s reports s' after) :
    Coherent a p w files paths s' (tasks.set i { t with progress := after }) := by
  have whole := coherent.reported i t here
  rw [moves.left] at whole
  have own : ∀ d ∈ reports, d.filePath = t.path.toString := by
    intro d hd
    have there : d ∈ a.found w files t.path := by
      rw [← whole]
      exact List.mem_append_right _ (List.mem_append_left _ hd)
    exact runs.filePath_of_found there
  have more (path : Path) : s'.reportsOn path =
      s.reportsOn path ++ reports.filter (·.filePath = path.toString) := by
    rw [Session.reportsOn, moves.reported, List.filter_append, ← Session.reportsOn]
  refine ⟨moves.serves, ?_, ?_, ?_, ?_⟩
  · have same : ({ t with progress := after } : FileTask).path = t.path := rfl
    exact (map_set_of_same (f := FileTask.path) here same).trans coherent.about
  · intro j u there
    rcases of_getElem?_set there with rfl | ⟨-, there⟩
    · exact moves.sound
    · exact coherent.sound j u there
  · intro j u there
    rcases of_getElem?_set there with rfl | ⟨away, there⟩
    · rw [more, filter_key_self own, List.append_assoc, whole]
    · have others : ∀ d ∈ reports, d.filePath ≠ u.path.toString := by
        intro d hd same
        exact coherent.path_ne distinct here there away ((own d hd).symm.trans same)
      rw [more, filter_key_other others, List.append_nil, coherent.reported j u there]
  · intro d hd
    rw [moves.reported] at hd
    rcases List.mem_append.1 hd with hd | hd
    · exact coherent.known d hd
    · refine ⟨t.path, ?_, own d hd⟩
      rw [← coherent.about]
      exact List.mem_map.2 ⟨t, List.mem_of_getElem? here, rfl⟩

/-- The task with a number can be advanced, and the tasks stay coherent; a task that is not done
comes closer to its end. -/
theorem advanceAt (runs : a.Runs p w) (distinct : (paths.map Path.toString).Nodup)
    (coherent : Coherent a p w files paths s tasks) (i : Nat) : ∃ tasks' s',
    Session.Answers (Session.advanceAt files tasks i) s (.ok tasks') s' ∧
      Coherent a p w files paths s' tasks' ∧
      ∀ t, tasks[i]? = some t → t.progress.outcome? = none →
        FileTask.steps a w files tasks' < FileTask.steps a w files tasks := by
  cases here : tasks[i]? with
  | none =>
      refine ⟨tasks, s, ?_, coherent, fun t there => by cases there⟩
      rw [Session.advanceAt, here]
      exact Session.Answers.pure tasks
  | some t =>
      obtain ⟨reports, s', after, moves⟩ :=
        runs.advance_moves coherent.serves (coherent.sound i t here)
      refine ⟨tasks.set i { t with progress := after }, s', ?_,
        coherent.set runs distinct here moves, ?_⟩
      · rw [Session.advanceAt, here]
        exact Session.Answers.bind moves.answers (Session.Answers.pure _)
      · intro u hu unfinished
        obtain rfl := Option.some.inj hu
        have closer := moves.steps
        have positive := Progress.steps_pos (a.found w files t.path) unfinished
        exact FileTask.steps_set_lt (by omega) here

/-- Tasks stay coherent along a schedule. -/
theorem follow (runs : a.Runs p w) (distinct : (paths.map Path.toString).Nodup)
    (schedule : List Nat) : ∀ {s : Session} {tasks : List FileTask},
    Coherent a p w files paths s tasks → ∃ tasks' s',
      Session.Answers (Session.follow files tasks schedule) s (.ok tasks') s' ∧
        Coherent a p w files paths s' tasks' := by
  induction schedule with
  | nil =>
      intro s tasks coherent
      exact ⟨tasks, s, Session.Answers.pure tasks, coherent⟩
  | cons i rest ih =>
      intro s tasks coherent
      obtain ⟨tasks', s', first, coherent', -⟩ := coherent.advanceAt runs distinct i
      obtain ⟨tasks'', s'', others, coherent''⟩ := ih coherent'
      refine ⟨tasks'', s'', ?_, coherent''⟩
      rw [Session.follow, List.foldlM_cons]
      exact Session.Answers.bind first others

/-- The tasks can be brought to their ends. -/
theorem complete (runs : a.Runs p w) (distinct : (paths.map Path.toString).Nodup)
    (coherent : Coherent a p w files paths s tasks) : ∃ schedule tasks' s',
      Session.Answers (Session.follow files tasks schedule) s (.ok tasks') s' ∧
        Coherent a p w files paths s' tasks' ∧ ∀ t ∈ tasks', t.progress.outcome? ≠ none := by
  induction bound : FileTask.steps a w files tasks using Nat.strongRecOn
    generalizing s tasks with
  | ind n ih =>
      by_cases unfinished : ∃ t ∈ tasks, t.progress.outcome? = none
      · obtain ⟨t, ht, hn⟩ := unfinished
        obtain ⟨i, here⟩ := List.getElem?_of_mem ht
        obtain ⟨tasks', s', first, coherent', closer⟩ := coherent.advanceAt runs distinct i
        have fewer : FileTask.steps a w files tasks' < n := bound ▸ closer t here hn
        obtain ⟨schedule, tasks'', s'', others, coherent'', finished⟩ :=
          ih _ fewer coherent' rfl
        refine ⟨i :: schedule, tasks'', s'', ?_, coherent'', finished⟩
        rw [Session.follow, List.foldlM_cons]
        exact Session.Answers.bind first others
      · refine ⟨[], tasks, s, Session.Answers.pure tasks, coherent, ?_⟩
        intro t ht hn
        exact unfinished ⟨t, ht, hn⟩

/-- A task that is done has reported all that was found, and its outcome is the problem of its
file. -/
theorem done_of_outcome (coherent : Coherent a p w files paths s tasks) {i : Nat} {t : FileTask}
    (here : tasks[i]? = some t) (finished : t.progress.outcome? ≠ none) :
    t.progress.outcome? = some (a.problem? w files t.path) ∧
      s.reportsOn t.path = a.found w files t.path := by
  have whole := coherent.reported i t here
  have sound := coherent.sound i t here
  generalize t.progress = progress at whole sound finished
  cases sound with
  | done =>
      rw [Progress.left, List.append_nil] at whole
      exact ⟨rfl, whole⟩
  | waiting => exact absurd rfl finished
  | loaded _ => exact absurd rfl finished
  | assigned _ _ => exact absurd rfl finished
  | reporting _ => exact absurd rfl finished

/-- What is shown of the reports when all tasks are done. -/
theorem diagnostics_of_finished (runs : a.Runs p w) (distinct : (paths.map Path.toString).Nodup)
    (coherent : Coherent a p w files paths s tasks)
    (finished : ∀ t ∈ tasks, t.progress.outcome? ≠ none) :
    s.collector.diagnostics = (paths.flatMap (a.found w files)).mergeSort Diagnostic.le := by
  refine Diagnostic.mergeSort_eq_of_files fun filePath => ?_
  by_cases named : ∃ path ∈ paths, path.toString = filePath
  · obtain ⟨path, hpath, rfl⟩ := named
    have task : ∃ t ∈ tasks, t.path = path := by
      rw [← coherent.about] at hpath
      exact List.mem_map.1 hpath
    obtain ⟨t, ht, rfl⟩ := task
    obtain ⟨i, here⟩ := List.getElem?_of_mem ht
    rw [runs.filter_found distinct hpath]
    exact (coherent.done_of_outcome here (finished t ht)).2
  · have others : ∀ d ∈ s.collector.reported.toList, d.filePath ≠ filePath := by
      intro d hd same
      obtain ⟨path, hpath, own⟩ := coherent.known d hd
      exact named ⟨path, hpath, own.symm.trans same⟩
    have others' : ∀ d ∈ paths.flatMap (a.found w files), d.filePath ≠ filePath := by
      intro d hd same
      obtain ⟨path, hpath, hd⟩ := List.mem_flatMap.1 hd
      exact named ⟨path, hpath, (runs.filePath_of_found hd).symm.trans same⟩
    rw [filter_key_other others, filter_key_other others']

end Coherent

/-- The outcomes of tasks that are all done. -/
theorem FileTask.outcomes?_eq {g : Path → Option FileError} {tasks : List FileTask}
    (each : ∀ t ∈ tasks, t.progress.outcome? = some (g t.path)) :
    outcomes? tasks = some (tasks.map fun t => g t.path) := by
  induction tasks with
  | nil => rfl
  | cons t rest ih =>
      have others := ih fun u hu => each u (List.mem_cons_of_mem t hu)
      rw [outcomes?] at others
      rw [outcomes?, List.mapM_cons, each t List.mem_cons_self, others]
      rfl

theorem FileTask.done_of_outcomes? {tasks : List FileTask} {problems : List (Option FileError)}
    (all : outcomes? tasks = some problems) : ∀ t ∈ tasks, t.progress.outcome? ≠ none := by
  induction tasks generalizing problems with
  | nil =>
      intro t ht
      cases ht
  | cons t rest ih =>
      rw [outcomes?, List.mapM_cons] at all
      cases first : t.progress.outcome? with
      | none =>
          rw [first] at all
          cases all
      | some problem =>
          cases others : outcomes? rest with
          | none =>
              rw [outcomes?] at others
              rw [first, others] at all
              cases all
          | some _ =>
              intro u hu
              rcases List.mem_cons.1 hu with rfl | hu
              · rw [first]
                exact Option.some_ne_none _
              · exact ih others u hu

/-! ## The report -/

/-- The report of coherent tasks that are all done. -/
theorem Coherent.report_of_finished {a : Analyzer} {p : JavaPlugin} {w : Walker}
    {files : FileStore} {paths : List Path} {s : Session} {tasks : List FileTask}
    (runs : a.Runs p w) (distinct : (paths.map Path.toString).Nodup)
    (coherent : Coherent a p w files paths s tasks)
    (finished : ∀ t ∈ tasks, t.progress.outcome? ≠ none) :
    (FileTask.outcomes? tasks).map (Report.gather · s.collector.diagnostics) =
      some (a.report w files paths) := by
  have outcomes : FileTask.outcomes? tasks = some (paths.map (a.problem? w files)) := by
    rw [← coherent.about, List.map_map]
    refine FileTask.outcomes?_eq fun t ht => ?_
    obtain ⟨i, here⟩ := List.getElem?_of_mem ht
    exact (coherent.done_of_outcome here (finished t ht)).1
  rw [outcomes, coherent.diagnostics_of_finished runs distinct finished]
  rfl

/-- The report that a session gives of files: every schedule answers it once all files are done,
every schedule can be continued until they are, checking the files one after the other answers it as
well, and it puts together what comes of checking each file alone. -/
structure Session.Reports (s : Session) (files : FileStore) (paths : List Path) (r : Report) :
    Prop where
  every : ∀ schedule, ∃ answer s',
    Session.Answers (checkAll files paths schedule) s (.ok answer) s' ∧
      (answer = none ∨ answer = some r)
  completed : ∀ schedule, ∃ more s',
    Session.Answers (checkAll files paths (schedule ++ more)) s (.ok (some r)) s'
  sequential : ∀ named, s.analyzer.collectFiles files named = .ok paths → ∃ s',
    Session.Answers (analyzePaths files named) s (.ok r) s'
  together : r.PutsTogether s files paths

/-- **The report does not depend on the schedule.**  An analyzer that could be created with a plugin
for Java, under a configuration that gives it a walker, has one report of files with distinct paths,
if it starts with an empty collector. -/
theorem Session.reports_of_distinct {p : JavaPlugin} {config : AnalysisConfig} {workers : Int}
    {grammar : Java.Grammar} {a : Analyzer}
    (created : Analyzer.create p.registry config workers grammar = .ok a)
    (usable : ∃ w, (Logged.collect (a.buildWalker p.toPlugin).run).1 = .ok w)
    (files : FileStore) (bundle : Bundle) (paths : List Path)
    (distinct : (paths.map Path.toString).Nodup) :
    ∃ r, Session.Reports ⟨a, { bundle }⟩ files paths r := by
  obtain ⟨w, built⟩ := usable
  have runs := Analyzer.runs_of_create created built
  have serves : a.Serves w ⟨a, { bundle }⟩ := .inl rfl
  have start : Coherent a p w files paths ⟨a, { bundle }⟩ _ := .start serves rfl
  refine ⟨a.report w files paths, ?_, ?_, ?_,
    Analyzer.report_putsTogether runs distinct serves rfl⟩
  · intro schedule
    obtain ⟨tasks, s', followed, coherent⟩ := start.follow runs distinct schedule
    refine ⟨_, s', Session.checkAll_answers followed, ?_⟩
    cases all : FileTask.outcomes? tasks with
    | none => exact .inl rfl
    | some problems =>
        have finished := FileTask.done_of_outcomes? all
        have report := coherent.report_of_finished runs distinct finished
        rw [all] at report
        exact .inr report
  · intro schedule
    obtain ⟨tasks, s', followed, coherent⟩ := start.follow runs distinct schedule
    obtain ⟨more, tasks', s'', followed', coherent', finished⟩ := coherent.complete runs distinct
    have whole : Session.Answers
        (Session.follow files (paths.map (⟨·, .waiting⟩)) (schedule ++ more)) ⟨a, { bundle }⟩
        (.ok tasks') s'' := by
      rw [Session.follow, List.foldlM_append]
      exact Session.Answers.bind followed followed'
    refine ⟨more, s'', ?_⟩
    rw [← coherent'.report_of_finished runs distinct finished]
    exact Session.checkAll_answers whole
  · intro named collected
    exact runs.analyzePaths_report serves rfl collected

/-- Sources of the words `enum` and `broken`, and a text. -/
def mixedFiles : FileStore where
  entries := [(["Enum.java"], .file [0x65, 0x6E, 0x75, 0x6D]),
    (["Broken.java"], .file [0x62, 0x72, 0x6F, 0x6B, 0x65, 0x6E]),
    (["notes.txt"], .file [])]

/-- A grammar that knows the word `enum`. -/
def wordGrammar : Java.Grammar := fun content =>
  let extent : Java.Extent := ⟨0, 4, ⟨0, 0⟩, ⟨0, 4⟩⟩
  some (.mk "program" extent (content != "enum") false
    [.mk "class_declaration" extent false false
      [.mk "enum_declaration" extent false false []]])

/-- The analyzer with the bundled plugin and the default configuration. -/
def mixedAnalyzer : Analyzer where
  registry := JavaPlugin.registry ⟨JavaPlugin.bundledManifest⟩
  config := {}
  maxWorkers := 4
  grammar := wordGrammar

/-- One file with a violation, and one file for each kind of problem. -/
def mixedPaths : List Path :=
  [⟨"", ["Enum.java"]⟩, ⟨"", ["Broken.java"]⟩, ⟨"", ["notes.txt"]⟩, ⟨"", ["Gone.java"]⟩]

theorem usable_mixedAnalyzer : ∃ w, (Logged.collect
    (mixedAnalyzer.buildWalker (JavaPlugin.toPlugin ⟨JavaPlugin.bundledManifest⟩)).run).1 =
      .ok w := by
  have fits : ∀ check ∈ [({} : Java.ImpliedStatic).toCheck], check.tokenError? = none := by
    intro check hc
    obtain rfl := List.mem_singleton.1 hc
    exact Java.ImpliedStatic.fits_of_default rfl
  have walker : Attempt.Answers
      (mixedAnalyzer.buildWalker (JavaPlugin.toPlugin ⟨JavaPlugin.bundledManifest⟩)) (.ok ⟨_, fits⟩) :=
    JavaPlugin.buildWalker_of_checks JavaPlugin.createChecks_bundled (Walker.build_of_fits fits)
  exact ⟨_, walker #[]⟩

theorem create_mixedAnalyzer : Analyzer.create
    (JavaPlugin.registry ⟨JavaPlugin.bundledManifest⟩) {} 4 wordGrammar = .ok mixedAnalyzer :=
  rfl

theorem Session.reports_of_mixedFiles :
    (mixedPaths.map Path.toString).Nodup ∧
      ∃ r, Session.Reports ⟨mixedAnalyzer, {}⟩ mixedFiles mixedPaths r := by
  have distinct : (mixedPaths.map Path.toString).Nodup := by decide
  exact ⟨distinct, Session.reports_of_distinct create_mixedAnalyzer usable_mixedAnalyzer mixedFiles
    {} mixedPaths distinct⟩

end ModifierLint
