/-
# Checks of files under way

Files are checked concurrently.  The check of a file is a task that proceeds in steps: the text is
read, the plugin and its walker are looked up, the tree is parsed and walked, the diagnostics are
reported one by one, and the task is done.  `Session.advance` is one step of one task.  Between any
two steps of a task other tasks may proceed; all of them share the session, that is, the walkers
built so far and the collector.

`Session.checkAll` follows a schedule, a list of numbers of tasks, and answers the report if all
tasks are done by its end.  Schedules are arbitrary: a limit on the tasks under way at a time only
excludes some of them.

What a step does is said once, by `Analyzer.Runs.advance_moves`: it keeps the task true to the
verdict of its file, reports a front part of what the task has left to report, and brings the task
closer to its end.
-/
import ModifierLint.Proofs.Analyzer.Alone

namespace ModifierLint

open Java (JavaPlugin)

/-! ## Tasks and schedules -/

/-- How far the check of a file has come. -/
inductive Progress
  | waiting
  /-- The text has been read. -/
  | loaded (content : String)
  /-- The plugin and the walker have been looked up. -/
  | assigned (content : String) (p : Plugin) (w : Walker)
  /-- The tree has been walked, and the diagnostics `left` are still to be reported. -/
  | reporting (p : Plugin) (count : Nat) (left : List Diagnostic) (failure : Option VisitError)
  | done (problem : Option FileError)

/-- The check of a file under way. -/
structure FileTask where
  path : Path
  progress : Progress

namespace Session

/-- Ends a task whose source could not be analyzed. -/
def settle (filePath : String) (e : AnalysisFailure) : SessionM Abort Progress :=
  match e.sort with
  | .inl problem => (fun r => .done (some r)) <$> recordProblem filePath problem
  | .inr abort => throw abort

/-- The next step of a task. -/
def advance (files : FileStore) (path : Path) : Progress → SessionM Abort Progress
  | .waiting =>
    match files.readText path with
    | .error e => (fun r => .done (some r)) <$> recordProblem path.toString (.reading e)
    | .ok content => return .loaded content
  | .loaded content => do
    let a := (← getThe Session).analyzer
    match ← log (a.registry.pluginForFile path.toString) with
    | none => settle path.toString (.noPlugin path.toString)
    | some p =>
      match ← ExceptT.lift (walkerFor p).run with
      | .error e => settle path.toString (.setup e)
      | .ok w => return .assigned content p w
  | .assigned content p w => do
    let a := (← getThe Session).analyzer
    match ← log (p.parse a.grammar path.toString content).run with
    | .error e => settle path.toString (.parse e)
    | .ok root =>
      let walk := w.walk (.ofRoot root path.toString)
      return .reporting p walk.reported.size walk.reported.toList walk.failure
  | .reporting p count (d :: left) failure => do
    modifyThe Session fun s => { s with collector := s.collector.report d }
    return .reporting p count left failure
  | .reporting _ _ [] (some e) => settle path.toString (.visit e)
  | .reporting p count [] none => do
    log (Logged.write (.fileChecked (.str path.toString) (.str p.language) (.int count) []))
    return .done none
  | .done problem => return .done problem

/-- One step of the task with a number; there is nothing to do if no task has it. -/
def advanceAt (files : FileStore) (tasks : List FileTask) (i : Nat) :
    SessionM Abort (List FileTask) :=
  match tasks[i]? with
  | none => return tasks
  | some t => do
    let progress ← advance files t.path t.progress
    return tasks.set i { t with progress }

/-- Follows a schedule. -/
def follow (files : FileStore) (tasks : List FileTask) (schedule : List Nat) :
    SessionM Abort (List FileTask) :=
  schedule.foldlM (advanceAt files) tasks

end Session

/-- The outcome of a task that is done. -/
def Progress.outcome? : Progress → Option (Option FileError)
  | done problem => some problem
  | _ => none

/-- The outcomes of tasks that are all done. -/
def FileTask.outcomes? (tasks : List FileTask) : Option (List (Option FileError)) :=
  tasks.mapM fun t => t.progress.outcome?

/-- Checks files along a schedule; the report is there if all of them are done. -/
def Session.checkAll (files : FileStore) (paths : List Path) (schedule : List Nat) :
    SessionM Abort (Option Report) := do
  let tasks ← follow files (paths.map (⟨·, .waiting⟩)) schedule
  let diagnostics := (← getThe Session).collector.diagnostics
  return (FileTask.outcomes? tasks).map (Report.gather · diagnostics)

/-- Checking answers the report of the tasks that following the schedule leaves. -/
theorem Session.checkAll_answers {files : FileStore} {paths : List Path} {schedule : List Nat}
    {s s' : Session} {tasks : List FileTask}
    (followed : Session.Answers (follow files (paths.map (⟨·, .waiting⟩)) schedule) s
      (.ok tasks) s') :
    Session.Answers (checkAll files paths schedule) s
      (.ok ((FileTask.outcomes? tasks).map (Report.gather · s'.collector.diagnostics))) s' :=
  Session.Answers.bind followed
    (Session.Answers.bind Session.Answers.get (Session.Answers.pure _))

/-! ## One step -/

/-- What a task of a file with the diagnostics `found` has left to report. -/
def Progress.left (found : List Diagnostic) : Progress → List Diagnostic
  | waiting | loaded _ | assigned _ _ _ => found
  | reporting _ _ left _ => left
  | done _ => []

/-- The number of steps that the task takes until it is done. -/
def Progress.steps (found : List Diagnostic) : Progress → Nat
  | waiting => found.length + 4
  | loaded _ => found.length + 3
  | assigned _ _ _ => found.length + 2
  | reporting _ _ left _ => left.length + 1
  | done _ => 0

/-- The task of a file is where the verdict on the file lets it come. -/
inductive Progress.Sound (a : Analyzer) (p : JavaPlugin) (w : Walker) (files : FileStore)
    (path : Path) : Progress → Prop
  | waiting : Sound a p w files path waiting
  | loaded {content : String} (text : files.readText path = .ok content) :
      Sound a p w files path (loaded content)
  | assigned {content : String} (text : files.readText path = .ok content)
      (chosen : a.registry.choose path.toString = some p.toPlugin) :
      Sound a p w files path (assigned content p.toPlugin w)
  | reporting {q : Plugin} {count : Nat} {left : List Diagnostic}
      (clean : a.problem? w files path = none) :
      Sound a p w files path (reporting q count left none)
  | done : Sound a p w files path (done (a.problem? w files path))

/-- A step of the task of a file leads from one progress to another, and reports diagnostics. -/
structure Progress.Moves (a : Analyzer) (p : JavaPlugin) (w : Walker) (files : FileStore)
    (path : Path) (s : Session) (before : Progress) (reports : List Diagnostic) (s' : Session)
    (after : Progress) : Prop where
  answers : Session.Answers (Session.advance files path before) s (.ok after) s'
  serves : a.Serves w s'
  sound : after.Sound a p w files path
  reported : s'.collector.reported.toList = s.collector.reported.toList ++ reports
  left : before.left (a.found w files path) = reports ++ after.left (a.found w files path)
  steps : after.steps (a.found w files path) ≤ before.steps (a.found w files path) - 1

namespace Analyzer.Runs

variable {a : Analyzer} {p : JavaPlugin} {w : Walker} {s : Session}

theorem settle_answers {filePath : String} {e : AnalysisFailure} {problem : FileProblem}
    (sorted : e.sort = .inl problem) :
    Session.Answers (Session.settle filePath e) s (.ok (.done (some (problem.record filePath))))
      s := by
  rw [Session.settle, sorted]
  exact Session.Answers.map (Session.recordProblem_answers _ _ s)

/-- A step that finds the problem with a file ends its task. -/
theorem moves_of_error {files : FileStore} {path : Path} {before : Progress} {s' : Session}
    {problem : FileProblem} (verdict : a.verdict w files path = .error problem)
    (answers : Session.Answers (Session.advance files path before) s
      (.ok (.done (some (problem.record path.toString)))) s')
    (serves : a.Serves w s') (kept : s'.collector = s.collector)
    (all : before.left (a.found w files path) = a.found w files path) :
    before.Moves a p w files path s [] s' (.done (some (problem.record path.toString))) := by
  obtain ⟨failed, nothing⟩ := outcome_of_error verdict
  refine ⟨answers, serves, ?_, ?_, ?_, Nat.zero_le _⟩
  · rw [← failed]
    exact .done
  · rw [kept, List.append_nil]
  · rw [all, nothing]
    rfl

/-- The text is read. -/
theorem waiting_moves (serves : a.Serves w s) (files : FileStore) (path : Path) :
    ∃ reports s' after, Progress.waiting.Moves a p w files path s reports s' after := by
  cases text : files.readText path with
  | error e =>
      refine ⟨[], s, _, moves_of_error (verdict_of_unread text) ?_ serves rfl rfl⟩
      unfold Session.advance
      rw [text]
      exact Session.Answers.map (Session.recordProblem_answers _ _ s)
  | ok content =>
      refine ⟨[], s, .loaded content, ?_, serves, .loaded text, (List.append_nil _).symm, rfl,
        Nat.le_refl _⟩
      unfold Session.advance
      rw [text]
      exact Session.Answers.pure _

/-- The plugin and the walker are looked up. -/
theorem loaded_moves (runs : a.Runs p w) (serves : a.Serves w s) {files : FileStore} {path : Path}
    {content : String} (text : files.readText path = .ok content) :
    ∃ reports s' after, (Progress.loaded content).Moves a p w files path s reports s' after := by
  have choice := s.analyzer.registry.pluginForFile_answers path.toString
  rw [serves.registry_eq] at choice
  cases chosen : a.registry.choose path.toString with
  | none =>
      have verdict : a.verdict w files path = .error (.noPlugin path.toString) := by
        rw [verdict_of_read text]
        simp only [verdictOf, chosen]
      rw [chosen] at choice
      refine ⟨[], s, _, moves_of_error verdict (Session.Answers.bind Session.Answers.get ?_)
        serves rfl rfl⟩
      simp only [serves.registry_eq]
      exact Session.Answers.bind (Session.Answers.log choice) (settle_answers rfl)
  | some q =>
      obtain rfl := runs.eq_of_choose chosen
      obtain ⟨s', walker, serves', kept⟩ := runs.walkerFor_answers serves
      rw [chosen] at choice
      refine ⟨[], s', .assigned content p.toPlugin w, Session.Answers.bind Session.Answers.get ?_,
        serves', .assigned text chosen, ?_, rfl, Nat.le_refl _⟩
      · simp only [serves.registry_eq]
        exact Session.Answers.bind (Session.Answers.log choice)
          (Session.Answers.bind (Session.Answers.run walker) (Session.Answers.pure _))
      · rw [kept, List.append_nil]

/-- The tree is parsed and walked, which does not fail. -/
theorem assigned_moves (runs : a.Runs p w) (serves : a.Serves w s) {files : FileStore}
    {path : Path} {content : String} (text : files.readText path = .ok content)
    (chosen : a.registry.choose path.toString = some p.toPlugin) :
    ∃ reports s' after,
      (Progress.assigned content p.toPlugin w).Moves a p w files path s reports s' after := by
  have parse := JavaPlugin.parse_answers a.grammar path.toString content
  cases parsed : Java.parseSource a.grammar path.toString content with
  | error e =>
      have verdict : a.verdict w files path = .error (.parse e) := by
        rw [verdict_of_read text]
        simp only [verdictOf, chosen, parsed]
      rw [parsed] at parse
      refine ⟨[], s, _, moves_of_error verdict (Session.Answers.bind Session.Answers.get ?_)
        serves rfl rfl⟩
      simp only [serves.grammar_eq]
      exact Session.Answers.bind (Session.Answers.log parse) (settle_answers rfl)
  | ok root =>
      let walk := w.walk (.ofRoot root path.toString)
      have verdict : a.verdict w files path = .ok walk.reported.toList := by
        rw [verdict_of_read text]
        simp only [verdictOf, chosen, parsed]
        rfl
      obtain ⟨clean, all⟩ := outcome_of_ok verdict
      have calm : walk.failure = none :=
        (JavaPlugin.walk_calm runs.kind (.ofRoot root path.toString)).1
      rw [parsed] at parse
      refine ⟨[], s, .reporting p.toPlugin walk.reported.size walk.reported.toList none,
        Session.Answers.bind Session.Answers.get ?_, serves, .reporting clean,
        (List.append_nil _).symm, all, ?_⟩
      · simp only [serves.grammar_eq]
        refine Session.Answers.bind (Session.Answers.log parse) ?_
        rw [← calm]
        exact Session.Answers.pure _
      · rw [Progress.steps, Progress.steps, all]
        exact Nat.le_refl _

/-- One diagnostic is reported, or the task is done because none is left. -/
theorem reporting_moves (serves : a.Serves w s) {files : FileStore} {path : Path}
    (clean : a.problem? w files path = none) (q : Plugin) (count : Nat) (left : List Diagnostic) :
    ∃ reports s' after,
      (Progress.reporting q count left none).Moves a p w files path s reports s' after := by
  cases left with
  | nil =>
      refine ⟨[], s, .done none, Session.Answers.bind
        (Session.Answers.log (Logged.Answers.write _)) (Session.Answers.pure _), serves, ?_,
        (List.append_nil _).symm, rfl, Nat.zero_le _⟩
      rw [← clean]
      exact .done
  | cons d left =>
      refine ⟨[d], { s with collector := s.collector.report d }, .reporting q count left none,
        Session.Answers.bind (Session.Answers.modify _) (Session.Answers.pure _), serves,
        .reporting clean, ?_, rfl, Nat.le_refl _⟩
      exact Array.toList_push

/-- Every step of a sound task goes through, and leaves it sound. -/
theorem advance_moves (runs : a.Runs p w) (serves : a.Serves w s) {files : FileStore} {path : Path}
    {before : Progress} (sound : before.Sound a p w files path) :
    ∃ reports s' after, before.Moves a p w files path s reports s' after := by
  cases sound with
  | waiting => exact waiting_moves serves files path
  | loaded text => exact runs.loaded_moves serves text
  | assigned text chosen => exact runs.assigned_moves serves text chosen
  | reporting clean => exact reporting_moves serves clean _ _ _
  | done =>
      exact ⟨[], s, _, Session.Answers.pure _, serves, .done, (List.append_nil _).symm, rfl,
        Nat.zero_le _⟩

end Analyzer.Runs

end ModifierLint
