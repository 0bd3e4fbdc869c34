/-
# The outcomes of files together

The report of several files puts together what comes of checking each of them alone
(`Analyzer.report_putsTogether`).  Diagnostics and errors carry the path of their file, and the
paths are distinct, so the parts that a file contributes can be told from those of all others
(`filter_flatMap_of_nodup`).  Sorting keeps them apart, because leaving diagnostics out commutes
with sorting.
-/
import Mathlib.Data.List.Basic
import ModifierLint.Proofs.Analyzer.Alone
import ModifierLint.Proofs.Check.Order

namespace ModifierLint

open Java (JavaPlugin)

/-! ## Parts with names -/

section

variable {α β κ : Type} [DecidableEq κ] {key : β → κ} {k : κ} {l : List β}

theorem filter_key_self (own : ∀ b ∈ l, key b = k) : l.filter (key · = k) = l :=
  List.filter_eq_self.2 fun b hb => decide_eq_true (own b hb)

theorem filter_key_other {k' : κ} (other : ∀ b ∈ l, key b ≠ k') : l.filter (key · = k') = [] :=
  List.filter_eq_nil_iff.2 fun b hb same => other b hb (of_decide_eq_true same)

/-- The parts that carry the name of an element are the ones that it contributes, if every element
contributes parts with its own name and the names are distinct. -/
theorem filter_flatMap_of_nodup (name : α → κ) (key : β → κ) {parts : α → List β}
    (own : ∀ a, ∀ b ∈ parts a, key b = name a) {a : α} : ∀ {l : List α},
    (l.map name).Nodup → a ∈ l → (l.flatMap parts).filter (key · = name a) = parts a
  | x :: l, distinct, ha => by
      rw [List.map_cons, List.nodup_cons] at distinct
      rw [List.flatMap_cons, List.filter_append]
      rcases List.mem_cons.1 ha with rfl | ha
      · have others : ∀ b ∈ l.flatMap parts, key b ≠ name a := by
          intro b hb same
          obtain ⟨y, hy, hb⟩ := List.mem_flatMap.1 hb
          exact distinct.1 (List.mem_map.2 ⟨y, hy, (own y b hb).symm.trans same⟩)
        rw [filter_key_self (own a), filter_key_other others, List.append_nil]
      · have others : ∀ b ∈ parts x, key b ≠ name a := by
          intro b hb same
          exact distinct.1 (List.mem_map.2 ⟨a, ha, same.symm.trans (own x b hb)⟩)
        rw [filter_key_other others, List.nil_append,
          filter_flatMap_of_nodup name key own distinct.2 ha]

end

/-! ## The report -/

/-- The report of files, each with its own outcome. -/
def Analyzer.report (a : Analyzer) (w : Walker) (files : FileStore) (paths : List Path) : Report :=
  .gather (paths.map (a.problem? w files))
    ((paths.flatMap (a.found w files)).mergeSort Diagnostic.le)

/-- The report puts together what comes of checking each file alone in a session.  A file is checked
or has one error, errors are in the order of the files, and a file with an error has no
diagnostics. -/
structure Report.PutsTogether (r : Report) (s : Session) (files : FileStore) (paths : List Path) :
    Prop where
  count : r.filesChecked + r.errors.length = paths.length
  checked : r.filesChecked =
    paths.countP fun path => !r.errors.any (·.filePath = path.toString)
  order : (r.errors.map (·.filePath)).Sublist (paths.map Path.toString)
  known : ∀ d ∈ r.diagnostics, ∃ path ∈ paths, d.filePath = path.toString
  each : ∀ path ∈ paths, ∃ problem s',
    Session.Answers (Session.analyzeFile files path) s (.ok problem) s' ∧
      r.errors.filter (·.filePath = path.toString) = problem.toList ∧
      r.diagnostics.filter (·.filePath = path.toString) = s'.collector.diagnostics ∧
      (problem ≠ none → s'.collector.diagnostics = [])

namespace Analyzer

variable {a : Analyzer} {p : JavaPlugin} {w : Walker} {files : FileStore} {paths : List Path}

/-- Among the diagnostics of all files, those of one file are the ones found in it. -/
theorem Runs.filter_found (runs : a.Runs p w) (distinct : (paths.map Path.toString).Nodup)
    {path : Path} (hpath : path ∈ paths) :
    (paths.flatMap (a.found w files)).filter (·.filePath = path.toString) =
      a.found w files path :=
  filter_flatMap_of_nodup Path.toString Diagnostic.filePath
    (fun _ _ hd => runs.filePath_of_found hd) distinct hpath

theorem errors_report : (a.report w files paths).errors = paths.filterMap (a.problem? w files) := by
  rw [report, Report.gather, List.filterMap_map]
  rfl

theorem filePath_of_problem {path : Path} {e : FileError}
    (failed : a.problem? w files path = some e) : e.filePath = path.toString := by
  unfold problem? at failed
  split at failed
  · cases failed
    rfl
  · cases failed

/-- The errors of a file are the one that it contributes. -/
theorem filter_errors (distinct : (paths.map Path.toString).Nodup) {path : Path}
    (hpath : path ∈ paths) :
    (a.report w files paths).errors.filter (·.filePath = path.toString) =
      (a.problem? w files path).toList := by
  rw [errors_report, List.filterMap_eq_flatMap_toList]
  refine filter_flatMap_of_nodup Path.toString FileError.filePath ?_ distinct hpath
  intro path e he
  exact filePath_of_problem (Option.mem_toList.1 he)

/-- A file has an error in the report if it contributes one. -/
theorem any_errors (distinct : (paths.map Path.toString).Nodup) {path : Path}
    (hpath : path ∈ paths) :
    (a.report w files paths).errors.any (·.filePath = path.toString) =
      (a.problem? w files path).isSome := by
  have own : (a.report w files paths).errors.filter (·.filePath = path.toString) =
      (a.problem? w files path).toList := filter_errors distinct hpath
  cases problem : a.problem? w files path with
  | none =>
      rw [problem, Option.toList_none, List.filter_eq_nil_iff] at own
      rw [Option.isSome_none, List.any_eq_false]
      exact own
  | some e =>
      have there : e ∈ (a.report w files paths).errors.filter (·.filePath = path.toString) := by
        rw [own, problem]
        exact List.mem_singleton_self e
      rw [Option.isSome_some, List.any_eq_true]
      exact ⟨e, List.mem_filter.1 there⟩

theorem order_errors : ∀ paths : List Path,
    ((paths.filterMap (a.problem? w files)).map (·.filePath)).Sublist (paths.map Path.toString)
  | [] => .slnil
  | path :: rest => by
      rw [List.filterMap_cons, List.map_cons]
      split
      · exact (order_errors rest).cons _
      · next e failed =>
          rw [List.map_cons, filePath_of_problem failed]
          exact (order_errors rest).cons_cons _

theorem count_report : (a.report w files paths).filesChecked +
    (a.report w files paths).errors.length = paths.length := by
  have fewer : (a.report w files paths).errors.length ≤ paths.length := by
    rw [errors_report]
    exact List.length_filterMap_le _ _
  have rest : (a.report w files paths).filesChecked =
      (paths.length - (a.report w files paths).errors.length : Nat) := by
    rw [report, Report.gather, List.length_map]
  omega

/-- The files that are checked are those that contribute no error. -/
theorem filesChecked_report : (a.report w files paths).filesChecked =
    paths.countP fun path => !(a.problem? w files path).isSome := by
  have count : (a.report w files paths).filesChecked +
      (a.report w files paths).errors.length = paths.length := count_report
  have parts := List.length_eq_countP_add_countP (l := paths)
    fun path => (a.problem? w files path).isSome
  have clean : (paths.countP fun path => decide ¬(a.problem? w files path).isSome = true) =
      paths.countP fun path => !(a.problem? w files path).isSome := by
    simp only [Bool.not_eq_true, Bool.decide_eq_false]
  rw [errors_report, List.length_filterMap_eq_countP] at count
  omega

/-- What the report has about a file is what comes of checking it alone. -/
theorem report_part (runs : a.Runs p w) (distinct : (paths.map Path.toString).Nodup)
    {s : Session} (serves : a.Serves w s) (empty : s.collector.reported = #[]) {path : Path}
    (hpath : path ∈ paths) : ∃ problem s',
      Session.Answers (Session.analyzeFile files path) s (.ok problem) s' ∧
        (a.report w files paths).errors.filter (·.filePath = path.toString) = problem.toList ∧
        (a.report w files paths).diagnostics.filter (·.filePath = path.toString) =
          s'.collector.diagnostics ∧
        (problem ≠ none → s'.collector.diagnostics = []) := by
  obtain ⟨s', answers, -, appended⟩ := runs.analyzeFile_answers serves files path
  have alone : s'.collector.diagnostics = (a.found w files path).mergeSort Diagnostic.le := by
    rw [Collector.diagnostics, appended, Collector.reported_reportAll, empty, List.nil_append]
  refine ⟨a.problem? w files path, s', answers, filter_errors distinct hpath, ?_, ?_⟩
  · rw [alone, report, Report.gather, Diagnostic.weakOrder.filter_mergeSort,
      runs.filter_found distinct hpath]
  · intro broken
    rw [alone]
    cases verdict : a.verdict w files path with
    | error problem => rw [(outcome_of_error verdict).2, List.mergeSort_nil]
    | ok ds => exact absurd (outcome_of_ok verdict).1 broken

theorem report_putsTogether (runs : a.Runs p w) (distinct : (paths.map Path.toString).Nodup)
    {s : Session} (serves : a.Serves w s) (empty : s.collector.reported = #[]) :
    (a.report w files paths).PutsTogether s files paths := by
  refine ⟨?_, ?_, ?_, ?_, fun path hpath => report_part runs distinct serves empty hpath⟩
  · exact count_report
  · rw [filesChecked_report]
    refine congrArg Nat.cast (List.countP_congr fun path hpath => ?_)
    rw [any_errors distinct hpath]
  · rw [errors_report]
    exact order_errors paths
  · intro d hd
    obtain ⟨path, hpath, hd⟩ := List.mem_flatMap.1 (List.mem_mergeSort.1 hd)
    exact ⟨path, hpath, runs.filePath_of_found hd⟩

/-- Checking files one after the other, starting with an empty collector, answers their report. -/
theorem Runs.analyzePaths_report (runs : a.Runs p w) {s : Session} (serves : a.Serves w s)
    (empty : s.collector.reported = #[]) {named : List String}
    (collected : s.analyzer.collectFiles files named = .ok paths) : ∃ s',
    Session.Answers (Session.analyzePaths files named) s (.ok (a.report w files paths)) s' := by
  obtain ⟨s', answers, appended⟩ := runs.analyzePaths_answers serves collected
  refine ⟨s', ?_⟩
  have shown : s'.collector.diagnostics =
      (paths.flatMap (a.found w files)).mergeSort Diagnostic.le := by
    rw [Collector.diagnostics, appended, Collector.reported_reportAll, empty, List.nil_append]
  rw [shown] at answers
  exact answers

end Analyzer

end ModifierLint
