/-
# Clean files

Which files a run collects is decided by looking up the paths that it is given and what is below
them, and looking up a path fails if it or a name in it is too long, and for no other reason
(`Analyzer.collectFiles_cases`).

`Circumstances.Clean` says what a clean file is, without a word about how it is checked: it can be
read, is a Java source, has a tree without an error, and violates none of the rules of the
configuration.  Nothing is found in a file exactly if it is clean
(`Circumstances.verdict_iff_clean`), so the report of a run that is configured well has neither
violations nor errors exactly if all files are clean (`Circumstances.analyzePaths_of_fit`).
-/
import ModifierLint.Proofs.Analyzer.Refusal
import ModifierLint.Proofs.Files.Store
import ModifierLint.Proofs.Java.Configured
import ModifierLint.Proofs.Java.Conversion

namespace ModifierLint

open Java (JavaPlugin)

/-! ## Paths that can be looked up -/

namespace Analyzer

/-- The files that one path names. -/
def expand (a : Analyzer) (files : FileStore) (text : String) : Except FileFailure (List Path) := do
  if ← files.isDirectory (.ofString text) then
    return ((← files.filesBelow (.ofString text)).filter fun p =>
      a.registry.supported.any (Value.sameKey · (.str p.suffix))).mergeSort Path.le
  else return [.ofString text]

variable {a : Analyzer} {files : FileStore}

theorem collectFiles_eq (paths : List String) : a.collectFiles files paths =
    (paths.mapM (a.expand files)).map fun lists => lists.flatten.eraseDups := rfl

/-- The files that one path names, if all of them can be looked up. -/
def listing (a : Analyzer) (files : FileStore) (text : String) : List Path :=
  if files.isDirectory (.ofString text) = .ok true then
    ((files.pathsBelow (.ofString text)).filter fun p =>
      a.registry.supported.any (Value.sameKey · (.str p.suffix))).mergeSort Path.le
  else [.ofString text]

theorem expand_eq {text : String} (reach : files.InReach (.ofString text)) :
    a.expand files text = .ok (a.listing files text) := by
  rcases files.isDirectory_cases (.ofString text) with ⟨-, b, answer⟩ | ⟨long, -⟩
  · unfold expand listing
    rw [answer, FileStore.filesBelow_of_inReach reach]
    cases b with
    | true => rfl
    | false => rfl
  · exact absurd long reach.itself

theorem expand_error {text : String} (beyond : ¬ files.InReach (.ofString text)) :
    ∃ path, a.expand files text = .error (.nameTooLong path) := by
  unfold expand
  rcases files.isDirectory_cases (.ofString text) with ⟨short, -⟩ | ⟨-, answer⟩
  · have below : ∃ entry ∈ files.entriesBelow (.ofString text),
        FileStore.isTooLong entry.1 = true := by
      by_contra none
      push Not at none
      exact beyond ⟨short, fun entry there => Bool.eq_false_iff.2 (none entry there)⟩
    obtain ⟨entry, there, long⟩ := below
    obtain ⟨path, unlisted⟩ := FileStore.filesBelow_of_tooLong there long
    rw [FileStore.isDirectory_of_mem_entriesBelow there, unlisted]
    exact ⟨path, rfl⟩
  · rw [answer]
    exact ⟨_, rfl⟩

theorem mapM_expand (a : Analyzer) (files : FileStore) (paths : List String) :
    ((∀ text ∈ paths, files.InReach (.ofString text)) →
      paths.mapM (a.expand files) = .ok (paths.map (a.listing files))) ∧
    ((∃ text ∈ paths, ¬ files.InReach (.ofString text)) →
      ∃ path, paths.mapM (a.expand files) = .error (.nameTooLong path)) := by
  induction paths with
  | nil => exact ⟨fun _ => rfl, fun ⟨_, member, _⟩ => nomatch member⟩
  | cons text rest ih =>
      rw [List.mapM_cons]
      by_cases reach : files.InReach (.ofString text)
      · rw [expand_eq reach]
        constructor
        · intro all
          rw [ih.1 fun text member => all text (List.mem_cons_of_mem _ member)]
          rfl
        · rintro ⟨text', member, beyond⟩
          have later : text' ∈ rest := (List.mem_cons.1 member).resolve_left fun same =>
            beyond (same ▸ reach)
          obtain ⟨path, others⟩ := ih.2 ⟨text', later, beyond⟩
          rw [others]
          exact ⟨path, rfl⟩
      · obtain ⟨path, unlisted⟩ := expand_error reach
        rw [unlisted]
        exact ⟨fun all => absurd (all text List.mem_cons_self) reach, fun _ => ⟨path, rfl⟩⟩

/-- Every file that the paths name is collected once. -/
theorem collectFiles_of_inReach {paths : List String}
    (reach : ∀ text ∈ paths, files.InReach (.ofString text)) :
    a.collectFiles files paths = .ok (paths.map (a.listing files)).flatten.eraseDups := by
  rw [collectFiles_eq, (mapM_expand a files paths).1 reach]
  rfl

/-- Files can be collected unless something that has to be looked up has a name that is too long. -/
theorem collectFiles_cases (a : Analyzer) (files : FileStore) (paths : List String) :
    ((∀ text ∈ paths, files.InReach (.ofString text)) →
      ∃ collected, a.collectFiles files paths = .ok collected) ∧
    ((∃ text ∈ paths, ¬ files.InReach (.ofString text)) →
      ∃ path, a.collectFiles files paths = .error (.nameTooLong path)) := by
  refine ⟨fun reach => ⟨_, collectFiles_of_inReach reach⟩, fun beyond => ?_⟩
  obtain ⟨path, named⟩ := (mapM_expand a files paths).2 beyond
  rw [collectFiles_eq, named]
  exact ⟨path, rfl⟩

end Analyzer

/-! ## Clean files -/

namespace Analyzer

variable {a : Analyzer} {w : Walker} {files : FileStore} {path : Path}

theorem verdict_eq_nil_iff : a.verdict w files path = .ok [] ↔
    a.problem? w files path = none ∧ a.found w files path = [] := by
  cases verdict : a.verdict w files path with
  | error problem =>
      rw [(outcome_of_error verdict).1]
      exact iff_of_false nofun fun both => nomatch both.1
  | ok ds =>
      rw [(outcome_of_ok verdict).1, (outcome_of_ok verdict).2]
      exact ⟨fun equal => ⟨rfl, Except.ok.inj equal⟩, fun both => congrArg Except.ok both.2⟩

/-- A report of files has no violations and no errors if nothing is found in any of the files. -/
theorem flags_gather {r : Report} {ds : List Diagnostic} {collected : List Path}
    (gathered : r = .gather (collected.map (a.problem? w files)) ds)
    (all : ds.Perm (collected.flatMap (a.found w files))) :
    (r.hasViolations || r.hasErrors) = false ↔
      ∀ path ∈ collected, a.verdict w files path = .ok [] := by
  have violations : r.hasViolations = false ↔ ∀ path ∈ collected, a.found w files path = [] := by
    rw [gathered, Report.hasViolations, Bool.not_eq_false', Report.gather, List.isEmpty_iff,
      ← List.flatMap_eq_nil_iff]
    show ds = [] ↔ _
    exact ⟨fun empty => (empty ▸ all).nil_eq.symm, fun empty => (empty ▸ all).eq_nil⟩
  have errors : r.hasErrors = false ↔ ∀ path ∈ collected, a.problem? w files path = none := by
    rw [gathered, Report.hasErrors, Bool.not_eq_false', Report.gather, List.isEmpty_iff,
      List.filterMap_eq_nil_iff, List.forall_mem_map]
    rfl
  rw [Bool.or_eq_false_iff, violations, errors]
  constructor
  · rintro ⟨silent, sound⟩ path member
    exact verdict_eq_nil_iff.2 ⟨sound path member, silent path member⟩
  · intro each
    refine ⟨fun path member => ?_, fun path member => ?_⟩
    · exact (verdict_eq_nil_iff.1 (each path member)).2
    · exact (verdict_eq_nil_iff.1 (each path member)).1

end Analyzer

namespace Circumstances

variable {c : Circumstances} {config : AnalysisConfig}

/-- A file is clean if it can be read, is a Java source, has a tree without an error, and violates
none of the rules. -/
def Clean (c : Circumstances) (rules : Java.Rules) (path : Path) : Prop :=
  ∃ content root, c.files.readText path = .ok content ∧
    (Path.ofString path.toString).suffix = ".java" ∧
    c.grammar content = some root ∧ root.hasError = false ∧
    rules.violations none (Java.Abstraction.convert content.toUTF8 root) = []

/-- Nothing is found in a file if it is clean. -/
theorem verdict_iff_clean {w : Walker}
    (built : Attempt.Answers ((c.analyzer config).buildWalker Java.bundledPlugin) (.ok w))
    (path : Path) :
    (c.analyzer config).verdict w c.files path = .ok [] ↔ c.Clean config.rules path := by
  obtain ⟨check, reported⟩ := JavaPlugin.reported_of_built built
  have settings : (c.analyzer config).config = config := rfl
  have chosen : (c.analyzer config).registry.choose path.toString = _ :=
    Registry.choose_bundled path.toString
  unfold Clean
  cases read : c.files.readText path with
  | error e =>
      rw [Analyzer.verdict_of_unread read]
      exact iff_of_false nofun fun ⟨_, _, text, _⟩ => nomatch text
  | ok content =>
      rw [Analyzer.verdict_of_read read, Analyzer.verdictOf, chosen]
      by_cases java : (Path.ofString path.toString).suffix = ".java"
      · have grammar : (c.analyzer config).grammar = c.grammar := rfl
        rw [if_pos java, grammar]
        cases parsed : Java.parseSource c.grammar path.toString content with
        | error e =>
            refine iff_of_false nofun ?_
            rintro ⟨_, tree, ⟨⟩, -, given, sound, -⟩
            rw [Java.parseSource_eq_ok_iff.2 ⟨tree, given, sound, rfl⟩] at parsed
            cases parsed
        | ok root =>
            obtain ⟨tree, given, sound, rfl⟩ := Java.parseSource_eq_ok_iff.1 parsed
            simp only [reported, settings, SourceTree.ofRoot, Except.ok.injEq, List.map_eq_nil_iff]
            constructor
            · intro lawful
              exact ⟨content, tree, rfl, java, given, sound, lawful⟩
            · rintro ⟨_, _, ⟨⟩, -, given', -, lawful⟩
              obtain rfl := Option.some.inj (given.symm.trans given')
              exact lawful
      · rw [if_neg java]
        exact iff_of_false nofun fun ⟨_, _, _, suffix, _⟩ => java suffix

/-- If nothing is wrong with the configuration, the report has neither violations nor errors exactly
if all files are clean, and what the collector takes in comes from one check and is about nodes of
the trees that the grammar makes. -/
theorem analyzePaths_of_fit (known : ¬ config.MentionsUnknown) (fit : ¬ config.Misfit)
    (empty : c.collector.reported = #[]) {collected : List Path}
    (named : c.collected = .ok collected) :
    ∃ (report : Report) (s : Session) (check : Java.ImpliedStatic),
      Session.Answers (Session.analyzePaths c.files c.paths) ⟨c.analyzer config, c.collector⟩
        (.ok report) s ∧
      ((report.hasViolations || report.hasErrors) = false ↔
        ∀ path ∈ collected, c.Clean config.rules path) ∧
      s.collector.bundle = c.collector.bundle ∧
      ∀ d ∈ s.collector.reported.toList, ∃ filePath content root, ∃ m ∈ root.preorder,
        c.grammar content = some root ∧
          d = check.diagnostic filePath (Java.Abstraction.ofCst content.toUTF8 m) := by
  obtain ⟨w, runs⟩ := c.runs_of_fit known fit
  obtain ⟨check, reported⟩ := JavaPlugin.reported_of_built runs.walker
  rw [← collected_eq config] at named
  obtain ⟨s, analyzed, kept⟩ :=
    runs.analyzePaths_answers (s := ⟨c.analyzer config, c.collector⟩) (.inl rfl) named
  have all : s.collector.reported.toList =
      collected.flatMap ((c.analyzer config).found w c.files) := by
    rw [kept, Collector.reported_reportAll, empty]
    rfl
  refine ⟨_, s, check, analyzed, ?_, by rw [kept]; rfl, fun d there => ?_⟩
  · have shown : s.collector.diagnostics.Perm
        (collected.flatMap ((c.analyzer config).found w c.files)) := by
      rw [← all]
      exact List.mergeSort_perm _ _
    rw [Analyzer.flags_gather rfl shown]
    exact forall₂_congr fun path _ => verdict_iff_clean runs.walker path
  · rw [all] at there
    obtain ⟨path, -, found⟩ := List.mem_flatMap.1 there
    obtain ⟨content, root, parsed, found⟩ := Analyzer.Runs.exists_walk_of_found found
    obtain ⟨tree, given, -, rfl⟩ := Java.parseSource_eq_ok_iff.1 parsed
    rw [reported] at found
    obtain ⟨n, violates, rfl⟩ := List.mem_map.1 found
    have node := (Java.Rules.violations_sublist _ _ _).subset violates
    rw [SourceTree.ofRoot, Java.Abstraction.convert_eq_ofCst, Java.Abstraction.preorder_ofCst] at node
    obtain ⟨m, inside, rfl⟩ := List.mem_map.1 node
    exact ⟨_, content, tree, m, inside, given, rfl⟩

end Circumstances

end ModifierLint
