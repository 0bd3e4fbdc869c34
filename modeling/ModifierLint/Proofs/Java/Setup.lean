/-
# Setting up the checks of Java sources

Neither the tree of a source nor the walker of a configuration depends on the log: the steps of the
plugin answer what `parseSource` and the configuration say (`JavaPlugin.parse_answers`,
`JavaPlugin.buildWalker_answers`).

Every check of the plugin is a check for implied static modifiers, so a walker that was built for
the plugin never fails, and what it reports is in the file that it walks (`JavaPlugin.walk_calm`).
-/
import ModifierLint.Java.Plugin
import ModifierLint.Proofs.Java.Violations
import ModifierLint.Proofs.Log.Answers

namespace ModifierLint.Java.JavaPlugin

open Attempt.Answers

/-- The tree of a source, or why there is none. -/
theorem parse_answers (grammar : Grammar) (filePath content : String) :
    Attempt.Answers (parse grammar filePath content) (parseSource grammar filePath content) := by
  unfold parse
  cases parseSource grammar filePath content with
  | error e => exact throw e
  | ok root => exact bind (say _ _) (pure root)

/-- The check that a configuration asks for, if it runs, or why there is none. -/
def requested (config : CheckConfig) : Except ConfigError (Option ImpliedStatic) :=
  if config.enabled then (ImpliedStatic.ofConfig config).map some else .ok none

/-- A check that neither runs by default nor is mentioned is not made. -/
theorem enabledCheck_answers (config : AnalysisConfig) (isDefault : Bool) :
    Attempt.Answers (enabledCheck config isDefault)
      (if isDefault || config.mentions ImpliedStatic.name
        then requested (config.forCheck ImpliedStatic.name) else .ok none) := by
  unfold enabledCheck requested
  cases considered : isDefault || config.mentions ImpliedStatic.name with
  | false =>
      have skipped : (!isDefault && !config.mentions ImpliedStatic.name) = true := by
        rw [← Bool.not_or, considered, Bool.not_false]
      simp only [skipped, if_true, Bool.false_eq_true, if_false]
      exact pure none
  | true =>
      have kept : (!isDefault && !config.mentions ImpliedStatic.name) = false := by
        rw [← Bool.not_or, considered, Bool.not_true]
      simp only [kept, Bool.false_eq_true, if_false, if_true]
      cases (config.forCheck ImpliedStatic.name).enabled with
      | false => exact bind (say _ _) (pure none)
      | true =>
          simp only [Bool.not_true, Bool.false_eq_true, if_false, if_true]
          cases ImpliedStatic.ofConfig (config.forCheck ImpliedStatic.name) with
          | ok c => exact pure (some c)
          | error e => exact throw e

/-! ## The checks of a plugin -/

/-- The manifest lists the checks that run by default, or leaves them open. -/
def ListsChecks (p : JavaPlugin) : Prop :=
  ∃ names, p.defaultChecks = some names ∧ ∀ name ∈ names, name.isHashable = true

/-- Whether the check runs by default. -/
def runsByDefault (p : JavaPlugin) : Bool :=
  (p.defaultChecks.getD []).any (Value.sameKey · (.str ImpliedStatic.name))

/-- Whether the plugin looks at what a configuration says about the check. -/
def considers (p : JavaPlugin) (config : AnalysisConfig) : Bool :=
  p.runsByDefault || config.mentions ImpliedStatic.name

/-- The check that runs under a configuration, if it does, or why there is none. -/
def checkOf (p : JavaPlugin) (config : AnalysisConfig) :
    Except ConfigError (Option ImpliedStatic) :=
  if p.considers config then requested (config.forCheck ImpliedStatic.name) else .ok none

theorem createChecks_of_listed {p : JavaPlugin} (lists : p.ListsChecks) (config : AnalysisConfig) :
    Attempt.Answers (p.createChecks config)
      (((p.checkOf config).map Option.toList).mapError .config) := by
  obtain ⟨names, listed, hashable⟩ := lists
  have named : (names.any fun v => !v.isHashable) = false := by
    rw [List.any_eq_false]
    intro v member
    simp [hashable v member]
  have enabled := enabledCheck_answers config p.runsByDefault
  change Attempt.Answers _ (p.checkOf config) at enabled
  unfold runsByDefault at enabled
  rw [listed, Option.getD_some] at enabled
  unfold createChecks
  simp only [listed, named, Bool.false_eq_true, if_false]
  cases made : p.checkOf config with
  | error e =>
      rw [made] at enabled
      exact bind_error (adapt enabled)
  | ok check =>
      rw [made] at enabled
      exact bind (adapt enabled) (bind (say _ _) (pure _))

theorem createChecks_of_unlisted {p : JavaPlugin} (unlisted : ¬p.ListsChecks)
    (config : AnalysisConfig) : Attempt.Answers (p.createChecks config) (.error .shape) := by
  unfold createChecks
  cases listed : p.defaultChecks with
  | none => exact throw _
  | some names =>
      have unnamed : (names.any fun v => !v.isHashable) = true := by
        refine Classical.byContradiction fun none_ => unlisted ⟨names, listed, fun v member => ?_⟩
        simpa using List.any_eq_false.1 (eq_false_of_ne_true none_) v member
      simp only [unnamed, if_true]
      exact bind_error (throw _)

/-- The checks of a configuration, or what is wrong with it. -/
theorem createChecks_answers (p : JavaPlugin) (config : AnalysisConfig) :
    ∃ r, Attempt.Answers (p.createChecks config) r := by
  by_cases lists : p.ListsChecks
  · exact ⟨_, createChecks_of_listed lists config⟩
  · exact ⟨_, createChecks_of_unlisted lists config⟩

/-- The walker of checks that could be created and whose tokens fit. -/
theorem buildWalker_of_checks {p : JavaPlugin} {a : Analyzer} {cs : List ImpliedStatic} {w : Walker}
    (created : Attempt.Answers (p.createChecks a.config) (.ok cs))
    (built : Walker.build (cs.map ImpliedStatic.toCheck) = .ok w) :
    Attempt.Answers (a.buildWalker p.toPlugin) (.ok w) := by
  have checks : Attempt.Answers (p.toPlugin.createChecks a.config)
      (.ok (cs.map ImpliedStatic.toCheck)) := bind created (pure _)
  refine bind checks (bind (each _ fun _ => Logged.Answers.say _ _) ?_)
  rw [built]
  exact bind (say _ _) (pure w)

/-- There is no walker if the checks could be created but their tokens do not fit. -/
theorem buildWalker_of_misfit {p : JavaPlugin} {a : Analyzer} {cs : List ImpliedStatic}
    {e : TokenError} (created : Attempt.Answers (p.createChecks a.config) (.ok cs))
    (misfit : Walker.build (cs.map ImpliedStatic.toCheck) = .error e) :
    Attempt.Answers (a.buildWalker p.toPlugin) (.error (.config (.tokens e))) := by
  have checks : Attempt.Answers (p.toPlugin.createChecks a.config)
      (.ok (cs.map ImpliedStatic.toCheck)) := bind created (pure _)
  refine bind checks (bind (each _ fun _ => Logged.Answers.say _ _) ?_)
  rw [misfit]
  exact throw _

/-- The walker of a configuration, or what is wrong with it.  All its checks are of one kind. -/
theorem buildWalker_answers (p : JavaPlugin) (a : Analyzer) :
    ∃ r, Attempt.Answers (a.buildWalker p.toPlugin) r ∧
      ∀ w, r = .ok w → ∀ check ∈ w.checks, ∃ c : ImpliedStatic, check = c.toCheck := by
  obtain ⟨r, created⟩ := p.createChecks_answers a.config
  cases r with
  | error e =>
      refine ⟨.error e, bind_error (bind_error created), ?_⟩
      intro w hw
      cases hw
  | ok cs =>
      cases built : Walker.build (cs.map ImpliedStatic.toCheck) with
      | error e =>
          refine ⟨.error (.config (.tokens e)), buildWalker_of_misfit created built, ?_⟩
          intro w hw
          cases hw
      | ok w =>
          refine ⟨.ok w, buildWalker_of_checks created built, ?_⟩
          intro w' hw check hc
          cases hw
          rw [Walker.build_eq_ok built] at hc
          obtain ⟨c, -, rfl⟩ := List.mem_map.1 hc
          exact ⟨c, rfl⟩

theorem listsChecks_bundled : ListsChecks ⟨bundledManifest⟩ := by
  refine ⟨[.str ImpliedStatic.name], rfl, fun name member => ?_⟩
  obtain rfl := List.mem_singleton.1 member
  simp [Value.isHashable]

/-- The bundled plugin runs its one check if the configuration lets it. -/
theorem createChecks_of_bundled (config : AnalysisConfig) :
    Attempt.Answers (createChecks ⟨bundledManifest⟩ config)
      (((requested (config.forCheck ImpliedStatic.name)).map Option.toList).mapError .config) :=
  createChecks_of_listed listsChecks_bundled config

/-- By default the bundled plugin runs its one check as it is. -/
theorem createChecks_bundled :
    Attempt.Answers (createChecks ⟨bundledManifest⟩ {}) (.ok [{}]) :=
  createChecks_of_bundled {}

/-- A walker of checks for implied static modifiers does not fail, and reports about the file that
it walks. -/
theorem walk_calm {w : Walker} (kind : ∀ check ∈ w.checks, ∃ c : ImpliedStatic, check = c.toCheck)
    (t : SourceTree) :
    (w.walk t).failure = none ∧ ∀ d ∈ (w.walk t).reported.toList, d.filePath = t.filePath := by
  have accepts : ∀ check ∈ w.checks, check.Accepts t := by
    intro check hc
    have fits := w.valid check hc
    obtain ⟨c, rfl⟩ := kind check hc
    exact ImpliedStatic.accepts fits t
  have quiet : ∀ check ∈ w.checks, check.Quiet := by
    intro check hc
    obtain ⟨c, rfl⟩ := kind check hc
    exact c.quiet
  refine ⟨by rw [Walker.walk_of_accepts accepts], ?_⟩
  intro d hd
  rw [Walker.reported_of_accepts quiet accepts] at hd
  obtain ⟨h, -, hd⟩ := List.mem_flatMap.1 hd
  obtain ⟨check, -, hd⟩ := List.mem_flatMap.1 hd
  obtain ⟨f, -, rfl⟩ := List.mem_map.1 hd
  rfl

end ModifierLint.Java.JavaPlugin
