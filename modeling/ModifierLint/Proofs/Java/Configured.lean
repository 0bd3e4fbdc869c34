/-
# The rules of a configuration

Options may switch each of the two rules off, and a configuration may switch off the check as a
whole.  `AnalysisConfig.rules` says which rules are left.

A plugin that does not run the check by default checks these rules if the configuration mentions the
check (`JavaPlugin.rules`).  The walker that it builds reports the violations of its rules
(`JavaPlugin.reported_of_plugin`), so a source has diagnostics if it violates them.
-/
import ModifierLint.Proofs.Java.Misfits

namespace ModifierLint

namespace Java

open Schema

/-! ## Options -/

namespace ImpliedStaticOptions

/-- A rule is on unless an option of its name switches it off. -/
def isOn (options : List (String × Value)) (names : String × String) : Bool :=
  match Keyed.find? (· == nameIn options names) options with
  | some (.bool on) => on
  | _ => true

variable {options : List (String × Value)} {names : String × String}

/-- An option that is accepted is the truth value that is given for it, if one is. -/
theorem find?_of_option {given : Option Bool}
    (accepted : option (options.map fun (k, v) => (Value.str k, v)) names = .valid given) :
    Keyed.find? (· == nameIn options names) options = given.map .bool := by
  unfold option Schema.optional at accepted
  rw [usedName_texts, get?_texts] at accepted
  split at accepted
  · next v found =>
    obtain ⟨on, truth, rfl⟩ := Checked.map_eq_valid.1 (Checked.at_eq_valid.1 accepted)
    obtain ⟨b, rfl⟩ := passes_strictBool.1 ⟨on, truth⟩
    cases truth
    exact found
  · next absent =>
    cases accepted
    exact absent

/-- An option that is accepted says whether its rule is on, if it is given. -/
theorem getD_of_option {given : Option Bool}
    (accepted : option (options.map fun (k, v) => (Value.str k, v)) names = .valid given) :
    given.getD true = isOn options names := by
  unfold isOn
  rw [find?_of_option accepted]
  cases given with
  | none => rfl
  | some on => rfl

/-- Options that are accepted say for each rule whether it is on. -/
theorem getD_of_read {o : ImpliedStaticOptions} (accepted : read (.record options) = .valid o) :
    o.enforceEnum.getD true = isOn options enumNames ∧
      o.enforceInterface.getD true = isOn options interfaceNames := by
  simp only [read, Value.record, record, Checked.seq_eq_valid, Checked.map_eq_valid] at accepted
  obtain ⟨_, extras, ⟨_, forInterfaces, ⟨forEnums, enum, rfl⟩, interface, rfl⟩, -, rfl⟩ := accepted
  exact ⟨getD_of_option enum, getD_of_option interface⟩

end ImpliedStaticOptions

open ImpliedStaticOptions

/-- The rules of the check are those that its options leave on. -/
theorem ImpliedStatic.rules_ofConfig {config : CheckConfig} {c : ImpliedStatic}
    (made : ofConfig config = .ok c) :
    c.rules = ⟨isOn config.options enumNames, isOn config.options interfaceNames⟩ := by
  unfold ofConfig configure at made
  split at made
  · next empty =>
    have none_given : config.options = [] := List.map_eq_nil_iff.1 (List.isEmpty_iff.1 empty)
    cases made
    rw [none_given]
    rfl
  · split at made
    · next o accepted =>
      cases made
      obtain ⟨enum, interface⟩ := getD_of_read accepted
      exact congrArg₂ Rules.mk enum interface
    · cases made

namespace Rules

mutual

/-- Rules that are both off are not violated anywhere. -/
theorem violations_off (owner : Option String) : ∀ n : Node, violations ⟨false, false⟩ owner n = []
  | .mk kind span text children => by
      have lawful : ¬Violated ⟨false, false⟩ owner (.mk kind span text children) := by
        rintro ⟨-, ⟨-, ⟨⟩⟩ | ⟨-, ⟨⟩⟩, -⟩
      rw [violations_eq, if_neg lawful, Node.children, violationsAmong_off, List.nil_append]

theorem violationsAmong_off (owner : Option String) :
    ∀ ns : List Node, violationsAmong ⟨false, false⟩ owner ns = []
  | [] => rfl
  | n :: ns => by
      rw [violationsAmong, violations_off, violationsAmong_off, List.nil_append]

end

end Rules

end Java

/-! ## Configurations -/

/-- The rules that a configuration leaves on: none of them if the check does not run. -/
def AnalysisConfig.rules (config : AnalysisConfig) : Java.Rules :=
  let given := config.forCheck Java.ImpliedStatic.name
  if given.enabled then
    ⟨Java.ImpliedStaticOptions.isOn given.options Java.ImpliedStaticOptions.enumNames,
      Java.ImpliedStaticOptions.isOn given.options Java.ImpliedStaticOptions.interfaceNames⟩
  else ⟨false, false⟩

/-- The diagnostic of a node that violates the rules, in the severity of the configuration. -/
def AnalysisConfig.diagnostic (config : AnalysisConfig) : String → Node → Diagnostic :=
  let severity := (config.forCheck Java.ImpliedStatic.name).severity
  ({ severity } : Java.ImpliedStatic).diagnostic

namespace Java.JavaPlugin

variable {p : JavaPlugin} {a : Analyzer} {w : Walker}

/-- The rules that are left on for a plugin: none of them if the check neither runs by default nor
is mentioned. -/
def rules (p : JavaPlugin) (config : AnalysisConfig) : Rules :=
  if p.considers config then config.rules else ⟨false, false⟩

/-- A walker that could be built has the check that the configuration asks for, if it runs. -/
theorem build_of_built (built : Attempt.Answers (a.buildWalker p.toPlugin) (.ok w)) :
    ∃ c, p.checkOf a.config = .ok c ∧
      Walker.build (c.toList.map ImpliedStatic.toCheck) = .ok w := by
  by_cases lists : p.ListsChecks
  · have created := createChecks_of_listed lists a.config
    cases asked : p.checkOf a.config with
    | error e =>
        rw [asked] at created
        have refused : Attempt.Answers (a.buildWalker p.toPlugin) (.error (.config e)) :=
          Attempt.Answers.bind_error (Attempt.Answers.bind_error created)
        cases Logged.Answers.unique built refused
    | ok c =>
        rw [asked] at created
        cases fits : Walker.build (c.toList.map ImpliedStatic.toCheck) with
        | error e => cases Logged.Answers.unique built (buildWalker_of_misfit created fits)
        | ok w' =>
            cases Logged.Answers.unique built (buildWalker_of_checks created fits)
            exact ⟨c, rfl, fits⟩
  · cases Logged.Answers.unique built (buildWalker_of_unlisted lists a)

/-- The check that a plugin makes has the rules and the severity of the configuration. -/
theorem rules_of_made {config : AnalysisConfig} {c : ImpliedStatic}
    (made : p.checkOf config = .ok (some c)) :
    c.rules = p.rules config ∧ c.severity = (config.forCheck ImpliedStatic.name).severity := by
  unfold checkOf at made
  unfold rules
  split at made
  · next considered =>
      unfold requested at made
      unfold AnalysisConfig.rules
      split at made
      · next enabled =>
          cases configured : ImpliedStatic.ofConfig (config.forCheck ImpliedStatic.name) with
          | error e =>
              rw [configured] at made
              cases made
          | ok c' =>
              rw [configured] at made
              cases made
              simp only [if_pos considered, if_pos enabled]
              exact ⟨ImpliedStatic.rules_ofConfig configured,
                (ImpliedStatic.settings_ofConfig configured).1⟩
      · cases made
  · cases made

/-- If a plugin makes no check, no rule is left on. -/
theorem rules_of_idle {config : AnalysisConfig} (idle : p.checkOf config = .ok none) :
    p.rules config = ⟨false, false⟩ := by
  unfold checkOf at idle
  unfold rules
  split at idle
  · next considered =>
      unfold requested at idle
      unfold AnalysisConfig.rules
      split at idle
      · cases configured : ImpliedStatic.ofConfig (config.forCheck ImpliedStatic.name) with
        | error e =>
            rw [configured] at idle
            cases idle
        | ok c =>
            rw [configured] at idle
            cases idle
      · next disabled => simp only [if_pos considered, if_neg disabled]
  · next unconsidered => rw [if_neg unconsidered]

/-- The walker of a plugin reports the violations of the rules that are left on, in the severity of
the configuration. -/
theorem reported_of_plugin (built : Attempt.Answers (a.buildWalker p.toPlugin) (.ok w)) :
    ∀ t : SourceTree, (w.walk t).reported.toList =
      ((p.rules a.config).violations none t.root).map (a.config.diagnostic t.filePath) := by
  intro t
  obtain ⟨check, made, built⟩ := build_of_built built
  cases check with
  | some c =>
      obtain ⟨rules, severity⟩ := rules_of_made made
      have same : c.diagnostic = a.config.diagnostic := by
        funext filePath n
        rw [ImpliedStatic.diagnostic, severity]
        rfl
      rw [(ImpliedStatic.walk_eq_violations built t).2, rules, same]
  | none =>
      have checks : w.checks = [] := Walker.build_eq_ok built
      have accepts : ∀ c ∈ w.checks, c.Accepts t := by
        rw [checks]
        exact fun c member => nomatch member
      have quiet : ∀ c ∈ w.checks, c.Quiet := by
        rw [checks]
        exact fun c member => nomatch member
      have silent : ∀ h ∈ t.handles, w.findings t h = [] := by
        intro h _
        rw [Walker.findings, Walker.checksFor, checks]
        rfl
      rw [Walker.reported_of_accepts quiet accepts, List.flatMap_eq_nil_iff.2 silent,
        rules_of_idle made, Rules.violations_off, List.map_nil]

/-- The walker of a configuration reports the violations of its rules. -/
theorem reported_of_built
    (built : Attempt.Answers (a.buildWalker (toPlugin ⟨bundledManifest⟩)) (.ok w)) :
    ∃ c : ImpliedStatic, ∀ t : SourceTree, (w.walk t).reported.toList =
      (a.config.rules.violations none t.root).map (c.diagnostic t.filePath) :=
  ⟨_, reported_of_plugin built⟩

end Java.JavaPlugin

end ModifierLint
