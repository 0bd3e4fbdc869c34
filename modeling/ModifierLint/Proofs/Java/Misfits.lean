/-
# Configurations that the check cannot be set up with

A configuration of the check for implied static modifiers can be wrong in three ways: an option is
unknown, the value of an option is not a truth value, or the tokens are not the two kinds of
declarations that the check handles.  `ImpliedStatic.Misfit` lists them without a word about how
they are noticed.  The check can be set up exactly if none of them is there
(`ImpliedStatic.fault?_iff_misfit`), and then a plugin has a walker for every configuration that
gives the check these settings (`JavaPlugin.buildWalker_of_listed`).
-/
import ModifierLint.Proofs.Java.Setup
import ModifierLint.Proofs.Java.Tokens
import ModifierLint.Proofs.Keyed
import ModifierLint.Proofs.Schema.Acceptance

namespace ModifierLint.Java

open Schema

namespace ImpliedStaticOptions

/-- The name that an option goes by: its public name if that is given, else its field name. -/
def nameIn (options : List (String × Value)) (names : String × String) : String :=
  if names.1 ∈ Keyed.keys options then names.1 else names.2

/-- The names that options go by. -/
def namesIn (options : List (String × Value)) : List String :=
  [nameIn options enumNames, nameIn options interfaceNames]

theorem usedName_texts (options : List (String × Value)) (names : String × String) :
    usedName (options.map fun (k, v) => (Value.str k, v)) names = nameIn options names := by
  have given : (Value.get? (options.map fun (k, v) => (Value.str k, v)) names.1).isSome = true ↔
      names.1 ∈ Keyed.keys options := by
    rw [get?_texts, Option.isSome_iff_exists]
    exact (Keyed.mem_keys_iff fun _ => beq_iff_eq).symm
  unfold usedName nameIn
  by_cases there : names.1 ∈ Keyed.keys options
  · rw [if_pos there, if_pos (given.2 there)]
  · rw [if_neg there, if_neg (fun found => there (given.1 found))]

/-- Options are accepted if each of them is known, and what is given for the two rules are truth
values. -/
theorem passes_read (options : List (String × Value)) :
    (read (.record options)).Passes ↔
      (∀ name ∈ Keyed.keys options, name ∈ namesIn options) ∧
        ∀ name ∈ namesIn options, ∀ v, Keyed.find? (· == name) options = some v →
          ∃ b, v = .bool b := by
  have rule (names : String × String) :
      (option (options.map fun (k, v) => (Value.str k, v)) names).Passes ↔
        ∀ v, Keyed.find? (· == nameIn options names) options = some v → ∃ b, v = .bool b := by
    simp only [option, usedName_texts, passes_optional, get?_texts, Checked.passes_map,
      passes_strictBool]
  have known : (noExtras (namesIn options)
      (options.map fun (k, v) => (Value.str k, v))).Passes ↔
        ∀ name ∈ Keyed.keys options, name ∈ namesIn options := by
    rw [passes_noExtras, List.forall_mem_map, Keyed.keys, List.forall_mem_map]
    simp
  have parts : (read (.record options)).Passes ↔
      ((option (options.map fun (k, v) => (Value.str k, v)) enumNames).Passes ∧
        (option (options.map fun (k, v) => (Value.str k, v)) interfaceNames).Passes) ∧
      (noExtras (namesIn options) (options.map fun (k, v) => (Value.str k, v))).Passes := by
    simp only [read, Value.record, record, Checked.passes_seq, Checked.passes_map, usedName_texts,
      namesIn]
  rw [parts, rule, rule, known, namesIn, List.forall_mem_cons, List.forall_mem_singleton]
  exact And.comm

end ImpliedStaticOptions

namespace ImpliedStatic

open ImpliedStaticOptions

/-- What can be wrong with a configuration of the check. -/
inductive Misfit (config : CheckConfig) : Prop
  /-- An option has a name that no rule goes by. -/
  | unknownOption {name : String} (given : name ∈ Keyed.keys config.options)
      (unknown : name ∉ namesIn config.options)
  /-- The value of an option is not a truth value. -/
  | badValue {name : String} {v : Value} (known : name ∈ namesIn config.options)
      (given : Keyed.find? (· == name) config.options = some v) (bad : ∀ b, v ≠ .bool b)
  /-- The tokens name a kind that the check does not handle. -/
  | unsupported {tokens : List String} {kind : String} (given : config.tokens = some tokens)
      (there : kind ∈ tokens) (foreign : kind ∉ acceptable)
  /-- The tokens leave out a kind that the check handles. -/
  | missing {tokens : List String} {kind : String} (given : config.tokens = some tokens)
      (handled : kind ∈ acceptable) (absent : kind ∉ tokens)

/-- What keeps the check from being set up, if it runs and anything does. -/
def fault? (config : CheckConfig) : Option ConfigError :=
  if config.enabled then
    match ofConfig config with
    | .error e => some e
    | .ok c => c.toCheck.tokenError?.map .tokens
  else none

/-- Options leave the severity and the tokens alone. -/
theorem settings_ofConfig {config : CheckConfig} {c : ImpliedStatic}
    (made : ofConfig config = .ok c) : c.severity = config.severity ∧ c.tokens = config.tokens := by
  unfold ofConfig configure at made
  split at made
  · cases made
    exact ⟨rfl, rfl⟩
  · split at made
    · cases made
      exact ⟨rfl, rfl⟩
    · cases made

/-- The check is configured, whatever it was before, if its options are accepted. -/
theorem configure_eq_ok_iff (c : ImpliedStatic) (options : List (String × Value)) :
    (∃ c', c.configure (options.map fun (k, v) => (.str k, v)) = .ok c') ↔
      (read (.record options)).Passes := by
  unfold configure
  split
  · next empty =>
      have none_given : options = [] := List.map_eq_nil_iff.1 (List.isEmpty_iff.1 empty)
      have accepted : (read (.record [])).Passes := by
        refine (passes_read []).2 ⟨?_, ?_⟩
        · intro name member
          cases member
        · intro name _ v found
          cases found
      rw [none_given]
      exact iff_of_true ⟨_, rfl⟩ accepted
  · split
    · next o valid => exact iff_of_true ⟨_, rfl⟩ ⟨o, valid⟩
    · next issues invalid =>
        refine iff_of_false (fun ⟨_, made⟩ => nomatch made) ?_
        rw [Value.record, invalid]
        exact Checked.not_passes_invalid issues

/-- The check is made if its options are accepted. -/
theorem ofConfig_eq_ok_iff (config : CheckConfig) : (∃ c, ofConfig config = .ok c) ↔
    (read (.record config.options)).Passes :=
  configure_eq_ok_iff _ config.options

/-- Nothing keeps the check from being set up if its options are accepted and its tokens fit. -/
theorem fault?_eq_none_iff {config : CheckConfig} (enabled : config.enabled = true) :
    fault? config = none ↔ (read (.record config.options)).Passes ∧
      ∀ tokens, config.tokens = some tokens →
        (∀ kind ∈ tokens, kind ∈ acceptable) ∧ ∀ kind ∈ acceptable, kind ∈ tokens := by
  rw [fault?, if_pos enabled, ← ofConfig_eq_ok_iff]
  split
  · next e refused =>
      refine iff_of_false (fun equal => nomatch equal) ?_
      rintro ⟨⟨c, made⟩, -⟩
      rw [refused] at made
      cases made
  · next c made =>
      rw [Option.map_eq_none_iff, tokenError?_toCheck, (settings_ofConfig made).2]
      exact ⟨fun fits => ⟨⟨c, made⟩, fits⟩, And.right⟩

/-- The check is kept from being set up exactly by what is wrong with its configuration. -/
theorem fault?_iff_misfit (config : CheckConfig) :
    (∃ e, fault? config = some e) ↔ config.enabled = true ∧ Misfit config := by
  by_cases enabled : config.enabled = true
  · rw [← Option.ne_none_iff_exists', Ne, fault?_eq_none_iff enabled, passes_read]
    constructor
    · intro faulty
      refine ⟨enabled, Classical.byContradiction fun fits => faulty ⟨⟨?_, ?_⟩, ?_⟩⟩
      -- each requirement that fails is one of the four misfits
      · intro name given
        exact Classical.byContradiction fun unknown => fits (.unknownOption given unknown)
      · intro name known v given
        exact Classical.byContradiction fun bad =>
          fits (.badValue known given fun b equal => bad ⟨b, equal⟩)
      · intro tokens given
        refine ⟨fun kind there => ?_, fun kind handled => ?_⟩
        · exact Classical.byContradiction fun foreign => fits (.unsupported given there foreign)
        · exact Classical.byContradiction fun absent => fits (.missing given handled absent)
    · rintro ⟨-, misfit⟩ ⟨⟨known, values⟩, tokens⟩
      cases misfit with
      | unknownOption given unknown => exact unknown (known _ given)
      | badValue asked given bad =>
          obtain ⟨b, equal⟩ := values _ asked _ given
          exact bad b equal
      | unsupported given there foreign => exact foreign ((tokens _ given).1 _ there)
      | missing given handled absent => exact absent ((tokens _ given).2 _ handled)
  · refine iff_of_false ?_ fun both => enabled both.1
    rintro ⟨e, fault⟩
    rw [fault?, if_neg enabled] at fault
    cases fault

end ImpliedStatic

/-! ## The walker of a plugin -/

namespace JavaPlugin

open Attempt.Answers

/-- What keeps the check from being set up by a plugin, if it runs and anything does. -/
def fault? (p : JavaPlugin) (config : AnalysisConfig) : Option ConfigError :=
  if p.considers config then ImpliedStatic.fault? (config.forCheck ImpliedStatic.name) else none

theorem buildWalker_of_unlisted {p : JavaPlugin} (unlisted : ¬p.ListsChecks) (a : Analyzer) :
    Attempt.Answers (a.buildWalker p.toPlugin) (.error .shape) :=
  bind_error (bind_error (createChecks_of_unlisted unlisted a.config))

/-- No check, no complaint. -/
theorem buildWalker_of_idle {p : JavaPlugin} {a : Analyzer} (lists : p.ListsChecks)
    (idle : p.checkOf a.config = .ok none) :
    ∃ w, Attempt.Answers (a.buildWalker p.toPlugin) (.ok w) := by
  have created := createChecks_of_listed lists a.config
  rw [idle] at created
  have fits : ∀ check ∈ ([] : List Check), check.tokenError? = none := by
    intro check member
    cases member
  exact ⟨_, buildWalker_of_checks created (Walker.build_of_fits fits)⟩

/-- The walker of a check is built if the tokens of the check fit. -/
theorem buildWalker_of_made {p : JavaPlugin} {a : Analyzer} {c : ImpliedStatic}
    (lists : p.ListsChecks) (made : p.checkOf a.config = .ok (some c)) :
    match c.toCheck.tokenError? with
    | some e => Attempt.Answers (a.buildWalker p.toPlugin) (.error (.config (.tokens e)))
    | none => ∃ w, Attempt.Answers (a.buildWalker p.toPlugin) (.ok w) := by
  have created := createChecks_of_listed lists a.config
  rw [made] at created
  cases complaint : c.toCheck.tokenError? with
  | some e =>
      have first : [c.toCheck].findSome? Check.tokenError? = some e := by
        rw [List.findSome?_singleton, complaint]
      exact buildWalker_of_misfit created (Walker.build_of_misfit first)
  | none =>
      have fits : ∀ check ∈ [c.toCheck], check.tokenError? = none := by
        intro check member
        obtain rfl := List.mem_singleton.1 member
        exact complaint
      exact ⟨_, buildWalker_of_checks created (Walker.build_of_fits fits)⟩

/-- Whatever is wrong with the check is answered when its walker is to be built, and the walker is
built if nothing is. -/
theorem buildWalker_of_listed {p : JavaPlugin} (lists : p.ListsChecks) (a : Analyzer) :
    match p.fault? a.config with
    | some e => Attempt.Answers (a.buildWalker p.toPlugin) (.error (.config e))
    | none => ∃ w, Attempt.Answers (a.buildWalker p.toPlugin) (.ok w) := by
  unfold fault? ImpliedStatic.fault?
  by_cases considered : p.considers a.config = true
  · rw [if_pos considered]
    have asked : p.checkOf a.config = requested (a.config.forCheck ImpliedStatic.name) :=
      if_pos considered
    unfold requested at asked
    by_cases enabled : (a.config.forCheck ImpliedStatic.name).enabled = true
    · rw [if_pos enabled] at asked
      rw [if_pos enabled]
      cases made : ImpliedStatic.ofConfig (a.config.forCheck ImpliedStatic.name) with
      | error e =>
          rw [made] at asked
          have created := createChecks_of_listed lists a.config
          rw [asked] at created
          exact bind_error (bind_error created)
      | ok c =>
          rw [made] at asked
          have walker := buildWalker_of_made lists asked
          cases complaint : c.toCheck.tokenError? with
          | some e =>
              rw [complaint] at walker
              simp only [complaint, Option.map_some]
              exact walker
          | none =>
              rw [complaint] at walker
              simp only [complaint, Option.map_none]
              exact walker
    · rw [if_neg enabled] at asked
      rw [if_neg enabled]
      exact buildWalker_of_idle lists asked
  · rw [if_neg considered]
    exact buildWalker_of_idle lists (if_neg considered)

theorem buildWalker_bundled (a : Analyzer) :
    match ImpliedStatic.fault? (a.config.forCheck ImpliedStatic.name) with
    | some e => Attempt.Answers (a.buildWalker (toPlugin ⟨bundledManifest⟩)) (.error (.config e))
    | none => ∃ w, Attempt.Answers (a.buildWalker (toPlugin ⟨bundledManifest⟩)) (.ok w) :=
  buildWalker_of_listed listsChecks_bundled a

end JavaPlugin

end ModifierLint.Java
