/-
# What a command line chooses

Settings stand in for what a command line does not say, and that is all that they do: whether a
command line can be read does not depend on them, and neither does what it chooses
(`Arguments.parse_eq`).  So a value of a setting is never compared with the choices of its option.

The argument follows the reader.  `Choices` is what has been read so far, without the settings; each
step of the reader turns choices into choices, whatever the settings are.
-/
import Mathlib.Data.List.Basic
import ModifierLint.CommandLine.Arguments

namespace ModifierLint.Arguments

/-- What a command line says by itself. -/
structure Choices where
  paths : Option (List String) := none
  config : Option Path := none
  format : Option String := none
  workers : Option Int := none
  logLevel : Option String := none
  extras : List String := []

namespace Choices

/-- The state of the reader, if settings stand in for what is not said. -/
def reading (c : Choices) (s : Settings) : Reading where
  settings := s
  paths := c.paths
  config := c.config.or s.configFile
  format := c.format.getD s.outputFormat
  workers := c.workers.getD s.maxWorkers
  logLevel := c.logLevel
  extras := c.extras

/-- The arguments, if settings stand in for what is not said. -/
def arguments (c : Choices) (paths : List String) (s : Settings) : Arguments where
  paths
  config := c.config.or s.configFile
  format := c.format.getD s.outputFormat
  workers := c.workers.getD s.maxWorkers
  logLevel := c.logLevel.getD (Text.uppercase s.logLevel)

/-- A format or level that is chosen is one of those that may be chosen. -/
structure Allowed (c : Choices) : Prop where
  format : ∀ f, c.format = some f → f ∈ formats
  logLevel : ∀ l, c.logLevel = some l → l ∈ logLevels

/-- The format and the level of `c` are those of `c'`. -/
def SameStyle (c c' : Choices) : Prop :=
  c'.format = c.format ∧ c'.logLevel = c.logLevel

end Choices

/-- Whether the option decides on the format or the level. -/
def Switch.Styles (s : Switch) : Prop :=
  s = .format ∨ s = .logLevel

/-- No argument is an option that decides on the format or the level. -/
def Unstyled (ks : List (String × Kind)) : Prop :=
  ∀ entry ∈ ks, ∀ s isShort attached, entry.2 = .option s isShort attached → ¬s.Styles

/-- Some argument is the option for the format or that for the level. -/
def Overrides (arguments : List String) : Prop :=
  ∃ ks, kinds arguments = .ok ks ∧ ¬Unstyled ks

/-! ## One option -/

theorem obey_reading {c : Choices} (allowed : c.Allowed) (switch : Switch) (value : String) :
    ∃ x : Except Stop Choices,
      (∀ c', x = .ok c' → c'.Allowed ∧ (¬switch.Styles → c.SameStyle c')) ∧
      ∀ s, obey (c.reading s) switch value = x.map (·.reading s) := by
  cases switch with
  | help => exact ⟨.error .help, nofun, fun _ => rfl⟩
  | version => exact ⟨.error .version, nofun, fun _ => rfl⟩
  | config =>
      refine ⟨.ok { c with config := some (Path.ofString value) }, ?_, fun _ => rfl⟩
      rintro _ ⟨⟩
      exact ⟨⟨allowed.format, allowed.logLevel⟩, fun _ => ⟨rfl, rfl⟩⟩
  | workers =>
      cases number : Text.integer? value with
      | none =>
          refine ⟨.error (.usage (.notInteger .workers value)), nofun, fun s => ?_⟩
          simp only [obey, number]
          rfl
      | some n =>
          refine ⟨.ok { c with workers := some n }, ?_, fun s => ?_⟩
          · rintro _ ⟨⟩
            exact ⟨⟨allowed.format, allowed.logLevel⟩, fun _ => ⟨rfl, rfl⟩⟩
          · simp only [obey, number]
            rfl
  | format =>
      by_cases choice : formats.contains value = true
      · refine ⟨.ok { c with format := some value }, ?_, fun s => ?_⟩
        · rintro _ ⟨⟩
          refine ⟨⟨?_, allowed.logLevel⟩, fun other => absurd (.inl rfl) other⟩
          rintro _ ⟨⟩
          exact List.contains_iff_mem.1 choice
        · rw [obey, if_pos choice]
          rfl
      · refine ⟨.error (.usage (.notAmong .format value formats)), nofun, fun s => ?_⟩
        rw [obey, if_neg choice]
        rfl
  | logLevel =>
      by_cases choice : logLevels.contains (Text.uppercase value) = true
      · refine ⟨.ok { c with logLevel := some (Text.uppercase value) }, ?_, fun s => ?_⟩
        · rintro _ ⟨⟩
          refine ⟨⟨allowed.format, ?_⟩, fun other => absurd (.inr rfl) other⟩
          rintro _ ⟨⟩
          exact List.contains_iff_mem.1 choice
        · simp only [obey, choice, if_true]
          rfl
      · refine ⟨.error (.usage (.notAmong .logLevel (Text.uppercase value) logLevels)), nofun,
          fun s => ?_⟩
        simp only [obey, choice, Bool.false_eq_true, if_false]
        rfl

/-- The options that a group of letters names begin with those that were found before. -/
theorem found_prefix_unfold {s : Switch} {found : List Switch} {isShort : Bool} {value : List Char}
    {switches : List Switch} {last : Option (Switch × Option String)}
    (read : unfold s found isShort value = .ok (switches, last)) : found <+: switches := by
  fun_induction unfold s found isShort value with
  | case1 s found isShort value takes =>
      cases read
      exact List.prefix_refl _
  | case2 => cases read
  | case3 s found _ c rest next named more ih =>
      exact (List.prefix_append found [s]).trans (ih read)
  | case4 s found _ c rest next named more takes =>
      cases read
      exact List.prefix_append found [s]
  | case5 s found _ c rest next named more takes =>
      cases read
      exact List.prefix_append found [s, next]
  | case6 => cases read

/-- An option without a value is the first of the group that it begins. -/
theorem unfold_of_flag {s : Switch} (flag : s.takesValue = false) {isShort : Bool}
    {value : List Char} {switches : List Switch} {last : Option (Switch × Option String)}
    (read : unfold s [] isShort value = .ok (switches, last)) : [s] <+: switches := by
  unfold unfold at read
  rw [if_neg (by rw [flag]; exact Bool.false_ne_true)] at read
  split at read
  · split at read
    · cases read
    · split at read
      · exact found_prefix_unfold read
      · split at read
        · cases read
          exact List.prefix_refl _
        · cases read
          exact List.prefix_append [s] _
  · cases read

/-- Asking for help or the version ends the reading. -/
theorem obeyAll_of_flag {s : Switch} (flag : s.takesValue = false) {switches : List Switch}
    (first : [s] <+: switches) : ∃ stop, ∀ r, obeyAll r switches = .error stop := by
  obtain ⟨rest, rfl⟩ := first
  cases s with
  | help => exact ⟨.help, fun _ => rfl⟩
  | version => exact ⟨.version, fun _ => rfl⟩
  | config | format | workers | logLevel => cases flag

theorem readOption_of_flag {s : Switch} (flag : s.takesValue = false) (isShort : Bool)
    (attached : Option (List Char)) (rest : List (String × Kind)) :
    ∃ stop, ∀ r, readOption r s isShort attached rest = .error stop := by
  cases attached with
  | none =>
      obtain ⟨stop, ends⟩ := obeyAll_of_flag flag (List.prefix_refl [s])
      refine ⟨stop, fun r => ?_⟩
      simp only [readOption, flag, Bool.false_eq_true, if_false, Except.mapError, bind, Except.bind,
        ends]
  | some value =>
      cases read : unfold s [] isShort value with
      | error e =>
          refine ⟨.usage e, fun r => ?_⟩
          simp only [readOption, read, Except.mapError, bind, Except.bind]
      | ok named =>
          obtain ⟨switches, last⟩ := named
          obtain ⟨stop, ends⟩ := obeyAll_of_flag flag (unfold_of_flag flag read)
          match last, rest with
          | none, _ | some (_, some _), _ | some (_, none), (_, .plain) :: _ =>
              refine ⟨stop, fun r => ?_⟩
              simp only [readOption, read, Except.mapError, bind, Except.bind, ends]
          | some (last, none), [] | some (last, none), (_, .mark) :: _
          | some (last, none), (_, .option ..) :: _ | some (last, none), (_, .unknown) :: _ =>
              refine ⟨.usage (.valueMissing last), fun r => ?_⟩
              simp only [readOption, read, Except.mapError, bind, Except.bind]

/-- An option with a value is obeyed with the value that is attached to it, or that follows. -/
theorem readOption_of_value {s : Switch} (takes : s.takesValue = true) (r : Reading)
    (isShort : Bool) (attached : Option (List Char)) (rest : List (String × Kind)) :
    readOption r s isShort attached rest =
      match attached, rest with
      | some value, rest => (obey r s (String.ofList value)).map fun r => (r, rest)
      | none, (value, .plain) :: rest => (obey r s value).map fun r => (r, rest)
      | none, _ => .error (.usage (.valueMissing s)) := by
  cases attached with
  | none =>
      match rest with
      | [] | (_, .mark) :: _ | (_, .option ..) :: _ | (_, .unknown) :: _ =>
          simp only [readOption, takes, if_true, Except.mapError, bind, Except.bind]
      | (value, .plain) :: rest =>
          simp only [readOption, takes, if_true, Except.mapError, bind, Except.bind, obeyAll]
          cases obey r s value <;> rfl
  | some value =>
      have named : unfold s [] isShort value =
          .ok ([], some (s, some (String.ofList value))) := by
        unfold unfold
        rw [if_pos takes]
      simp only [readOption, named, Except.mapError, bind, Except.bind, obeyAll]
      cases obey r s (String.ofList value) <;> rfl

/-- Obeying an option does not touch the arguments that are left behind it. -/
theorem obey_reading_behind {c : Choices} (allowed : c.Allowed) (switch : Switch) (value : String)
    {behind rest : List (String × Kind)} (within : behind ⊆ rest) :
    ∃ x : Except Stop (Choices × List (String × Kind)),
      (∀ c' rest', x = .ok (c', rest') →
        c'.Allowed ∧ rest' ⊆ rest ∧ (¬switch.Styles → c.SameStyle c')) ∧
      ∀ s, (obey (c.reading s) switch value).map (fun r => (r, behind)) =
        x.map fun (c', rest') => (c'.reading s, rest') := by
  obtain ⟨x, kept, each⟩ := obey_reading allowed switch value
  refine ⟨x.map fun c' => (c', behind), ?_, fun s => ?_⟩
  · intro c' rest' equal
    cases x with
    | error stop => cases equal
    | ok c'' =>
        cases equal
        exact ⟨(kept _ rfl).1, within, (kept _ rfl).2⟩
  · rw [each s]
    cases x <;> rfl

/-- Reading one option turns choices into choices, and leaves arguments behind it. -/
theorem readOption_reading {c : Choices} (allowed : c.Allowed) (switch : Switch) (isShort : Bool)
    (attached : Option (List Char)) (rest : List (String × Kind)) :
    ∃ x : Except Stop (Choices × List (String × Kind)),
      (∀ c' rest', x = .ok (c', rest') →
        c'.Allowed ∧ rest' ⊆ rest ∧ (¬switch.Styles → c.SameStyle c')) ∧
      ∀ s, readOption (c.reading s) switch isShort attached rest =
        x.map fun (c', rest') => (c'.reading s, rest') := by
  cases takes : switch.takesValue with
  | true =>
      simp only [readOption_of_value takes]
      match attached, rest with
      | some value, rest => exact obey_reading_behind allowed switch _ (List.Subset.refl rest)
      | none, (value, .plain) :: rest =>
          exact obey_reading_behind allowed switch value (List.subset_cons_self _ rest)
      | none, [] | none, (_, .mark) :: _ | none, (_, .option ..) :: _ | none, (_, .unknown) :: _ =>
          exact ⟨.error (.usage (.valueMissing switch)), nofun, fun _ => rfl⟩
  | false =>
      obtain ⟨stop, ends⟩ := readOption_of_flag takes isShort attached rest
      exact ⟨.error stop, nofun, fun s => ends _⟩

/-! ## The whole command line -/

theorem readPaths_reading {c : Choices} (allowed : c.Allowed) (run : List (String × Kind)) :
    ∃ c' : Choices, c'.Allowed ∧ c.SameStyle c' ∧
      ∀ s, readPaths (c.reading s) run = c'.reading s := by
  obtain ⟨paths, config, format, workers, logLevel, extras⟩ := c
  cases paths with
  | some paths =>
      exact ⟨⟨some paths, config, format, workers, logLevel, extras ++ run.map Prod.fst⟩,
        ⟨allowed.format, allowed.logLevel⟩, ⟨rfl, rfl⟩, fun _ => rfl⟩
  | none =>
      by_cases taken : run.any (·.2 = .plain) = true
      · refine ⟨⟨some ((run.map Prod.fst).erase "--"), config, format, workers, logLevel, extras⟩,
          ⟨allowed.format, allowed.logLevel⟩, ⟨rfl, rfl⟩, fun s => ?_⟩
        simp only [readPaths, Choices.reading, taken, if_true]
      · refine ⟨⟨none, config, format, workers, logLevel, extras ++ run.map Prod.fst⟩,
          ⟨allowed.format, allowed.logLevel⟩, ⟨rfl, rfl⟩, fun s => ?_⟩
        simp only [readPaths, Choices.reading, taken, Bool.false_eq_true, if_false]

theorem readAll_of_isValue {kind : Kind} (value : kind.isValue = true) (r : Reading) (fuel : Nat)
    (argument : String) (rest : List (String × Kind)) :
    readAll r (fuel + 1) ((argument, kind) :: rest) =
      readAll (readPaths r ((argument, kind) :: rest.takeWhile (·.2.isValue))) fuel
        (rest.dropWhile (·.2.isValue)) := by
  cases kind with
  | plain | mark => simp only [readAll]
  | option | unknown => cases value

/-- What is chosen does not depend on the settings, and neither does whether the reading stops. -/
theorem readAll_reading : ∀ (fuel : Nat) (ks : List (String × Kind)) {c : Choices}, c.Allowed →
    ∃ x : Except Stop Choices,
      (∀ c', x = .ok c' → c'.Allowed ∧ (Unstyled ks → c.SameStyle c')) ∧
      ∀ s, readAll (c.reading s) fuel ks = x.map (·.reading s)
  | fuel, [], c, allowed => by
      refine ⟨.ok c, ?_, fun s => by rw [readAll]; rfl⟩
      rintro _ ⟨⟩
      exact ⟨allowed, fun _ => ⟨rfl, rfl⟩⟩
  | 0, entry :: ks, c, allowed => by
      refine ⟨.ok c, ?_, fun s => by rw [readAll]; rfl; exact nofun⟩
      rintro _ ⟨⟩
      exact ⟨allowed, fun _ => ⟨rfl, rfl⟩⟩
  | fuel + 1, (argument, kind) :: rest, c, allowed => by
      by_cases value : kind.isValue = true
      · obtain ⟨c', allowed', same, reads⟩ := readPaths_reading allowed
          ((argument, kind) :: rest.takeWhile (·.2.isValue))
        obtain ⟨x, kept, each⟩ := readAll_reading fuel (rest.dropWhile (·.2.isValue)) allowed'
        refine ⟨x, fun c'' equal => ⟨(kept c'' equal).1, fun unstyled => ?_⟩, fun s => ?_⟩
        · have later := (kept c'' equal).2 fun entry member => unstyled entry
            (List.mem_cons_of_mem _ ((List.dropWhile_sublist _).subset member))
          exact ⟨later.1.trans same.1, later.2.trans same.2⟩
        · rw [readAll_of_isValue value, reads s]
          exact each s
      · cases kind with
        | plain | mark => exact absurd rfl value
        | unknown =>
            obtain ⟨x, kept, each⟩ := readAll_reading fuel rest
              (c := { c with extras := c.extras ++ [argument] }) ⟨allowed.format, allowed.logLevel⟩
            refine ⟨x, fun c' equal => ⟨(kept c' equal).1, fun unstyled => ?_⟩, fun s => ?_⟩
            · exact (kept c' equal).2 fun entry member =>
                unstyled entry (List.mem_cons_of_mem _ member)
            · rw [readAll]
              exact each s
        | option switch isShort attached =>
            obtain ⟨first, one, reads⟩ := readOption_reading allowed switch isShort attached rest
            cases first with
            | error stop =>
                refine ⟨.error stop, nofun, fun s => ?_⟩
                simp only [readAll, reads s]
                rfl
            | ok read =>
                obtain ⟨c', rest'⟩ := read
                obtain ⟨allowed', within, same⟩ := one c' rest' rfl
                obtain ⟨x, kept, each⟩ := readAll_reading fuel rest' allowed'
                refine ⟨x, fun c'' equal => ⟨(kept c'' equal).1, fun unstyled => ?_⟩, fun s => ?_⟩
                · have here := same (unstyled _ List.mem_cons_self switch isShort attached rfl)
                  have later := (kept c'' equal).2 fun entry member =>
                    unstyled entry (List.mem_cons_of_mem _ (within member))
                  exact ⟨later.1.trans here.1, later.2.trans here.2⟩
                · simp only [readAll, reads s]
                  exact each s

/-- The end of the reading: paths must have been named, and nothing may be left over. -/
def Reading.finish (settings : Settings) (r : Reading) : Except Stop Arguments :=
  match r.paths, r.extras with
  | none, _ => .error (.usage .pathsMissing)
  | some _, _ :: _ => .error (.usage (.unrecognized r.extras))
  | some paths, [] => .ok {
      paths
      config := r.config
      format := r.format
      workers := r.workers
      logLevel := r.logLevel.getD (Text.uppercase settings.logLevel) }

/-- A command line is read from no choices at all. -/
theorem parse_of_kinds {arguments : List String} {ks : List (String × Kind)}
    (sorted : kinds arguments = .ok ks) (settings : Settings) :
    parse settings arguments =
      (readAll (Choices.reading {} settings) ks.length ks).bind (Reading.finish settings) := by
  rw [parse, sorted]
  rfl

/-- Settings stand in for what a command line does not choose, and for nothing else: whether it can
be read, and what it chooses, is the same for all settings. -/
theorem parse_eq (arguments : List String) :
    (∃ stop, ∀ settings, parse settings arguments = .error stop) ∨
      ∃ (c : Choices) (paths : List String), c.Allowed ∧
        (¬Overrides arguments → c.format = none ∧ c.logLevel = none) ∧
        ∀ settings, parse settings arguments = .ok (c.arguments paths settings) := by
  cases sorted : kinds arguments with
  | error e =>
      refine .inl ⟨.usage e, fun settings => ?_⟩
      simp only [parse, sorted]
      rfl
  | ok ks =>
      obtain ⟨x, kept, each⟩ := readAll_reading ks.length ks (c := {}) ⟨nofun, nofun⟩
      have whole (settings : Settings) : parse settings arguments =
          (x.map (·.reading settings)).bind (Reading.finish settings) := by
        rw [parse_of_kinds sorted, each]
      cases x with
      | error stop => exact .inl ⟨stop, whole⟩
      | ok c =>
          obtain ⟨allowed, same⟩ := kept c rfl
          obtain ⟨paths, config, format, workers, logLevel, extras⟩ := c
          cases paths with
          | none => exact .inl ⟨.usage .pathsMissing, whole⟩
          | some paths =>
              cases extras with
              | cons extra more => exact .inl ⟨.usage (.unrecognized (extra :: more)), whole⟩
              | nil =>
                  refine .inr ⟨_, paths, allowed, fun plain => ?_, whole⟩
                  exact same (Classical.byContradiction fun styled => plain ⟨ks, sorted, styled⟩)

end ModifierLint.Arguments
