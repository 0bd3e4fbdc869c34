/-
# Giving options to the check

Options are validated before any of them is applied.  Then each field that was given is handed to
the method that is named after it, one after the other, and the order of the fields is not fixed.
`ImpliedStatic.configureInPlace` says so step by step, on a check that keeps what was changed before
a failure.

Every field that is validated has a method, so nothing fails once the first flag has changed, and
different methods change different flags, so the order does not show: step by step, configuring
comes to what `ImpliedStatic.configure` answers (`ImpliedStatic.configureInPlace_eq`).
-/
import Mathlib.Data.List.Perm.Basic
import ModifierLint.Proofs.Java.Configured

namespace ModifierLint.Java.ImpliedStatic

open Schema ImpliedStaticOptions

/-! ## Flags -/

/-- The two flags of the check. -/
inductive Flag
  | nestedEnum
  | nestedInterface
  deriving Repr, DecidableEq

namespace Flag

/-- The public name of a flag and the name of its field. -/
def names : Flag → String × String
  | nestedEnum => enumNames
  | nestedInterface => interfaceNames

/-- Whether options name the flag so. -/
def Named (flag : Flag) (name : String) : Prop :=
  name = flag.names.1 ∨ name = flag.names.2

instance (flag : Flag) (name : String) : Decidable (flag.Named name) :=
  inferInstanceAs (Decidable (_ ∨ _))

/-- The value of the flag. -/
def value (flag : Flag) (c : ImpliedStatic) : Bool :=
  match flag with
  | nestedEnum => c.enforceEnum
  | nestedInterface => c.enforceInterface

/-- Gives the flag a value. -/
def set (flag : Flag) (on : Bool) (c : ImpliedStatic) : ImpliedStatic :=
  match flag with
  | nestedEnum => { c with enforceEnum := on }
  | nestedInterface => { c with enforceInterface := on }

/-- What options give the flag, if they do. -/
def given (flag : Flag) (o : ImpliedStaticOptions) : Option Bool :=
  match flag with
  | nestedEnum => o.enforceEnum
  | nestedInterface => o.enforceInterface

theorem set_comm {flag other : Flag} (differ : flag ≠ other) (on on' : Bool) (c : ImpliedStatic) :
    flag.set on (other.set on' c) = other.set on' (flag.set on c) := by
  cases flag with
  | nestedEnum =>
      cases other with
      | nestedEnum => exact absurd rfl differ
      | nestedInterface => rfl
  | nestedInterface =>
      cases other with
      | nestedEnum => rfl
      | nestedInterface => exact absurd rfl differ

theorem names_ne (flag : Flag) : flag.names.1 ≠ flag.names.2 := by
  cases flag with
  | nestedEnum => decide
  | nestedInterface => decide

/-- A name belongs to one flag. -/
theorem Named.unique {flag other : Flag} {name : String} (named : flag.Named name)
    (named' : other.Named name) : flag = other := by
  cases flag with
  | nestedEnum =>
      cases other with
      | nestedEnum => rfl
      | nestedInterface =>
          rcases named with rfl | rfl
          · exact absurd named' (by decide)
          · exact absurd named' (by decide)
  | nestedInterface =>
      cases other with
      | nestedEnum =>
          rcases named with rfl | rfl
          · exact absurd named' (by decide)
          · exact absurd named' (by decide)
      | nestedInterface => rfl

end Flag

/-! ## Validated options -/

variable {options : List (String × Value)} {o : ImpliedStaticOptions}

theorem nameIn_named (options : List (String × Value)) (flag : Flag) :
    flag.Named (nameIn options flag.names) := by
  unfold nameIn
  split
  · exact .inl rfl
  · exact .inr rfl

theorem mem_namesIn {name : String} :
    name ∈ namesIn options ↔ ∃ flag : Flag, name = nameIn options flag.names := by
  rw [namesIn, List.mem_cons, List.mem_singleton]
  constructor
  · rintro (enum | interface)
    · exact ⟨.nestedEnum, enum⟩
    · exact ⟨.nestedInterface, interface⟩
  · rintro ⟨flag, equal⟩
    cases flag with
    | nestedEnum => exact .inl equal
    | nestedInterface => exact .inr equal

/-- A flag that options name is given what stands under the name. -/
theorem find?_of_read (accepted : ImpliedStaticOptions.read (.record options) = .valid o)
    (flag : Flag) :
    Keyed.find? (· == nameIn options flag.names) options = (flag.given o).map .bool := by
  simp only [ImpliedStaticOptions.read, Value.record, record, Checked.seq_eq_valid,
    Checked.map_eq_valid] at accepted
  obtain ⟨_, extras, ⟨_, forInterfaces, ⟨forEnums, enum, rfl⟩, interface, rfl⟩, -, rfl⟩ := accepted
  cases flag with
  | nestedEnum => exact find?_of_option enum
  | nestedInterface => exact find?_of_option interface

/-- Options are accepted if all keys name flags, no flag is named in both ways, and all values are
truth values. -/
theorem passes_read_iff (mapping : (Keyed.keys options).Nodup) :
    (ImpliedStaticOptions.read (.record options)).Passes ↔
      (∀ entry ∈ options, (∃ flag : Flag, flag.Named entry.1) ∧ ∃ b, entry.2 = .bool b) ∧
        ∀ flag : Flag,
          ¬(flag.names.1 ∈ Keyed.keys options ∧ flag.names.2 ∈ Keyed.keys options) := by
  rw [passes_read]
  constructor
  · rintro ⟨known, values⟩
    refine ⟨fun entry member => ?_, fun flag twice => ?_⟩
    · have used := known entry.1 (Keyed.mem_keys_of_mem member)
      obtain ⟨flag, equal⟩ := mem_namesIn.1 used
      refine ⟨⟨flag, equal ▸ nameIn_named options flag⟩, ?_⟩
      exact values _ used _ (Keyed.find?_of_mem (fun _ => beq_iff_eq) mapping member)
    · -- the public name is the one that is used, so the name of the field is left over
      obtain ⟨other, equal⟩ := mem_namesIn.1 (known _ twice.2)
      have same : other = flag :=
        Flag.Named.unique (nameIn_named options other) (.inr equal.symm)
      rw [same, nameIn, if_pos twice.1] at equal
      exact flag.names_ne equal.symm
  · rintro ⟨each, once⟩
    refine ⟨fun name member => ?_, fun name _ v found => ?_⟩
    · obtain ⟨entry, there, rfl⟩ := List.mem_map.1 member
      obtain ⟨⟨flag, named⟩, -⟩ := each entry there
      refine mem_namesIn.2 ⟨flag, ?_⟩
      unfold nameIn
      rcases named with public_ | field
      · rw [if_pos (public_ ▸ member), public_]
      · rw [if_neg fun also => once flag ⟨also, field ▸ member⟩, field]
    · exact (each _ (Keyed.mem_of_find?_eq_some (fun _ => beq_iff_eq) found)).2

/-- A flag that is named in one way is given the value that stands there. -/
theorem given_of_mem (mapping : (Keyed.keys options).Nodup)
    (accepted : ImpliedStaticOptions.read (.record options) = .valid o) {flag : Flag}
    {name : String} {b : Bool} (named : flag.Named name) (member : (name, .bool b) ∈ options) :
    flag.given o = some b := by
  obtain ⟨other, equal⟩ :=
    mem_namesIn.1 (((passes_read options).1 ⟨o, accepted⟩).1 _ (Keyed.mem_keys_of_mem member))
  have same : other = flag := Flag.Named.unique (nameIn_named options other) (equal ▸ named)
  have found := find?_of_read accepted flag
  rw [← same, ← equal, Keyed.find?_of_mem (fun _ => beq_iff_eq) mapping member, same] at found
  cases value : flag.given o with
  | none =>
      rw [value] at found
      cases found
  | some on =>
      rw [value] at found
      cases found
      rfl

/-- A flag that is not named is given nothing. -/
theorem given_of_absent (accepted : ImpliedStaticOptions.read (.record options) = .valid o)
    {flag : Flag} (absent : ∀ name, flag.Named name → name ∉ Keyed.keys options) :
    flag.given o = none := by
  cases value : flag.given o with
  | none => rfl
  | some on =>
      have found := find?_of_read accepted flag
      rw [value] at found
      have member := Keyed.mem_of_find?_eq_some (fun _ => beq_iff_eq) found
      exact absurd (Keyed.mem_keys_of_mem member) (absent _ (nameIn_named options flag))

theorem value_apply (c : ImpliedStatic) (o : ImpliedStaticOptions) (flag : Flag) :
    flag.value (c.apply o) = (flag.given o).getD (flag.value c) := by
  cases flag with
  | nestedEnum => rfl
  | nestedInterface => rfl

/-! ## Step by step -/

/-- Why configuring ends early. -/
inductive Interruption
  | config (e : ConfigError)
  /-- There is no method of the name. -/
  | noMethod (name : String)
  deriving Repr, DecidableEq

/-- Steps on a check.  What was changed before a failure stays changed. -/
abbrev Changing := ExceptT Interruption (StateM ImpliedStatic)

/-- The methods that set the flags, by name. -/
def methods : List (String × (Bool → ImpliedStatic → ImpliedStatic)) :=
  [("set_enforce_static_on_nested_enum", Flag.nestedEnum.set),
    ("set_enforce_static_on_nested_interface", Flag.nestedInterface.set)]

/-- The flags that validated options give, with their values. -/
def fieldsSet (o : ImpliedStaticOptions) : List (Flag × Bool) :=
  [Flag.nestedEnum, .nestedInterface].filterMap fun flag => (flag.given o).map fun on => (flag, on)

/-- Hands each value to the method that is named after the field. -/
def setAll : List (Flag × Bool) → Changing Unit
  | [] => pure ()
  | (flag, on) :: rest => do
    match methods.lookup ("set_" ++ flag.names.2) with
    | none => throw (.noMethod ("set_" ++ flag.names.2))
    | some method =>
      modify (method on)
      setAll rest

/-- Applies options to the check, where `arrange` puts the fields that were given in order. -/
def configureInPlace (arrange : List (Flag × Bool) → List (Flag × Bool))
    (options : List (String × Value)) : Changing Unit := do
  if options.isEmpty then return
  match ImpliedStaticOptions.read (.record options) with
  | .invalid issues => throw (.config (.invalidOptions name issues))
  | .valid o => setAll (arrange (fieldsSet o))

/-- Every field has its method, so setting fields never stops in the middle. -/
theorem setAll_run (fields : List (Flag × Bool)) : ∀ c : ImpliedStatic,
    (setAll fields).run.run c =
      (.ok (), fields.foldl (fun c field => field.1.set field.2 c) c) := by
  induction fields with
  | nil => exact fun _ => rfl
  | cons field rest ih =>
      obtain ⟨flag, on⟩ := field
      have method : methods.lookup ("set_" ++ flag.names.2) = some flag.set := by
        cases flag with
        | nestedEnum => rfl
        | nestedInterface => rfl
      intro c
      rw [setAll, method]
      exact ih (flag.set on c)

theorem mem_fieldsSet {flag : Flag} {on : Bool} (member : (flag, on) ∈ fieldsSet o) :
    flag.given o = some on := by
  obtain ⟨other, -, equal⟩ := List.mem_filterMap.1 member
  obtain ⟨_, given, ⟨⟩⟩ := Option.map_eq_some_iff.1 equal
  exact given

/-- Setting the given fields in any order applies the options. -/
theorem foldl_set_of_perm {fields : List (Flag × Bool)} (order : fields.Perm (fieldsSet o))
    (c : ImpliedStatic) : fields.foldl (fun c field => field.1.set field.2 c) c = c.apply o := by
  have ordered : (fieldsSet o).foldl (fun c field => field.1.set field.2 c) c = c.apply o := by
    obtain ⟨enum, interface⟩ := o
    cases enum with
    | none => cases interface <;> rfl
    | some on => cases interface <;> rfl
  rw [← ordered]
  refine order.foldl_eq' (fun first there second there' c => ?_) c
  by_cases same : first.1 = second.1
  · -- a flag is given one value, so these are the same field
    have one := mem_fieldsSet (order.subset there)
    have other := mem_fieldsSet (order.subset there')
    rw [same] at one
    rw [Prod.ext same (Option.some.inj (one.symm.trans other))]
  · exact (Flag.set_comm same _ _ c).symm

/-- Step by step and in any order, configuring comes to what `configure` answers; if it fails,
nothing has been changed. -/
theorem configureInPlace_eq {arrange : List (Flag × Bool) → List (Flag × Bool)}
    (order : ∀ fields, (arrange fields).Perm fields) (c : ImpliedStatic) :
    (configureInPlace arrange options).run.run c =
      match c.configure (options.map fun (k, v) => (.str k, v)) with
      | .ok c' => (.ok (), c')
      | .error e => (.error (.config e), c) := by
  unfold configureInPlace configure
  cases options with
  | nil => rfl
  | cons entry rest =>
      have whole : Value.record (entry :: rest) =
          .map ((entry :: rest).map fun (k, v) => (.str k, v)) := rfl
      simp only [List.isEmpty_cons, List.map_cons, Bool.false_eq_true, if_false]
      rw [whole, List.map_cons]
      cases ImpliedStaticOptions.read
        (.map ((.str entry.1, entry.2) :: rest.map fun (k, v) => (.str k, v))) with
      | invalid issues => rfl
      | valid o =>
          have applied := foldl_set_of_perm (order (fieldsSet o)) c
          have run := setAll_run (arrange (fieldsSet o)) c
          rw [applied] at run
          exact run

/-! ## What configuring does -/

/-- A way to put fields in order loses none and adds none. -/
def Orders (arrange : List (Flag × Bool) → List (Flag × Bool)) : Prop :=
  ∀ fields, (arrange fields).Perm fields

/-- What becomes of the check `c` when options are applied: flags that are named hold what is given,
and all else is as it was. -/
structure Applied (c : ImpliedStatic) (options : List (String × Value)) (c' : ImpliedStatic) :
    Prop where
  named : ∀ entry ∈ options, ∃ flag : Flag, flag.Named entry.1
  truth : ∀ entry ∈ options, ∃ b, entry.2 = .bool b
  given : ∀ (flag : Flag) (name : String) (b : Bool), flag.Named name →
    (name, .bool b) ∈ options → flag.value c' = b
  kept : ∀ flag : Flag, (∀ name, flag.Named name → name ∉ Keyed.keys options) →
    flag.value c' = flag.value c
  severity : c'.severity = c.severity
  tokens : c'.tokens = c.tokens

theorem exists_of_configure {c c' : ImpliedStatic}
    (made : c.configure (options.map fun (k, v) => (.str k, v)) = .ok c') :
    ∃ o, ImpliedStaticOptions.read (.record options) = .valid o ∧ c' = c.apply o := by
  unfold configure at made
  cases options with
  | nil =>
      cases made
      exact ⟨⟨none, none⟩, rfl, rfl⟩
  | cons entry rest =>
      simp only [List.map_cons, List.isEmpty_cons, Bool.false_eq_true, if_false] at made
      split at made
      · next o accepted =>
          cases made
          exact ⟨o, accepted, rfl⟩
      · cases made

theorem applied_of_configure (mapping : (Keyed.keys options).Nodup) {c c' : ImpliedStatic}
    (made : c.configure (options.map fun (k, v) => (.str k, v)) = .ok c') :
    Applied c options c' := by
  obtain ⟨o, accepted, rfl⟩ := exists_of_configure made
  obtain ⟨each, -⟩ := (passes_read_iff mapping).1 ⟨o, accepted⟩
  refine ⟨fun entry there => (each entry there).1, fun entry there => (each entry there).2, ?_, ?_,
    rfl, rfl⟩
  · intro flag name b named member
    rw [value_apply, given_of_mem mapping accepted named member, Option.getD_some]
  · intro flag absent
    rw [value_apply, given_of_absent accepted absent, Option.getD_none]

/-- **Configuring is all or nothing.**  Whatever the check was before, options in a mapping are
either refused with an error of the configuration, and then the check is as it was, or applied.
The order of the fields makes no difference.  They are applied exactly if every key names a flag, no
flag is named in both ways, and every value is a truth value. -/
theorem configure_all_or_nothing (c : ImpliedStatic) (options : List (String × Value))
    (mapping : (Keyed.keys options).Nodup) :
    let result := c.configure (options.map fun (k, v) => (.str k, v))
    ((∃ e, result = .error e ∧ ∀ arrange, Orders arrange →
        (configureInPlace arrange options).run.run c = (.error (.config e), c)) ∨
      ∃ c', result = .ok c' ∧ Applied c options c' ∧ ∀ arrange, Orders arrange →
        (configureInPlace arrange options).run.run c = (.ok (), c')) ∧
    ((∃ c', result = .ok c') ↔
      (∀ entry ∈ options, (∃ flag : Flag, flag.Named entry.1) ∧ ∃ b, entry.2 = .bool b) ∧
        ∀ flag : Flag,
          ¬(flag.names.1 ∈ Keyed.keys options ∧ flag.names.2 ∈ Keyed.keys options)) := by
  intro result
  refine ⟨?_, (configure_eq_ok_iff c options).trans (passes_read_iff mapping)⟩
  cases comes : c.configure (options.map fun (k, v) => (.str k, v)) with
  | error e =>
      refine .inl ⟨e, comes, fun arrange order => ?_⟩
      rw [configureInPlace_eq order c, comes]
  | ok c' =>
      refine .inr ⟨c', comes, applied_of_configure mapping comes, fun arrange order => ?_⟩
      rw [configureInPlace_eq order c, comes]

/-- The flag for enums is given by its public name, and that for interfaces, which was switched off
before, is not named: it stays off, as do the severity and the tokens. -/
theorem configure_all_or_nothing_of_enumOff :
    let c : ImpliedStatic :=
      { severity := .warning, tokens := some acceptable, enforceInterface := false }
    let options : List (String × Value) := [("enforceStaticOnNestedEnum", .bool false)]
    (Keyed.keys options).Nodup ∧ ∃ c', Applied c options c' ∧
      c'.enforceEnum = false ∧ c'.enforceInterface = false ∧ c'.severity = .warning ∧
      ∀ arrange, Orders arrange →
        (configureInPlace arrange options).run.run c = (.ok (), c') := by
  intro c options
  have mapping : (Keyed.keys options).Nodup := by decide
  obtain ⟨either, accepted⟩ := configure_all_or_nothing c options mapping
  have fine : ∃ c', c.configure (options.map fun (k, v) => (.str k, v)) = .ok c' := by
    refine accepted.2 ⟨fun entry member => ?_, fun flag twice => ?_⟩
    · obtain rfl := List.mem_singleton.1 member
      exact ⟨⟨.nestedEnum, .inl rfl⟩, false, rfl⟩
    · exact flag.names_ne ((List.mem_singleton.1 twice.1).trans (List.mem_singleton.1 twice.2).symm)
  rcases either with ⟨e, refused, -⟩ | ⟨c', -, applied, steps⟩
  · obtain ⟨c', made⟩ := fine
    cases made.symm.trans refused
  · refine ⟨mapping, c', applied, ?_, ?_, applied.severity, steps⟩
    · exact applied.given .nestedEnum _ false (.inl rfl) (List.mem_singleton_self _)
    · refine applied.kept .nestedInterface fun name named member => ?_
      exact nomatch named.unique (.inl (List.mem_singleton.1 member) : Flag.nestedEnum.Named name)

end ModifierLint.Java.ImpliedStatic
