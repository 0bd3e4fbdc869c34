/-
# Where the fields of an entry stand in its line

A line has parts of its own (the moment, the level, the logger, the message and so on), and the
fields of the entry stand between them: the context fields at the top, all others together in one
part.  `LogEntry.Places` says so by what is found under the names, for fields and lines of any
origin, and `LogEntry.places_line` that the line of an entry is laid out so.

Silent fields are left out where the others are gathered, so a logger accepts them but no line shows
them.  The values of all other fields need JSON texts, or the line cannot be written
(`LogEntry.isWritable_iff`).
-/
import ModifierLint.Log.Logger
import ModifierLint.Proofs.Json.Layout
import ModifierLint.Proofs.Keyed

namespace ModifierLint

/-! ## Picking entries by key -/

namespace Keyed

variable {κ ν : Type} {test : κ → Bool} {target : κ}

/-- What is found among entries that were picked by their keys. -/
theorem find?_filter (keeps : κ → Bool) (names : ∀ k, test k = true ↔ k = target) :
    ∀ entries : List (κ × ν), find? test (entries.filter fun entry => keeps entry.1) =
      if keeps target then find? test entries else none
  | [] => by
      rw [List.filter_nil, find?, ite_self]
  | (k, v) :: rest => by
      have later := find?_filter keeps names rest
      rw [List.filter_cons]
      by_cases here : test k = true
      · rw [← (names k).1 here] at later ⊢
        by_cases kept : keeps k = true
        · rw [if_pos kept, if_pos kept, find?, find?, if_pos here, if_pos here]
        · rw [if_neg kept, later, if_neg kept, if_neg kept]
      · split
        · rw [find?, find?, if_neg here, if_neg here, later]
        · rw [find?, if_neg here, later]

/-- What is found among the entries that are read for some keys. -/
theorem find?_filterMap [DecidableEq κ] (read : κ → Option ν)
    (names : ∀ k, test k = true ↔ k = target) : ∀ ks : List κ,
    find? test (ks.filterMap fun k => (read k).map fun v => (k, v)) =
      if target ∈ ks then read target else none
  | [] => rfl
  | k :: rest => by
      have later := find?_filterMap read names rest
      by_cases here : k = target
      · subst here
        rw [if_pos List.mem_cons_self]
        cases value : read k with
        | none =>
            rw [List.filterMap_cons_none (by rw [value]; rfl), later, value, ite_self]
        | some v =>
            rw [List.filterMap_cons_some (b := (k, v)) (by rw [value]; rfl), find?,
              if_pos ((names k).2 rfl)]
      · have asked : target ∈ k :: rest ↔ target ∈ rest := by
          rw [List.mem_cons, or_iff_right (Ne.symm here)]
        simp only [asked]
        rw [← later]
        cases value : read k with
        | none => rw [List.filterMap_cons_none (by rw [value]; rfl)]
        | some v =>
            rw [List.filterMap_cons_some (b := (k, v)) (by rw [value]; rfl), find?,
              if_neg (mt (names k).1 here)]

/-- Keys are read in their order. -/
theorem keys_filterMap_sublist (read : κ → Option ν) : ∀ ks : List κ,
    (keys (ks.filterMap fun k => (read k).map fun v => (k, v))).Sublist ks
  | [] => List.Sublist.refl []
  | k :: rest => by
      have later := keys_filterMap_sublist read rest
      cases value : read k with
      | none =>
          rw [List.filterMap_cons_none (by rw [value]; rfl)]
          exact later.cons k
      | some v =>
          rw [List.filterMap_cons_some (b := (k, v)) (by rw [value]; rfl)]
          exact later.cons_cons k

end Keyed

/-- What is not among the names of a part is not found there. -/
theorem Fields.get?_eq_none {part : Fields} {names : List String} {name : String}
    (within : (Keyed.keys part).Sublist names) (outside : name ∉ names) :
    part.get? name = none := by
  rw [← Option.not_isSome_iff_eq_none, Option.isSome_iff_exists]
  intro found
  exact outside (within.subset ((Keyed.mem_keys_iff fun _ => beq_iff_eq).2 found))

namespace LogEntry

variable {e : LogEntry}

theorem get?_contextOf (e : LogEntry) (name : String) :
    Fields.get? e.contextOf name = if name ∈ contextFields then e.fields.get? name else none :=
  Keyed.find?_filterMap e.fields.get? (fun _ => beq_iff_eq) contextFields

theorem get?_details (e : LogEntry) (name : String) : Fields.get? e.details name =
    if name ∈ contextFields ∨ name ∈ silentFields then none else e.fields.get? name := by
  have picked : Fields.get? e.details name =
      if !contextFields.contains name && !silentFields.contains name then e.fields.get? name
        else none :=
    Keyed.find?_filter (fun name => !contextFields.contains name && !silentFields.contains name)
      (fun _ => beq_iff_eq) e.fields
  rw [picked]
  by_cases top : name ∈ contextFields
  · simp [top]
  · by_cases silent : name ∈ silentFields
    · simp [silent]
    · simp [top, silent]

theorem nodup_details (nodup : (Keyed.keys e.fields).Nodup) : (Keyed.keys e.details).Nodup :=
  nodup.sublist (List.filter_sublist.map Prod.fst)

/-! ## The parts of a line -/

/-- The part of a line for the fields that are not at the top. -/
def gathered (e : LogEntry) : Fields :=
  if e.details.isEmpty then [] else [("context", .record e.details)]

/-- The part of a line for an error. -/
def reported (e : LogEntry) (trace : String) : Fields :=
  e.error.toList.map fun r =>
    ("error", .record [("type", .str r.kind), ("message", .str r.message),
      ("stack_trace", .str trace)])

theorem keys_gathered_sublist (e : LogEntry) : (Keyed.keys e.gathered).Sublist ["context"] := by
  unfold gathered
  split
  · exact List.nil_sublist _
  · exact List.Sublist.refl _

theorem keys_reported_sublist (e : LogEntry) (trace : String) :
    (Keyed.keys (e.reported trace)).Sublist ["error"] := by
  unfold reported
  cases e.error with
  | none => exact List.nil_sublist _
  | some r => exact List.Sublist.refl _

theorem keys_contextOf_sublist (e : LogEntry) : (Keyed.keys e.contextOf).Sublist contextFields :=
  Keyed.keys_filterMap_sublist e.fields.get? contextFields

/-- The names in a line stand in a fixed order. -/
theorem keys_line_sublist (e : LogEntry) (time trace : String) (source : Value) :
    (Keyed.keys (e.line time trace source)).Sublist
      (["timestamp", "level", "logger", "message"] ++ contextFields ++ ["context"] ++ ["error"] ++
        ["source"]) := by
  have whole : Keyed.keys (e.line time trace source) =
      ["timestamp", "level", "logger", "message"] ++ Keyed.keys e.contextOf ++
        Keyed.keys e.gathered ++ Keyed.keys (e.reported trace) ++ ["source"] := by
    simp only [line, Keyed.keys, List.map_append]
    rfl
  rw [whole]
  exact ((((List.Sublist.refl _).append e.keys_contextOf_sublist).append
    e.keys_gathered_sublist).append (e.keys_reported_sublist trace)).append (List.Sublist.refl _)

/-- No name is in a line twice. -/
theorem nodup_line (e : LogEntry) (time trace : String) (source : Value) :
    (Keyed.keys (e.line time trace source)).Nodup :=
  List.Nodup.sublist (e.keys_line_sublist time trace source) (by decide)

/-- The names of a line that are not taken from fields, but for the one of the part that gathers
fields. -/
def ownNames : List String :=
  ["timestamp", "level", "logger", "message"] ++ (["error"] ++ ["source"])

/-- Under other names, what is found in a line is found in one of the two parts with fields. -/
theorem get?_line (e : LogEntry) (time trace : String) (source : Value) {name : String}
    (other : name ∉ ownNames) : Fields.get? (e.line time trace source) name =
      (Fields.get? e.contextOf name).or (Fields.get? e.gathered name) := by
  rw [ownNames, List.mem_append, List.mem_append, not_or, not_or] at other
  obtain ⟨front, error, back⟩ := other
  let head : Fields := [("timestamp", .str time), ("level", .str e.level.name),
    ("logger", .str e.logger), ("message", .str e.message)]
  have whole : e.line time trace source =
      head ++ e.contextOf ++ e.gathered ++ e.reported trace ++ [("source", source)] := rfl
  have at_head : Fields.get? head name = none := Fields.get?_eq_none (List.Sublist.refl _) front
  have at_error : Fields.get? (e.reported trace) name = none :=
    Fields.get?_eq_none (e.keys_reported_sublist trace) error
  have at_source : Fields.get? [("source", source)] name = none :=
    Fields.get?_eq_none (List.Sublist.refl _) back
  rw [whole]
  unfold Fields.get? at *
  rw [Keyed.find?_append, Keyed.find?_append, Keyed.find?_append, Keyed.find?_append, at_head,
    at_error, at_source, Option.none_or, Option.or_none, Option.or_none]

/-- Where fields stand in a line. -/
structure Places (fields line : Fields) : Prop where
  /-- No name is in the line twice. -/
  once : (Keyed.keys line).Nodup
  /-- Fields bring no other names to the line. -/
  fixed : ∀ name ∈ Keyed.keys line, name ∈ contextFields ∨ name = "context" ∨ name ∈ ownNames
  /-- The context fields, and no others, stand at the top under their names. -/
  top : ∀ name ∈ contextFields, line.get? name = fields.get? name
  /-- All other fields, but for the silent ones, stand together, each once. -/
  below : ∃ gathered : Fields, (Keyed.keys gathered).Nodup ∧
    line.get? "context" = (if gathered.isEmpty then none else some (.record gathered)) ∧
    ∀ name, gathered.get? name =
      if name ∈ contextFields ∨ name ∈ silentFields then none else fields.get? name

theorem places_line (nodup : (Keyed.keys e.fields).Nodup) (time trace : String) (source : Value) :
    Places e.fields (e.line time trace source) := by
  refine ⟨e.nodup_line time trace source, fun name member => ?_, fun name member => ?_, e.details,
    nodup_details nodup, ?_, e.get?_details⟩
  · have known := (e.keys_line_sublist time trace source).subset member
    simp only [ownNames, List.mem_append, List.mem_singleton] at known ⊢
    tauto
  · have apart : ∀ name ∈ contextFields, name ∉ ownNames ∧ name ∉ ["context"] := by decide
    obtain ⟨other, elsewhere⟩ := apart name member
    rw [e.get?_line time trace source other, get?_contextOf, if_pos member,
      Fields.get?_eq_none e.keys_gathered_sublist elsewhere, Option.or_none]
  · rw [e.get?_line time trace source (by decide), get?_contextOf, if_neg (by decide),
      Option.none_or, gathered]
    split
    · rfl
    · rfl

/-! ## Lines that can be written -/

/-- All fields but the silent ones have JSON texts. -/
def HaveTexts (fields : Fields) : Prop :=
  ∀ f ∈ fields, f.1 ∉ silentFields → Json.refusal? f.2 = none

theorem mem_contextOf (nodup : (Keyed.keys e.fields).Nodup) {f : String × Value} :
    f ∈ e.contextOf ↔ f ∈ e.fields ∧ f.1 ∈ contextFields := by
  have names (k : String) : (k == f.1) = true ↔ k = f.1 := beq_iff_eq
  rw [contextOf, List.mem_filterMap]
  constructor
  · rintro ⟨name, known, found⟩
    obtain ⟨v, value, rfl⟩ := Option.map_eq_some_iff.1 found
    exact ⟨Keyed.mem_of_find?_eq_some names value, known⟩
  · rintro ⟨member, known⟩
    have value : e.fields.get? f.1 = some f.2 := Keyed.find?_of_mem names nodup member
    exact ⟨f.1, known, Option.map_eq_some_iff.2 ⟨f.2, value, rfl⟩⟩

theorem mem_details {f : String × Value} :
    f ∈ e.details ↔ f ∈ e.fields ∧ f.1 ∉ contextFields ∧ f.1 ∉ silentFields := by
  simp [details]

/-- An entry can be written exactly if all its fields but the silent ones have JSON texts. -/
theorem isWritable_iff (nodup : (Keyed.keys e.fields).Nodup) :
    e.isWritable = true ↔ HaveTexts e.fields := by
  have apart : ∀ name ∈ contextFields, name ∉ silentFields := by decide
  rw [isWritable, Option.isNone_iff_eq_none, Json.refusal?_record, List.forall_mem_append]
  constructor
  · rintro ⟨top, below⟩ f member shown
    by_cases known : f.1 ∈ contextFields
    · exact top f ((mem_contextOf nodup).2 ⟨member, known⟩)
    · exact below f (mem_details.2 ⟨member, known, shown⟩)
  · intro texts
    refine ⟨fun f member => ?_, fun f member => ?_⟩
    · obtain ⟨there, known⟩ := (mem_contextOf nodup).1 member
      exact texts f there (apart f.1 known)
    · obtain ⟨there, -, shown⟩ := mem_details.1 member
      exact texts f there shown

end LogEntry

end ModifierLint
