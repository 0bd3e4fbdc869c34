/-
# Which documents pass

Decoding keeps the complaints of all parts, so a whole passes if each of its parts does.
`Checked.Passes` says that there are no complaints; there is one rule for every way of putting
readers together, and with them it is found what a document must be like for a reader to pass it.
-/
import Mathlib.Data.List.Forall2
import ModifierLint.Proofs.Keyed
import ModifierLint.Schema.Read

namespace ModifierLint.Schema

namespace Checked

variable {α β : Type} {x : Checked α} {f : Checked (α → β)} {g : α → β}

/-- There are no complaints. -/
def Passes (x : Checked α) : Prop :=
  ∃ a, x = .valid a

theorem map_eq_valid {b : β} : g <$> x = .valid b ↔ ∃ a, x = .valid a ∧ g a = b := by
  cases x with
  | valid a =>
      constructor
      · intro equal
        cases equal
        exact ⟨a, rfl, rfl⟩
      · rintro ⟨_, ⟨⟩, rfl⟩
        rfl
  | invalid issues =>
      exact iff_of_false (fun equal => nomatch equal) fun ⟨_, equal, _⟩ => nomatch equal

/-- A function that is decoded with its argument is applied to it. -/
theorem seq_eq_valid {b : β} :
    f <*> x = .valid b ↔ ∃ g a, f = .valid g ∧ x = .valid a ∧ g a = b := by
  cases f with
  | valid g =>
      have applied : (valid g <*> x) = g <$> x := by cases x <;> rfl
      rw [applied, map_eq_valid]
      constructor
      · rintro ⟨a, rfl, rfl⟩
        exact ⟨g, a, rfl, rfl, rfl⟩
      · rintro ⟨_, a, ⟨⟩, rfl, rfl⟩
        exact ⟨a, rfl, rfl⟩
  | invalid issues =>
      refine iff_of_false (fun equal => ?_) fun ⟨_, _, equal, _⟩ => nomatch equal
      cases x <;> cases equal

theorem at_eq_valid {step : Step} {a : α} : x.at_ step = .valid a ↔ x = .valid a := by
  cases x with
  | valid a => exact Iff.rfl
  | invalid issues => exact iff_of_false (fun equal => nomatch equal) fun equal => nomatch equal

/-- The parts of a list are decoded one by one. -/
theorem all_eq_valid : ∀ {xs : List (Checked α)} {as : List α},
    all xs = .valid as ↔ List.Forall₂ (fun x a => x = .valid a) xs as
  | [], as => by
      rw [List.forall₂_nil_left_iff]
      exact ⟨fun equal => by cases equal; rfl, fun equal => by rw [equal]; rfl⟩
  | x :: rest, as => by
      rw [all, seq_eq_valid, List.forall₂_cons_left_iff]
      constructor
      · rintro ⟨_, later, first, others, rfl⟩
        obtain ⟨a, here, rfl⟩ := map_eq_valid.1 first
        exact ⟨a, later, here, all_eq_valid.1 others, rfl⟩
      · rintro ⟨a, later, here, others, rfl⟩
        exact ⟨_, later, map_eq_valid.2 ⟨a, here, rfl⟩, all_eq_valid.2 others, rfl⟩

/-- The place of an item shows in the complaints only. -/
theorem items_eq_valid : ∀ {i : Nat} {xs : List (Checked α)} {as : List α},
    items i xs = .valid as ↔ all xs = .valid as
  | _, [], _ => Iff.rfl
  | i, x :: rest, as => by
      rw [items, all, seq_eq_valid, seq_eq_valid]
      simp only [map_eq_valid, at_eq_valid, items_eq_valid]

theorem passes_valid (a : α) : (valid a).Passes :=
  ⟨a, rfl⟩

theorem not_passes_invalid (issues : List Issue) : ¬ (invalid issues : Checked α).Passes := by
  rintro ⟨a, equal⟩
  cases equal

@[simp]
theorem passes_pure (a : α) : (pure a : Checked α).Passes :=
  passes_valid a

@[simp]
theorem not_passes_complain (complaint : Complaint) :
    ¬ (complain complaint : Checked α).Passes :=
  not_passes_invalid _

@[simp]
theorem passes_map : (g <$> x).Passes ↔ x.Passes := by
  cases x with
  | valid a => exact iff_of_true (passes_valid (g a)) (passes_valid a)
  | invalid issues => exact iff_of_false (not_passes_invalid issues) (not_passes_invalid issues)

/-- Two parts pass together if each of them does. -/
@[simp]
theorem passes_seq : (f <*> x).Passes ↔ f.Passes ∧ x.Passes := by
  cases f with
  | valid g =>
      cases x with
      | valid a => exact iff_of_true (passes_valid (g a)) ⟨passes_valid g, passes_valid a⟩
      | invalid issues =>
          exact iff_of_false (not_passes_invalid issues) fun both => not_passes_invalid _ both.2
  | invalid issues =>
      have refused : ¬ (invalid issues <*> x : Checked β).Passes := by
        cases x with
        | valid a => exact not_passes_invalid issues
        | invalid more => exact not_passes_invalid (issues ++ more)
      exact iff_of_false refused fun both => not_passes_invalid _ both.1

@[simp]
theorem passes_at {step : Step} : (x.at_ step).Passes ↔ x.Passes := by
  cases x with
  | valid a => exact Iff.rfl
  | invalid issues => exact iff_of_false (not_passes_invalid _) (not_passes_invalid _)

/-- The parts of a list pass together if each of them does. -/
theorem passes_all : ∀ {xs : List (Checked α)}, (all xs).Passes ↔ ∀ x ∈ xs, x.Passes
  | [] => iff_of_true (passes_valid []) fun _ member => nomatch member
  | x :: rest => by
      rw [all, passes_seq, passes_map, passes_all, List.forall_mem_cons]

end Checked

open Checked

/-- Only a truth value stands for a truth value. -/
theorem passes_strictBool {v : Value} : (strictBool v).Passes ↔ ∃ b, v = .bool b := by
  unfold strictBool
  split
  · next b => exact iff_of_true (passes_pure b) ⟨b, rfl⟩
  · next other => exact iff_of_false (not_passes_complain _) fun ⟨b, equal⟩ => other b equal

/-- A field that may be left out passes if what is given for it does. -/
theorem passes_optional {α : Type} {entries : List (Value × Value)} {name : String} {default : α}
    {read : Value → Checked α} : (optional entries name default read).Passes ↔
      ∀ v, Value.get? entries name = some v → (read v).Passes := by
  unfold optional
  split
  · next v given => simp [given]
  · next absent => simp [absent]

/-- A mapping has no extra keys if every key is the name of a field that is used. -/
theorem passes_noExtras {used : List String} {entries : List (Value × Value)} :
    (noExtras used entries).Passes ↔ ∀ entry ∈ entries, ∃ s ∈ used, entry.1 = .str s := by
  rw [noExtras, passes_map, passes_all, List.forall_mem_map]
  refine forall₂_congr fun entry _ => ?_
  obtain ⟨key, value⟩ := entry
  cases key with
  | str s =>
      by_cases known : s ∈ used
      · simp [known]
      · simp [known]
  | _ => simp

/-! ## Mappings from texts -/

section

variable {α : Type} {read : Value → Checked α} {v : Value} {entries : List (String × α)}

/-- A mapping from texts has the keys and values that were decoded. -/
theorem dict_eq_valid : dict read v = .valid entries ↔
    ∃ given parts, v = .map given ∧ Keyed.putAll (· == ·) [] parts = entries ∧
      List.Forall₂ (fun (pair : Value × Value) (part : String × α) =>
        string pair.1 = .valid part.1 ∧ read pair.2 = .valid part.2) given parts := by
  have step (pair : Value × Value) (part : String × α) :
      (Prod.mk <$> ((string pair.1).at_ (.name "[key]")).at_ (keyStep pair.1)
        <*> (read pair.2).at_ (keyStep pair.1)) = .valid part ↔
      string pair.1 = .valid part.1 ∧ read pair.2 = .valid part.2 := by
    obtain ⟨name, a⟩ := part
    simp only [seq_eq_valid, map_eq_valid, at_eq_valid]
    constructor
    · rintro ⟨_, _, ⟨_, key, rfl⟩, value, ⟨⟩⟩
      exact ⟨key, value⟩
    · rintro ⟨key, value⟩
      exact ⟨_, a, ⟨name, key, rfl⟩, value, rfl⟩
  cases v with
  | map given =>
      simp only [dict, map_eq_valid, all_eq_valid, List.forall₂_map_left_iff, step]
      constructor
      · rintro ⟨parts, read, written⟩
        exact ⟨given, parts, rfl, written, read⟩
      · rintro ⟨_, parts, ⟨⟩, written, read⟩
        exact ⟨parts, read, written⟩
  | _ => exact iff_of_false nofun fun ⟨_, _, other, _⟩ => nomatch other

/-- A decoded mapping has every key once. -/
theorem nodup_dict (accepted : dict read v = .valid entries) : (Keyed.keys entries).Nodup := by
  obtain ⟨_, parts, -, rfl, -⟩ := dict_eq_valid.1 accepted
  have empty : (Keyed.keys ([] : List (String × α))).Nodup := List.nodup_nil
  exact Keyed.nodup_putAll (fun _ _ => beq_iff_eq) empty parts

/-- Every value of a decoded mapping was decoded. -/
theorem value_of_mem_dict (accepted : dict read v = .valid entries) {entry : String × α}
    (member : entry ∈ entries) : ∃ given, read given = .valid entry.2 := by
  obtain ⟨given, parts, -, rfl, decoded⟩ := dict_eq_valid.1 accepted
  have part := Keyed.mem_of_mem_putAll (fun _ _ => beq_iff_eq) member
  obtain ⟨i, inside, rfl⟩ := List.getElem_of_mem part
  have fits : i < given.length := by rw [decoded.length_eq]; exact inside
  exact ⟨given[i].2, (decoded.get fits inside).2⟩

/-- A mapping with every key once is read back if each of its values is. -/
theorem dict_record {write : α → Value} (nodup : (Keyed.keys entries).Nodup)
    (back : ∀ entry ∈ entries, read (write entry.2) = .valid entry.2) :
    dict read (.record (entries.map fun entry => (entry.1, write entry.2))) = .valid entries := by
  refine dict_eq_valid.2
    ⟨_, entries, rfl, Keyed.putAll_of_nodup (fun _ _ => beq_iff_eq) nodup, ?_⟩
  rw [List.forall₂_map_left_iff, List.forall₂_map_left_iff, List.forall₂_same]
  exact fun entry member => ⟨rfl, back entry member⟩

end

/-- The value under a text key of a mapping from texts. -/
theorem get?_texts (name : String) : ∀ options : List (String × Value),
    Value.get? (options.map fun (k, v) => (Value.str k, v)) name =
      Keyed.find? (· == name) options
  | [] => rfl
  | (k, v) :: rest => by
      have same : (Value.str k).sameKey (.str name) = (k == name) := rfl
      have later := get?_texts name rest
      rw [Value.get?, Value.lookup?] at later
      rw [Value.get?, Value.lookup?, List.map_cons, Keyed.find?, Keyed.find?, same, later]

end ModifierLint.Schema
