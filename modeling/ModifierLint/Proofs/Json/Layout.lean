/-
# How items are set

A list is written as its items between brackets and an object as its fields between braces.  What
stands around the items is blank but for the brackets and the commas, whatever the layout: items
begin after `Layout.opening`, and `Layout.separator` is a comma with such a gap behind it.
-/
import ModifierLint.Json

namespace ModifierLint.Json

/-! ## Items and fields -/

theorem renderItems_eq_map (layout : Layout) (level : Nat) (items : List Value) :
    renderItems layout level items = items.map (renderAt layout level) := by
  induction items with
  | nil => rw [renderItems, List.map_nil]
  | cons v rest ih => rw [renderItems, List.map_cons, ih]

theorem itemsRefusal?_eq_findSome? (items : List Value) :
    itemsRefusal? items = items.findSome? refusal? := by
  induction items with
  | nil => rw [itemsRefusal?, List.findSome?_nil]
  | cons v rest ih => rw [itemsRefusal?, List.findSome?_cons, ih]; cases refusal? v <;> rfl

/-- An object has a JSON text if the values of its fields have. -/
theorem refusal?_record {fields : List (String × Value)} :
    refusal? (.record fields) = none ↔ ∀ f ∈ fields, refusal? f.2 = none := by
  rw [Value.record, refusal?]
  induction fields with
  | nil => exact iff_of_true rfl nofun
  | cons f rest ih =>
      rw [List.map_cons, fieldsRefusal?, nameRefusal?, Option.none_or, Option.or_eq_none_iff, ih,
        List.forall_mem_cons]

theorem render_list (layout : Layout) (items : List Value) :
    render layout (.list items) =
      enclose layout 0 "[" "]" (items.map (renderAt layout 1)) := by
  rw [render, renderAt, renderItems_eq_map]

/-- The text of a field: its name between quotes, a colon and its value. -/
def fieldText (name : String) (value : List Char) : List Char :=
  (quote name).toList ++ ':' :: ' ' :: value

theorem renderFields_record (layout : Layout) (level : Nat) (fields : List (String × Value)) :
    (renderFields layout level (fields.map fun (k, v) => (.str k, v))).map String.toList =
      fields.map fun f => fieldText f.1 (renderAt layout level f.2).toList := by
  induction fields with
  | nil => rfl
  | cons f rest ih =>
      rw [List.map_cons, renderFields, List.map_cons, ih, List.map_cons, fieldName, fieldText,
        String.toList_append, String.toList_append]
      simp

/-! ## Gaps -/

/-- Characters that a reader passes over. -/
def Gap (cs : List Char) : Prop :=
  ∀ c ∈ cs, isSpace c = true

theorem gap_opening (layout : Layout) (level : Nat) : Gap (layout.opening level).toList := by
  intro c hc
  cases layout with
  | line => cases hc
  | block indent =>
      simp only [Layout.opening, String.toList_append, String.toList_ofList] at hc
      rcases List.mem_append.1 hc with hc | hc
      · obtain rfl : c = '\n' := by simpa using hc
        decide
      · rw [List.eq_of_mem_replicate hc]
        decide

theorem toList_separator (layout : Layout) (level : Nat) :
    ∃ gap, Gap gap ∧ (layout.separator level).toList = ',' :: gap := by
  cases layout with
  | line =>
      refine ⟨[' '], ?_, by rw [Layout.separator]; decide⟩
      intro c hc
      rw [List.mem_singleton.1 hc]
      decide
  | block indent =>
      refine ⟨((Layout.block indent).opening level).toList, gap_opening _ _, ?_⟩
      rw [Layout.separator, String.toList_append]
      rfl

theorem enclose_nil (layout : Layout) (level : Nat) (left right : String) :
    enclose layout level left right [] = left ++ right := rfl

/-- Items stand between a gap and a gap, with a comma and a gap between two of them. -/
theorem toList_enclose (layout : Layout) (level : Nat) (left right : String) (items : List String)
    (some_ : items ≠ []) :
    ∃ first between last, Gap first ∧ Gap between ∧ Gap last ∧
      (enclose layout level left right items).toList =
        left.toList ++ (first ++ ((',' :: between).intercalate (items.map String.toList) ++
          (last ++ right.toList))) := by
  obtain ⟨between, blank, separator⟩ := toList_separator layout (level + 1)
  refine ⟨_, between, _, gap_opening layout (level + 1), blank, gap_opening layout level, ?_⟩
  rw [enclose, List.isEmpty_eq_false_iff.2 some_, if_neg Bool.false_ne_true]
  simp only [String.toList_append, String.toList_intercalate, separator, List.append_assoc]

end ModifierLint.Json
