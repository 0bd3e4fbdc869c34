/-
# Texts as keys, and values with texts

Keys need not be texts, and two values can be the same key although they differ.  A text is the same
key as itself only (`Value.sameKey_str`), so texts are looked up as if all keys were texts
(`Value.get?_insert`).

A value can be written if its parts can.
-/
import ModifierLint.Value

namespace ModifierLint.Value

/-! ## Texts among other keys -/

theorem sameKey_str {v : Value} {s : String} : v.sameKey (.str s) = true ↔ v = .str s := by
  cases v with
  | str t => simp [sameKey, sameSimpleKey]
  | float x =>
      cases number : integral? x with
      | none => simp [sameKey, sameSimpleKey, asInteger?, number]
      | some n => simp [sameKey, sameSimpleKey, asInteger?, number]
  | _ => simp [sameKey, sameSimpleKey, asInteger?]

theorem isHashable_str (s : String) : (Value.str s).isHashable = true := by
  simp [isHashable]

theorem elements?_texts (names : List String) :
    (Value.texts names).elements? = some (names.map .str) :=
  rfl

/-! ## Values that can be written -/

theorem isWritable_str (s : String) : (Value.str s).isWritable = true := by
  simp [isWritable]

theorem areWritable_iff {elements : List Value} :
    areWritable elements = true ↔ ∀ v ∈ elements, v.isWritable = true := by
  induction elements with
  | nil => simp [areWritable]
  | cons v rest ih => rw [areWritable, Bool.and_eq_true, ih, List.forall_mem_cons]

theorem entriesAreWritable_iff {entries : List (Value × Value)} :
    entriesAreWritable entries = true ↔
      ∀ e ∈ entries, e.1.isWritable = true ∧ e.2.isWritable = true := by
  induction entries with
  | nil => simp [entriesAreWritable]
  | cons e rest ih =>
      rw [entriesAreWritable, Bool.and_eq_true, Bool.and_eq_true, ih, List.forall_mem_cons]

theorem isWritable_texts (names : List String) : (Value.texts names).isWritable = true := by
  rw [texts, isWritable, areWritable_iff, List.forall_mem_map]
  exact fun name _ => isWritable_str name

/-- An octet has three digits at most. -/
theorem isWritable_octet (b : UInt8) : (Value.int b.toNat).isWritable = true := by
  have few : b.toNat < 10 ^ 3 := Nat.lt_trans b.toNat_lt (by decide)
  have most : 10 ^ 3 ≤ 10 ^ Text.mostDigits := Nat.pow_le_pow_right (by decide) (by decide +kernel)
  rw [isWritable, Text.isWritable, decide_eq_true_iff, Int.natAbs_natCast]
  exact Nat.lt_of_lt_of_le few most

/-- The parts of a value that can be written can be written. -/
theorem isWritable_of_mem_elements? {v e : Value} {elements : List Value}
    (writable : v.isWritable = true) (parts : v.elements? = some elements) (member : e ∈ elements) :
    e.isWritable = true := by
  cases v with
  | str s =>
      cases parts
      obtain ⟨c, -, rfl⟩ := List.mem_map.1 member
      exact isWritable_str _
  | bytes octets =>
      cases parts
      obtain ⟨b, -, rfl⟩ := List.mem_map.1 member
      exact isWritable_octet b
  | set vs | list vs | tuple vs =>
      cases parts
      rw [isWritable, areWritable_iff] at writable
      exact writable e member
  | map entries =>
      cases parts
      rw [isWritable, entriesAreWritable_iff] at writable
      obtain ⟨entry, there, rfl⟩ := List.mem_map.1 member
      exact (writable entry there).1
  | null | bool | int | float | date | dateTime => cases parts

end ModifierLint.Value
