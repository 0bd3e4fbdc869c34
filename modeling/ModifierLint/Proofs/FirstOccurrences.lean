/-
# First occurrences

Erasing duplicates keeps of each element the first occurrence (`firstOccurrences_eraseDups`).  Where
a list grows at its end, what was there already adds nothing, and what is new comes last.
-/
import Mathlib.Data.List.Basic
import Mathlib.Data.List.Induction

namespace ModifierLint

/-- `r` holds the elements of `l`, each once and by its first place in `l`. -/
structure FirstOccurrences {α : Type} [BEq α] (l r : List α) : Prop where
  members : ∀ a, a ∈ r ↔ a ∈ l
  nodup : r.Nodup
  order : r.Pairwise fun a b => l.idxOf a < l.idxOf b

variable {α : Type} [BEq α] [LawfulBEq α] {l : List α} {a : α}

theorem eraseDups_append_of_subset {more : List α} (covered : more ⊆ l) :
    (l ++ more).eraseDups = l.eraseDups := by
  have nothing : more.removeAll l = [] := by
    rw [List.removeAll, List.filter_eq_nil_iff]
    intro b member
    simpa using covered member
  rw [List.eraseDups_append, nothing, List.eraseDups_nil, List.append_nil]

theorem eraseDups_concat_of_not_mem (new : a ∉ l) :
    (l ++ [a]).eraseDups = l.eraseDups ++ [a] := by
  have kept : [a].removeAll l = [a] := by
    simp [List.removeAll, new]
  rw [List.eraseDups_append, kept]
  rfl

/-- Erasing duplicates leaves the elements in the order of their first places. -/
theorem pairwise_eraseDups (l : List α) :
    l.eraseDups.Pairwise fun a b => l.idxOf a < l.idxOf b := by
  induction l using List.reverseRecOn with
  | nil => exact List.Pairwise.nil
  | append_singleton l a ih =>
      have before : l.eraseDups.Pairwise fun b c => (l ++ [a]).idxOf b < (l ++ [a]).idxOf c := by
        refine ih.imp_of_mem fun hb hc less => ?_
        rw [List.idxOf_append_of_mem (List.mem_eraseDups.1 hb),
          List.idxOf_append_of_mem (List.mem_eraseDups.1 hc)]
        exact less
      by_cases old : a ∈ l
      · rw [eraseDups_append_of_subset (by simpa using old)]
        exact before
      · rw [eraseDups_concat_of_not_mem old]
        refine List.pairwise_append.2 ⟨before, List.pairwise_singleton _ _, ?_⟩
        intro b hb c hc
        obtain rfl := List.mem_singleton.1 hc
        have there := List.mem_eraseDups.1 hb
        rw [List.idxOf_append_of_mem there, List.idxOf_append_of_notMem old]
        exact Nat.lt_of_lt_of_le (List.idxOf_lt_length_of_mem there) (Nat.le_add_right _ _)

theorem nodup_eraseDups (l : List α) : l.eraseDups.Nodup := by
  refine (pairwise_eraseDups l).imp fun less same => ?_
  rw [same] at less
  exact Nat.lt_irrefl _ less

theorem firstOccurrences_eraseDups (l : List α) : FirstOccurrences l l.eraseDups :=
  ⟨fun _ => List.mem_eraseDups, nodup_eraseDups l, pairwise_eraseDups l⟩

end ModifierLint
