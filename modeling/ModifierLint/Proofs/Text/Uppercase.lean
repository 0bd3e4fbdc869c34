/-
# Latin capitals

The names of levels are Latin capitals.  A text whose upper case is such a name may hold other
letters (`ı`, `ſ` and ligatures among them, `latinSmall`), but these are not the upper case of
anything.  So taking the upper case once more never turns another text into a name of capitals
(`Text.uppercase_eq_of_capitals`).
-/
import Mathlib.Data.List.Basic
import ModifierLint.Text.Uppercase

namespace ModifierLint.Text

/-- Whether the character is a Latin capital. -/
def IsCapital (c : Char) : Prop :=
  65 ≤ c.toNat ∧ c.toNat ≤ 90

/-- The other letters whose upper case consists of Latin capitals. -/
def latinSmall : List Nat :=
  List.range' 97 26 ++ [223, 305, 383] ++ List.range' 64256 7

/-- In the table of expansions, only small letters become Latin capitals, and nothing becomes a
small letter. -/
theorem expansions_apart : ∀ entry ∈ uppercaseExpansions,
    (entry.1 ∈ latinSmall ∨ ∃ code ∈ entry.2, 90 < code) ∧
      ∀ code ∈ entry.2, code ∉ latinSmall := by
  decide +kernel

/-- The same in the table of runs. -/
theorem runs_apart : ∀ run ∈ uppercaseRuns,
    (90 < run.1 + run.2.2.2 ∨ run.1 = run.2.1 ∧ run.1 ∈ latinSmall) ∧
      ∀ small ∈ latinSmall, ¬(run.1 + run.2.2.2 ≤ small ∧ small ≤ run.2.1 + run.2.2.2 ∧
        (small - run.2.2.2 - run.1) % run.2.2.1 = 0) := by
  decide +kernel

/-- The same among the characters of ASCII, where capitals stay as they are. -/
theorem ascii_apart : ∀ n < 0x80,
    (IsCapital (Char.ofNat n).toUpper → IsCapital (Char.ofNat n) ∨ n ∈ latinSmall) ∧
      (Char.ofNat n).toUpper.toNat ∉ latinSmall ∧
      (IsCapital (Char.ofNat n) → (Char.ofNat n).toUpper = Char.ofNat n) := by
  unfold IsCapital
  decide +kernel

/-- Small letters have an upper case of their own. -/
theorem small_changes : ∀ n ∈ latinSmall, 0x80 ≤ n →
    uppercaseOf (Char.ofNat n) ≠ [Char.ofNat n] := by
  decide +kernel

/-- A number that is no character stands for the character NUL. -/
theorem toNat_ofNat_cases (n : Nat) : (Char.ofNat n).toNat = n ∨ (Char.ofNat n).toNat = 0 := by
  unfold Char.ofNat
  by_cases valid : n.isValidChar
  · rw [dif_pos valid]
    exact .inl rfl
  · rw [dif_neg valid]
    exact .inr rfl

theorem toNat_ofNat_not_small {n : Nat} (other : n ∉ latinSmall) :
    (Char.ofNat n).toNat ∉ latinSmall := by
  rcases toNat_ofNat_cases n with same | zero
  · rw [same]
    exact other
  · rw [zero]
    decide

/-- A run that holds a character maps it by its offset. -/
structure Holds (run : Nat × Nat × Nat × Int) (c : Char) : Prop where
  first : run.1 ≤ c.toNat
  last : c.toNat ≤ run.2.1
  step : (c.toNat - run.1) % run.2.2.1 = 0

/-- The four ways in which the upper case of a character is found. -/
theorem uppercaseOf_cases (c : Char) :
    (c.toNat < 0x80 ∧ uppercaseOf c = [c.toUpper]) ∨
    (∃ codes, (c.toNat, codes) ∈ uppercaseExpansions ∧ uppercaseOf c = codes.map Char.ofNat) ∨
    (∃ run ∈ uppercaseRuns, Holds run c ∧
      uppercaseOf c = [Char.ofNat (c.toNat + run.2.2.2).toNat]) ∨
    (0x80 ≤ c.toNat ∧ uppercaseOf c = [c]) := by
  by_cases ascii : c.toNat < 0x80
  · refine .inl ⟨ascii, ?_⟩
    rw [uppercaseOf, if_pos ascii]
  · rw [uppercaseOf, if_neg ascii]
    split
    · next codes expansion =>
        obtain ⟨before, behind, whole, -⟩ := List.lookup_eq_some_iff.1 expansion
        refine .inr (.inl ⟨codes, ?_, rfl⟩)
        rw [whole]
        exact List.mem_append_right _ List.mem_cons_self
    · split
      · next found =>
          have holds := List.find?_some found
          simp only [Bool.and_eq_true, decide_eq_true_eq, beq_iff_eq] at holds
          exact .inr (.inr (.inl ⟨_, List.mem_of_find?_eq_some found,
            ⟨holds.1.1, holds.1.2, holds.2⟩, rfl⟩))
      · exact .inr (.inr (.inr ⟨Nat.le_of_not_lt ascii, rfl⟩))

/-- Only capitals and small letters become Latin capitals. -/
theorem isCapital_or_small {d : Char} (capitals : ∀ c ∈ uppercaseOf d, IsCapital c) :
    IsCapital d ∨ d.toNat ∈ latinSmall := by
  rcases uppercaseOf_cases d with
    ⟨ascii, upper⟩ | ⟨codes, entry, upper⟩ | ⟨run, entry, holds, upper⟩ | ⟨-, upper⟩
  · have apart := (ascii_apart _ ascii).1
    rw [Char.ofNat_toNat] at apart
    rw [upper] at capitals
    exact apart (capitals _ (List.mem_singleton_self _))
  · rcases (expansions_apart _ entry).1 with small | ⟨code, there, above⟩
    · exact .inr small
    · rw [upper] at capitals
      obtain ⟨least, most⟩ := capitals _ (List.mem_map_of_mem there)
      rcases toNat_ofNat_cases code with same | zero <;> omega
  · rcases (runs_apart _ entry).1 with above | ⟨single, small⟩
    · rw [upper] at capitals
      obtain ⟨least, most⟩ := capitals _ (List.mem_singleton_self _)
      have from_ := holds.first
      rcases toNat_ofNat_cases (d.toNat + run.2.2.2).toNat with same | zero <;> omega
    · have only : d.toNat = run.1 := Nat.le_antisymm (single ▸ holds.last) holds.first
      exact .inr (only ▸ small)
  · rw [upper] at capitals
    exact .inl (capitals _ (List.mem_singleton_self _))

/-- Nothing becomes a small letter. -/
theorem not_small_of_mem {c d : Char} (member : d ∈ uppercaseOf c) : d.toNat ∉ latinSmall := by
  rcases uppercaseOf_cases c with
    ⟨ascii, upper⟩ | ⟨codes, entry, upper⟩ | ⟨run, entry, holds, upper⟩ | ⟨above, upper⟩
  · have apart := (ascii_apart _ ascii).2.1
    rw [Char.ofNat_toNat] at apart
    rw [upper, List.mem_singleton] at member
    exact member ▸ apart
  · rw [upper] at member
    obtain ⟨code, there, rfl⟩ := List.mem_map.1 member
    exact toNat_ofNat_not_small ((expansions_apart _ entry).2 code there)
  · rw [upper, List.mem_singleton] at member
    subst member
    refine toNat_ofNat_not_small fun small => ?_
    obtain ⟨first, last, step⟩ := holds
    have positive : (c.toNat + run.2.2.2).toNat ≠ 0 := fun zero => by
      rw [zero] at small
      exact absurd small (by decide)
    have exact_ : (((c.toNat + run.2.2.2).toNat : Nat) : Int) = c.toNat + run.2.2.2 := by omega
    refine (runs_apart _ entry).2 _ small ⟨?_, ?_, ?_⟩
    · omega
    · omega
    · have back : ((c.toNat + run.2.2.2).toNat : Int) - run.2.2.2 - run.1 =
          ((c.toNat - run.1 : Nat) : Int) := by omega
      rw [back]
      exact_mod_cast step
  · rw [upper, List.mem_singleton] at member
    subst member
    intro small
    have changes := small_changes _ small above
    rw [Char.ofNat_toNat] at changes
    exact changes upper

theorem uppercaseOf_of_isCapital {c : Char} (capital : IsCapital c) : uppercaseOf c = [c] := by
  have ascii : c.toNat < 0x80 := Nat.lt_of_le_of_lt capital.2 (by decide)
  have stays := (ascii_apart _ ascii).2.2
  rw [Char.ofNat_toNat] at stays
  rw [uppercaseOf, if_pos ascii, stays capital]

/-- Latin capitals are their own upper case. -/
theorem uppercase_of_capitals {name : String} (capitals : ∀ c ∈ name.toList, IsCapital c) :
    uppercase name = name := by
  have each : name.toList.flatMap uppercaseOf = name.toList.flatMap fun c => [c] :=
    List.flatMap_congr fun c there => uppercaseOf_of_isCapital (capitals c there)
  rw [uppercase, each, List.flatMap_singleton', String.ofList_toList]

/-- Taking the upper case once more leads to no other text of Latin capitals. -/
theorem uppercase_eq_of_capitals {s name : String} (capitals : ∀ c ∈ name.toList, IsCapital c)
    (twice : uppercase (uppercase s) = name) : uppercase s = name := by
  have each : ∀ d ∈ (uppercase s).toList, IsCapital d := by
    intro d there
    have made : ∃ c ∈ s.toList, d ∈ uppercaseOf c := by
      rw [uppercase, String.toList_ofList] at there
      exact List.mem_flatMap.1 there
    obtain ⟨c, -, member⟩ := made
    refine (isCapital_or_small fun e upper => ?_).resolve_right (not_small_of_mem member)
    refine capitals e ?_
    rw [← twice, uppercase, String.toList_ofList]
    exact List.mem_flatMap.2 ⟨d, there, upper⟩
  rw [← twice]
  exact (uppercase_of_capitals each).symm

end ModifierLint.Text
