/-
# The nearest ancestor with a property

A search upwards looks at one ancestor after the other.  `SourceTree.NearestAncestor` says what it
is to find without a word about the search: the ancestor has the property, and none on the way to
it does.  The search finds it (`SourceTree.nearest_answers`), and there is no other
(`SourceTree.NearestAncestor.unique`).

The way up from an ancestor is what is left of the way (`SourceTree.ancestorsFrom_rest`), so a
search that has passed an ancestor goes on as a search from there
(`SourceTree.nearestAncestor_beyond`).
-/
import Mathlib.Data.List.Find
import ModifierLint.Proofs.Tree.Ancestors

namespace ModifierLint.SourceTree

variable {t : SourceTree}

/-! ## Ways up -/

/-- The nearest ancestor that satisfies a test is the first one on the way up that does. -/
theorem nearestFrom_eq_find? (test : Node → Bool) {i : Nat} {e : Entry}
    (hi : t.entries[i]? = some e) :
    t.nearestFrom test e.parent =
      (t.ancestorsFrom e.parent).find? fun j => (t.entries[j]?).any fun f => test f.node := by
  induction i using Nat.strongRecOn generalizing e with
  | ind i ih =>
      cases link : e.parent with
      | none =>
          rw [nearestFrom, ancestorsFrom]
          rfl
      | some p =>
          obtain ⟨g, hp⟩ := exists_of_link hi link
          have above := ih p (parent_lt hi link) hp
          rw [nearestFrom_some hp, ancestorsFrom_some hp, List.find?_cons, hp, Option.any_some,
            above]
          cases test g.node with
          | true => rfl
          | false => rfl

/-- What is left of a way up behind an ancestor is the way up from there. -/
theorem ancestorsFrom_rest {i j : Nat} {e : Entry} {passed above : List Nat}
    (hi : t.entries[i]? = some e) (way : t.ancestorsFrom e.parent = passed ++ j :: above) :
    ∃ f, t.entries[j]? = some f ∧ t.ancestorsFrom f.parent = above := by
  induction passed generalizing i e with
  | nil =>
      cases link : e.parent with
      | none =>
          rw [link, ancestorsFrom] at way
          cases way
      | some p =>
          obtain ⟨g, hp⟩ := exists_of_link hi link
          rw [link, ancestorsFrom_some hp] at way
          obtain ⟨rfl, rest⟩ := List.cons.inj way
          exact ⟨g, hp, rest⟩
  | cons k passed ih =>
      cases link : e.parent with
      | none =>
          rw [link, ancestorsFrom] at way
          cases way
      | some p =>
          obtain ⟨g, hp⟩ := exists_of_link hi link
          rw [link, ancestorsFrom_some hp] at way
          exact ih hp (List.cons.inj way).2

/-! ## What it is to be the nearest -/

/-- The nearest ancestor of `h` with the property `P`, or none if no ancestor has it. -/
inductive NearestAncestor (t : SourceTree) (P : Handle → Prop) (h : Handle) : Option Nat → Prop
  | found {nearer further : List Nat} {j : Nat} {a : Handle}
      (way : t.ancestors h = .ok (nearer ++ j :: further)) (there : t.handle? j = some a)
      (has : P a) (lack : ∀ k ∈ nearer, ∀ b, t.handle? k = some b → ¬P b) :
      NearestAncestor t P h (some j)
  | missing {way : List Nat} (up : t.ancestors h = .ok way)
      (lack : ∀ k ∈ way, ∀ b, t.handle? k = some b → ¬P b) : NearestAncestor t P h none

section

variable {P Q : Handle → Prop} {h : Handle} {link : Option Nat}

theorem any_iff [DecidablePred P] {k : Nat} : (t.handle? k).any (fun b => decide (P b)) = true ↔
    ∃ b, t.handle? k = some b ∧ P b := by
  simp [Option.any_eq_true]

theorem not_any_iff [DecidablePred P] {k : Nat} :
    ¬(t.handle? k).any (fun b => decide (P b)) = true ↔ ∀ b, t.handle? k = some b → ¬P b := by
  rw [any_iff]
  exact ⟨fun none_has b there has => none_has ⟨b, there, has⟩,
    fun lacks ⟨b, there, has⟩ => lacks b there has⟩

/-- To be the nearest is to be found first on the way up. -/
theorem nearestAncestor_iff [DecidablePred P] {way : List Nat} (up : t.ancestors h = .ok way) :
    t.NearestAncestor P h link ↔
      way.find? (fun k => (t.handle? k).any fun b => decide (P b)) = link := by
  constructor
  · intro nearest
    cases nearest with
    | found way there has lack =>
        cases up.symm.trans way
        refine List.find?_eq_some_iff_append.2 ⟨any_iff.2 ⟨_, there, has⟩, _, _, rfl, ?_⟩
        intro k hk
        simpa using not_any_iff.2 (lack k hk)
    | missing up' lack =>
        cases up.symm.trans up'
        exact List.find?_eq_none.2 fun k hk => not_any_iff.2 (lack k hk)
  · rintro rfl
    cases first : way.find? fun k => (t.handle? k).any fun b => decide (P b) with
    | none => exact .missing up fun k hk => not_any_iff.1 (List.find?_eq_none.1 first k hk)
    | some j =>
        obtain ⟨here, nearer, further, rfl, lack⟩ := List.find?_eq_some_iff_append.1 first
        obtain ⟨a, there, has⟩ := any_iff.1 here
        exact .found up there has fun k hk => not_any_iff.1 (by simpa using lack k hk)

theorem NearestAncestor.exists_way (nearest : t.NearestAncestor P h link) :
    ∃ way, t.ancestors h = .ok way := by
  cases nearest with
  | found way => exact ⟨_, way⟩
  | missing up => exact ⟨_, up⟩

/-- There is one nearest ancestor, or none. -/
theorem NearestAncestor.unique {link' : Option Nat} (nearest : t.NearestAncestor P h link)
    (nearest' : t.NearestAncestor P h link') : link = link' := by
  classical
  obtain ⟨way, up⟩ := nearest.exists_way
  rw [nearestAncestor_iff up] at nearest nearest'
  exact nearest.symm.trans nearest'

/-- The search upwards from an occurrence answers the nearest ancestor. -/
theorem nearest_answers (test : Node → Bool) {i : Nat} (there : t.handle? i = some h) :
    ∃ link, t.nearest test h = .ok link ∧
      t.NearestAncestor (fun a => test a.node = true) h link := by
  obtain ⟨e, hi, rfl⟩ := handle?_eq_some.1 there
  have up := ancestors_of_entry hi
  refine ⟨t.nearestFrom test e.parent, ?_, ?_⟩
  · rw [nearest, parent_of_entry hi]
    rfl
  · rw [nearestAncestor_iff up, nearestFrom_eq_find? test hi]
    simp only [handle?, Option.any_map, Bool.decide_eq_true]

/-- If neither an ancestor nor any nearer one has the property, the search goes on as a search from
that ancestor. -/
theorem nearestAncestor_beyond {nearer further : List Nat} {i j : Nat} {a : Handle}
    (here : t.handle? i = some h) (way : t.ancestors h = .ok (nearer ++ j :: further))
    (there : t.handle? j = some a) (lack : ∀ k ∈ nearer ++ [j], ∀ b, t.handle? k = some b → ¬P b)
    (same : ∀ k ∈ further, ∀ b, t.handle? k = some b → (P b ↔ Q b)) :
    t.NearestAncestor P h link ↔ t.NearestAncestor Q a link := by
  classical
  obtain ⟨e, hi, rfl⟩ := handle?_eq_some.1 here
  obtain ⟨f, hj, rfl⟩ := handle?_eq_some.1 there
  have up := ancestors_of_entry hi
  obtain ⟨f', hj', rest⟩ := ancestorsFrom_rest hi (Except.ok.inj (up.symm.trans way))
  obtain rfl := Option.some.inj (hj.symm.trans hj')
  have up' := ancestors_of_entry hj
  rw [rest] at up'
  have passed : (nearer ++ [j]).find? (fun k => (t.handle? k).any fun b => decide (P b)) = none :=
    List.find?_eq_none.2 fun k hk => not_any_iff.2 (lack k hk)
  have left : further.find? (fun k => (t.handle? k).any fun b => decide (P b)) =
      further.find? fun k => (t.handle? k).any fun b => decide (Q b) := by
    refine List.find?_congr fun k hk => ?_
    cases seen : t.handle? k with
    | none => rfl
    | some b => simp only [Option.any_some, same k hk b seen]
  rw [nearestAncestor_iff way, nearestAncestor_iff up', List.append_cons, List.find?_append, passed,
    Option.none_or, left]

end

end ModifierLint.SourceTree
