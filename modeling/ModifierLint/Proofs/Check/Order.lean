/-
# Diagnostics in order

The list of diagnostics is sorted by position, and diagnostics at one position keep the order of
their reports.  Hence it depends on the reports only through the sequences of reports at each
position: how reports at different positions are mixed does not show.

The first half is about any order in which elements may tie.  A sorted list is determined by its
subsequences of tied elements (`WeakOrder.eq_of_filter_tied`), and sorting keeps these subsequences
(`WeakOrder.filter_tied_mergeSort`), so that sorting commutes with leaving elements out
(`WeakOrder.filter_mergeSort`).  The second half is about the order of diagnostics, in which tied
diagnostics are of one file.
-/
import ModifierLint.Check.Collector

namespace ModifierLint

/-! ## Sorting and ties -/

/-- Any two elements can be compared; distinct elements may tie. -/
structure WeakOrder {α : Type} (le : α → α → Bool) : Prop where
  trans : ∀ a b c, le a b = true → le b c = true → le a c = true
  total : ∀ a b, (le a b || le b a) = true

/-- Neither element has to come before the other. -/
def tied {α : Type} (le : α → α → Bool) (a b : α) : Bool :=
  le a b && le b a

theorem tied_iff {α : Type} {le : α → α → Bool} {a b : α} :
    tied le a b = true ↔ le a b = true ∧ le b a = true :=
  Bool.and_eq_true_iff

namespace WeakOrder

variable {α : Type} {le : α → α → Bool}

theorem tied_self (order : WeakOrder le) (a : α) : tied le a a = true := by
  have either := order.total a a
  rw [Bool.or_self] at either
  exact tied_iff.2 ⟨either, either⟩

/-- Elements that tie with one element are sorted as they stand. -/
theorem pairwise_filter_tied (order : WeakOrder le) (a : α) (l : List α) :
    (l.filter (tied le a)).Pairwise fun x y => le x y = true := by
  apply List.pairwise_of_forall_mem_list
  intro x hx y hy
  obtain ⟨-, back⟩ := tied_iff.1 (List.mem_filter.1 hx).2
  obtain ⟨forth, -⟩ := tied_iff.1 (List.mem_filter.1 hy).2
  exact order.trans x a y back forth

/-- Sorting keeps the order of tied elements. -/
theorem filter_tied_mergeSort (order : WeakOrder le) (a : α) (l : List α) :
    (l.mergeSort le).filter (tied le a) = l.filter (tied le a) := by
  have kept : (l.filter (tied le a)).Sublist (l.mergeSort le) :=
    List.sublist_mergeSort order.trans order.total (order.pairwise_filter_tied a l)
      List.filter_sublist
  have within := kept.filter (tied le a)
  have count := ((List.mergeSort_perm l le).filter (tied le a)).length_eq
  rw [List.filter_filter] at within
  simp only [Bool.and_self] at within
  exact (within.eq_of_length count.symm).symm

/-- The first element of a sorted list comes before every element, itself included. -/
theorem le_of_pairwise_cons (order : WeakOrder le) {a x : α} {l : List α}
    (sorted : (a :: l).Pairwise fun x y => le x y = true) (hx : x ∈ a :: l) : le a x = true := by
  rcases List.mem_cons.1 hx with rfl | hx
  · exact (tied_iff.1 (order.tied_self x)).1
  · exact List.rel_of_pairwise_cons sorted hx

/-- An element is tied with itself, so it is found wherever the elements tied with it are. -/
theorem mem_of_filter_tied (order : WeakOrder le) {a : α} {as bs : List α}
    (same : as.filter (tied le a) = bs.filter (tied le a)) (ha : a ∈ as) : a ∈ bs := by
  have there : a ∈ as.filter (tied le a) := List.mem_filter.2 ⟨ha, order.tied_self a⟩
  rw [same] at there
  exact (List.mem_filter.1 there).1

/-- A sorted list is determined by its subsequences of tied elements. -/
theorem eq_of_filter_tied (order : WeakOrder le) : ∀ {as bs : List α},
    as.Pairwise (fun x y => le x y = true) → bs.Pairwise (fun x y => le x y = true) →
    (∀ a, as.filter (tied le a) = bs.filter (tied le a)) → as = bs
  | [], [], _, _, _ => rfl
  | [], b :: bs, _, _, same => by
      cases order.mem_of_filter_tied (same b).symm List.mem_cons_self
  | a :: as, [], _, _, same => by
      cases order.mem_of_filter_tied (same a) List.mem_cons_self
  | a :: as, b :: bs, sorted, sorted', same => by
      have forth := order.mem_of_filter_tied (same a) List.mem_cons_self
      have back := order.mem_of_filter_tied (same b).symm List.mem_cons_self
      -- Each head is least, so the heads tie, and both lead the elements tied with them.
      have tie : tied le a b = true := tied_iff.2
        ⟨order.le_of_pairwise_cons sorted back, order.le_of_pairwise_cons sorted' forth⟩
      have heads := same a
      rw [List.filter_cons_of_pos (order.tied_self a), List.filter_cons_of_pos tie] at heads
      obtain rfl := (List.cons.inj heads).1
      have tails : as = bs := by
        refine order.eq_of_filter_tied sorted.tail sorted'.tail fun c => ?_
        have both := same c
        rw [List.filter_cons, List.filter_cons] at both
        split at both
        · exact (List.cons.inj both).2
        · exact both
      rw [tails]

/-- Sorting forgets everything but the subsequences of tied elements. -/
theorem mergeSort_eq (order : WeakOrder le) {as bs : List α}
    (same : ∀ a, as.filter (tied le a) = bs.filter (tied le a)) :
    as.mergeSort le = bs.mergeSort le := by
  refine order.eq_of_filter_tied (List.pairwise_mergeSort order.trans order.total as)
    (List.pairwise_mergeSort order.trans order.total bs) fun a => ?_
  rw [order.filter_tied_mergeSort, order.filter_tied_mergeSort, same]

/-- Elements may be left out before or after sorting. -/
theorem filter_mergeSort (order : WeakOrder le) (keep : α → Bool) (l : List α) :
    (l.mergeSort le).filter keep = (l.filter keep).mergeSort le := by
  refine order.eq_of_filter_tied
    ((List.pairwise_mergeSort order.trans order.total l).filter keep)
    (List.pairwise_mergeSort order.trans order.total _) fun a => ?_
  rw [order.filter_tied_mergeSort, List.filter_filter, List.filter_filter]
  simp only [Bool.and_comm]
  rw [← List.filter_filter, ← List.filter_filter, order.filter_tied_mergeSort]

/-- One more element is put in front of the sorted elements that it comes before. -/
theorem mergeSort_cons_filter (order : WeakOrder le) (a : α) (l : List α) :
    (a :: l).mergeSort le =
        (l.mergeSort le).filter (!le a ·) ++ a :: (l.mergeSort le).filter (le a ·) ∧
      l.mergeSort le = (l.mergeSort le).filter (!le a ·) ++ (l.mergeSort le).filter (le a ·) := by
  obtain ⟨first, second, whole, rest, before⟩ :=
    List.mergeSort_cons order.trans order.total a l
  have sorted := List.pairwise_mergeSort order.trans order.total (a :: l)
  rw [whole] at sorted
  have after : ∀ b ∈ second, le a b = true := fun b hb =>
    List.rel_of_pairwise_cons (List.pairwise_append.1 sorted).2.1 hb
  have firsts : (first ++ second).filter (!le a ·) = first := by
    rw [List.filter_append, List.filter_eq_self.2 before, List.filter_eq_nil_iff.2, List.append_nil]
    intro b hb
    rw [after b hb]
    exact Bool.false_ne_true
  have seconds : (first ++ second).filter (le a ·) = second := by
    rw [List.filter_append, List.filter_eq_self.2 after, List.filter_eq_nil_iff.2, List.nil_append]
    intro b hb
    rw [Bool.not_eq_true, ← Bool.not_eq_true']
    exact before b hb
  rw [whole, rest, firsts, seconds]
  exact ⟨rfl, rfl⟩

/-- Elements that are left out before sorting are left out of the sorted list. -/
theorem mergeSort_sublist (order : WeakOrder le) {as bs : List α} (within : as.Sublist bs) :
    (as.mergeSort le).Sublist (bs.mergeSort le) := by
  induction within with
  | slnil => exact List.Sublist.refl _
  | @cons as bs b _ ih =>
      obtain ⟨whole, rest⟩ := order.mergeSort_cons_filter b bs
      have more := (List.Sublist.refl ((bs.mergeSort le).filter (!le b ·))).append
        (List.sublist_cons_self b ((bs.mergeSort le).filter (le b ·)))
      rw [← rest, ← whole] at more
      exact ih.trans more
  | @cons_cons as bs a _ ih =>
      rw [(order.mergeSort_cons_filter a as).1, (order.mergeSort_cons_filter a bs).1]
      exact (ih.filter _).append ((ih.filter _).cons_cons a)

end WeakOrder

/-! ## The order of diagnostics -/

namespace Diagnostic

theorem le_iff {a b : Diagnostic} : le a b = true ↔
    a.filePath < b.filePath ∨ a.filePath = b.filePath ∧
      (a.line < b.line ∨ a.line = b.line ∧ a.column ≤ b.column) := by
  rw [le]
  by_cases file : a.filePath = b.filePath
  · by_cases line : a.line = b.line
    · simp [file, line]
    · simp [file, line]
  · simp [file]

theorem le_total (a b : Diagnostic) : (le a b || le b a) = true := by
  rw [Bool.or_eq_true, le_iff, le_iff]
  by_cases before : a.filePath < b.filePath
  · exact .inl (.inl before)
  by_cases after : b.filePath < a.filePath
  · exact .inr (.inl after)
  have file : a.filePath = b.filePath :=
    String.le_antisymm (String.not_lt.1 after) (String.not_lt.1 before)
  have rows : (a.line < b.line ∨ a.line = b.line ∧ a.column ≤ b.column) ∨
      (b.line < a.line ∨ b.line = a.line ∧ b.column ≤ a.column) := by omega
  rcases rows with rows | rows
  · exact .inl (.inr ⟨file, rows⟩)
  · exact .inr (.inr ⟨file.symm, rows⟩)

theorem le_trans {a b c : Diagnostic} (hab : le a b = true) (hbc : le b c = true) :
    le a c = true := by
  rw [le_iff] at hab hbc ⊢
  rcases hab with before | ⟨file, rows⟩
  · rcases hbc with before' | ⟨file', -⟩
    · exact .inl (String.lt_trans before before')
    · exact .inl (file' ▸ before)
  · rcases hbc with before' | ⟨file', rows'⟩
    · exact .inl (file ▸ before')
    · exact .inr ⟨file.trans file', by omega⟩

/-- Diagnostics at one position tie. -/
theorem weakOrder : WeakOrder le :=
  ⟨fun _ _ _ => le_trans, le_total⟩

/-- Tied diagnostics are of one file. -/
theorem filePath_eq_of_tied {a b : Diagnostic} (tie : tied le a b = true) :
    a.filePath = b.filePath := by
  obtain ⟨forth, back⟩ := tied_iff.1 tie
  rw [le_iff] at forth back
  rcases forth with before | ⟨file, -⟩
  · rcases back with after | ⟨file, -⟩
    · exact absurd (String.lt_trans before after) (String.lt_irrefl _)
    · exact file.symm
  · exact file

/-- Diagnostics tie exactly if they are at the same position. -/
theorem tied_iff_position {a b : Diagnostic} : tied le a b = true ↔
    b.filePath = a.filePath ∧ b.line = a.line ∧ b.column = a.column := by
  constructor
  · intro tie
    have file := filePath_eq_of_tied tie
    obtain ⟨forth, back⟩ := tied_iff.1 tie
    rw [le_iff] at forth back
    have irrefl := String.lt_irrefl b.filePath
    rw [file] at forth back
    simp only [irrefl, false_or, true_and] at forth back
    exact ⟨file.symm, by omega, by omega⟩
  · rintro ⟨file, line, column⟩
    rw [tied_iff, le_iff, le_iff]
    exact ⟨.inr ⟨file.symm, .inr ⟨line.symm, Int.le_of_eq column.symm⟩⟩,
      .inr ⟨file, .inr ⟨line, Int.le_of_eq column⟩⟩⟩

/-- Only the sequence of diagnostics of each file shows when they are sorted. -/
theorem mergeSort_eq_of_files {as bs : List Diagnostic}
    (same : ∀ filePath, as.filter (·.filePath = filePath) = bs.filter (·.filePath = filePath)) :
    as.mergeSort le = bs.mergeSort le := by
  refine weakOrder.mergeSort_eq fun a => ?_
  have inside (l : List Diagnostic) : l.filter (tied le a) =
      (l.filter (·.filePath = a.filePath)).filter (tied le a) := by
    rw [List.filter_filter]
    refine List.filter_congr fun d _ => ?_
    cases tie : tied le a d with
    | false => rfl
    | true =>
        have file : d.filePath = a.filePath := (filePath_eq_of_tied tie).symm
        rw [decide_eq_true file, Bool.and_self]
  rw [inside as, inside bs, same]

end Diagnostic

end ModifierLint
