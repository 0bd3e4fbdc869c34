/-
# Subtrees as segments

In pre-order the occurrences of a subtree follow one another: the subtree of the occurrence `j`, of
`size` nodes, holds exactly the numbers from `j` up to `j + size`.  `hasAt_of_entry` says so of the
entries of a tree, and three facts about numbers come out of it:

* a parent's segment holds its children (`lt_of_parent`);
* segments are nested or apart (`segment_within`);
* an occurrence inside a segment has its parent in the segment, unless it is the first
  (`parent_within`).

Upward links and children agree: an occurrence is among the children of another if and only if its
link leads there (`mem_children_iff`).
-/
import ModifierLint.Proofs.Tree.Numbering

namespace ModifierLint

open Node

namespace Entry

/-! ## Entries of a subtree -/

mutual

/-- The entries of the subtree of an entry stand at the entry, in order. -/
theorem segment_ofNode {number : Nat} {parent : Option Nat} :
    ∀ {n : Node} {m : Nat} {e : Entry}, (ofNode number parent n)[m]? = some e →
      ∀ {i : Nat} {f : Entry}, (ofNode (number + m) e.parent e.node)[i]? = some f →
        (ofNode number parent n)[m + i]? = some f
  | n, 0, e, h, i, f, hf => by
      rw [ofNode_eq, List.getElem?_cons_zero] at h
      obtain rfl := Option.some.inj h
      rw [Nat.zero_add]
      exact hf
  | .mk kind span text children, m + 1, e, h, i, f, hf => by
      rw [ofNode_eq, List.getElem?_cons_succ] at h
      have below : (ofNodes (number + 1) (some number) children)[m]? = some e := h
      rw [Nat.add_right_comm, ofNode_eq, List.getElem?_cons_succ]
      have inside : (ofNode (number + 1 + m) e.parent e.node)[i]? = some f := by
        rw [Nat.add_assoc, Nat.add_comm 1 m]
        exact hf
      exact segment_ofNodes below inside

theorem segment_ofNodes {number : Nat} {parent : Option Nat} :
    ∀ {ns : List Node} {m : Nat} {e : Entry}, (ofNodes number parent ns)[m]? = some e →
      ∀ {i : Nat} {f : Entry}, (ofNode (number + m) e.parent e.node)[i]? = some f →
        (ofNodes number parent ns)[m + i]? = some f
  | [], m, e, h, i, f, hf => by
      rw [ofNodes, List.getElem?_nil] at h
      cases h
  | n :: ns, m, e, h, i, f, hf => by
      rw [ofNodes] at h ⊢
      by_cases first : m < n.size
      · rw [List.getElem?_append_left (by rw [length_ofNode]; exact first)] at h
        have here := segment_ofNode h hf
        obtain ⟨inside, -⟩ := List.getElem?_eq_some_iff.1 here
        rw [List.getElem?_append_left inside]
        exact here
      · obtain ⟨k, rfl⟩ := Nat.exists_eq_add_of_le (Nat.le_of_not_lt first)
        rw [List.getElem?_append_right (by rw [length_ofNode]; exact Nat.le_add_right _ _),
          length_ofNode, Nat.add_sub_cancel_left] at h
        have there : (ofNode (number + n.size + k) e.parent e.node)[i]? = some f := by
          rw [Nat.add_assoc]
          exact hf
        rw [Nat.add_assoc, List.getElem?_append_right
          (by rw [length_ofNode]; exact Nat.le_add_right _ _), length_ofNode,
          Nat.add_sub_cancel_left]
        exact segment_ofNodes h there

end

mutual

/-- An entry below the root of a tree has its parent in the tree, as one of the children of this
parent. -/
theorem up_ofNode {number : Nat} {parent : Option Nat} :
    ∀ {n : Node} {m : Nat} {e : Entry}, (ofNode number parent n)[m + 1]? = some e →
      ∃ j f, j ≤ m ∧ (ofNode number parent n)[j]? = some f ∧ e.parent = some (number + j) ∧
        (⟨e.node, some (number + (m + 1))⟩ : Handle) ∈
          Handle.children ⟨f.node, some (number + j)⟩
  | .mk kind span text children, m, e, h => by
      rw [ofNode_eq, List.getElem?_cons_succ] at h
      have below : (ofNodes (number + 1) (some number) children)[m]? = some e := h
      have shift (k : Nat) : number + 1 + k = number + (k + 1) := Nat.add_right_comm number 1 k
      rcases up_ofNodes below with ⟨link, child⟩ | ⟨j, f, before, there, link, child⟩
      · refine ⟨0, ⟨.mk kind span text children, parent⟩, Nat.zero_le m, ?_, link, ?_⟩
        · rw [ofNode_eq, List.getElem?_cons_zero]
        · rw [shift] at child
          exact child
      · refine ⟨j + 1, f, before, ?_, ?_, ?_⟩
        · rw [ofNode_eq, List.getElem?_cons_succ]
          exact there
        · rw [link, shift]
        · rw [shift, shift] at child
          exact child

theorem up_ofNodes {number : Nat} {parent : Option Nat} :
    ∀ {ns : List Node} {m : Nat} {e : Entry}, (ofNodes number parent ns)[m]? = some e →
      (e.parent = parent ∧
        (⟨e.node, some (number + m)⟩ : Handle) ∈ Handle.siblings (some number) ns) ∨
      ∃ j f, j < m ∧ (ofNodes number parent ns)[j]? = some f ∧ e.parent = some (number + j) ∧
        (⟨e.node, some (number + m)⟩ : Handle) ∈ Handle.children ⟨f.node, some (number + j)⟩
  | [], m, e, h => by
      rw [ofNodes, List.getElem?_nil] at h
      cases h
  | n :: ns, 0, e, h => by
      rw [ofNodes, ofNode_eq, List.cons_append, List.getElem?_cons_zero] at h
      obtain rfl := Option.some.inj h
      exact .inl ⟨rfl, List.mem_cons_self⟩
  | n :: ns, m + 1, e, h => by
      rw [ofNodes] at h ⊢
      by_cases first : m + 1 < n.size
      · rw [List.getElem?_append_left (by rw [length_ofNode]; exact first)] at h
        obtain ⟨j, f, before, there, link, child⟩ := up_ofNode h
        obtain ⟨inside, -⟩ := List.getElem?_eq_some_iff.1 there
        refine .inr ⟨j, f, Nat.lt_succ_of_le before, ?_, link, child⟩
        rw [List.getElem?_append_left inside]
        exact there
      · obtain ⟨k, hk⟩ := Nat.exists_eq_add_of_le (Nat.le_of_not_lt first)
        rw [hk] at h ⊢
        rw [List.getElem?_append_right (by rw [length_ofNode]; exact Nat.le_add_right _ _),
          length_ofNode, Nat.add_sub_cancel_left] at h
        rw [← Nat.add_assoc]
        rcases up_ofNodes h with ⟨link, child⟩ | ⟨j, f, before, there, link, child⟩
        · exact .inl ⟨link, List.mem_cons_of_mem _ child⟩
        · refine .inr ⟨n.size + j, f, Nat.add_lt_add_left before _, ?_, ?_, ?_⟩
          · rw [List.getElem?_append_right (by rw [length_ofNode]; exact Nat.le_add_right _ _),
              length_ofNode, Nat.add_sub_cancel_left]
            exact there
          · rw [link, Nat.add_assoc]
          · rw [← Nat.add_assoc]
            exact child

end

end Entry

namespace SourceTree

variable {t : SourceTree}

theorem getElem?_entries (t : SourceTree) (i : Nat) :
    t.entries[i]? = (Entry.ofNode 0 none t.root)[i]? := by
  rw [← entries_toList, Array.getElem?_toList]

/-- Around an occurrence stand the entries of its subtree. -/
theorem hasAt_of_entry {i : Nat} {e : Entry} (h : t.entries[i]? = some e) :
    t.HasAt i (Entry.ofNode i e.parent e.node) := by
  intro m f hf
  rw [getElem?_entries] at h ⊢
  refine Entry.segment_ofNode h ?_
  rw [Nat.zero_add]
  exact hf

/-- The segment of an occurrence within that of another one ends within it. -/
theorem segment_within {i j : Nat} {e f : Entry} (hi : t.entries[i]? = some e)
    (hj : t.entries[j]? = some f) (from_ : j ≤ i) (below : i < j + f.node.size) :
    i + e.node.size ≤ j + f.node.size := by
  obtain ⟨m, rfl⟩ := Nat.exists_eq_add_of_le from_
  have inside : m < (Entry.ofNode j f.parent f.node).length := by
    rw [Entry.length_ofNode]
    omega
  have here := hasAt_of_entry hj m _ (List.getElem?_eq_getElem inside)
  rw [hi] at here
  have there : (Entry.ofNode j f.parent f.node)[m]? = some e := by
    rw [List.getElem?_eq_getElem inside, ← here]
  -- the last entry of the inner segment is an entry of the outer one
  have last : e.node.size - 1 < (Entry.ofNode (j + m) e.parent e.node).length := by
    rw [Entry.length_ofNode, size_eq]
    omega
  have end_ := Entry.segment_ofNode there (List.getElem?_eq_getElem last)
  obtain ⟨bound, -⟩ := List.getElem?_eq_some_iff.1 end_
  rw [Entry.length_ofNode] at bound
  omega

/-- An occurrence in the segment of another one, but not that one itself, has a parent there. -/
theorem parent_within {i j : Nat} {e f : Entry} (hi : t.entries[i]? = some e)
    (hj : t.entries[j]? = some f) (after : j < i) (below : i < j + f.node.size) :
    ∃ k, e.parent = some k ∧ j ≤ k ∧ k < i := by
  obtain ⟨m, rfl⟩ := Nat.exists_eq_add_of_lt after
  have inside : m + 1 < (Entry.ofNode j f.parent f.node).length := by
    rw [Entry.length_ofNode]
    omega
  have here := hasAt_of_entry hj (m + 1) _ (List.getElem?_eq_getElem inside)
  rw [← Nat.add_assoc, hi] at here
  have there : (Entry.ofNode j f.parent f.node)[m + 1]? = some e := by
    rw [List.getElem?_eq_getElem inside, ← here]
  obtain ⟨k, -, before, -, link, -⟩ := Entry.up_ofNode there
  exact ⟨j + k, link, Nat.le_add_right j k, by omega⟩

/-! ## Children -/

/-- Handles of siblings are occurrences, with the link and within the segment of the siblings. -/
theorem of_mem_siblings {parent : Option Nat} {h : Handle} : ∀ {ns : List Node} {number : Nat},
    t.HasAt number (Entry.ofNodes number parent ns) → h ∈ Handle.siblings (some number) ns →
      ∃ i, h = ⟨h.node, some i⟩ ∧ number ≤ i ∧ i < number + sizes ns ∧
        t.entries[i]? = some ⟨h.node, parent⟩
  | [], number, _, member => by
      cases member
  | n :: ns, number, has, member => by
      rw [Entry.ofNodes] at has
      have size := size_eq n
      rcases List.mem_cons.1 member with rfl | later
      · have head := has.left
        rw [Entry.ofNode_eq] at head
        exact ⟨number, rfl, Nat.le_refl _, by rw [sizes]; omega, head.head⟩
      · have rest := has.right
        rw [Entry.length_ofNode] at rest
        obtain ⟨i, same, from_, below, there⟩ := of_mem_siblings rest later
        exact ⟨i, same, by omega, by rw [sizes]; omega, there⟩

theorem handle?_eq_some {i : Nat} {h : Handle} : t.handle? i = some h ↔
    ∃ e, t.entries[i]? = some e ∧ h = ⟨e.node, some i⟩ := by
  rw [handle?, Option.map_eq_some_iff]
  constructor
  · rintro ⟨e, there, rfl⟩
    exact ⟨e, there, rfl⟩
  · rintro ⟨e, there, rfl⟩
    exact ⟨e, there, rfl⟩

/-- An occurrence stands once among the occurrences of its tree. -/
theorem split_handles {i : Nat} {h : Handle} (there : t.handle? i = some h) :
    ∃ before after, t.handles = before ++ h :: after ∧ h.position = some i ∧
      ∀ g ∈ before ++ after, g.position ≠ some i := by
  have numbered {j : Nat} {g : Handle} (found : t.handles[j]? = some g) : g.position = some j := by
    rw [getElem?_handles] at found
    obtain ⟨e, -, rfl⟩ := handle?_eq_some.1 found
    rfl
  rw [← getElem?_handles] at there
  obtain ⟨inside, here⟩ := List.getElem?_eq_some_iff.1 there
  refine ⟨t.handles.take i, t.handles.drop (i + 1), ?_, numbered there, ?_⟩
  · rw [← here, List.getElem_cons_drop, List.take_append_drop]
  · intro g member position
    rcases List.mem_append.1 member with earlier | later
    · obtain ⟨j, found⟩ := List.mem_iff_getElem?.1 earlier
      rw [List.getElem?_take] at found
      split at found
      · next before =>
          have same := Option.some.inj ((numbered found).symm.trans position)
          omega
      · cases found
    · obtain ⟨j, found⟩ := List.mem_iff_getElem?.1 later
      rw [List.getElem?_drop] at found
      have same := Option.some.inj ((numbered found).symm.trans position)
      omega

/-- The children of an occurrence are the occurrences whose links lead to it. -/
theorem mem_children_iff {j : Nat} {f : Entry} (hj : t.entries[j]? = some f) {h : Handle} :
    h ∈ Handle.children ⟨f.node, some j⟩ ↔
      ∃ i, h = ⟨h.node, some i⟩ ∧ t.entries[i]? = some ⟨h.node, some j⟩ := by
  constructor
  · intro member
    have below := hasAt_of_entry hj
    rw [Entry.ofNode_eq] at below
    obtain ⟨i, same, -, -, there⟩ := of_mem_siblings below.tail member
    exact ⟨i, same, there⟩
  · rintro ⟨i, same, there⟩
    cases i with
    | zero =>
        rw [getElem?_entries, Entry.ofNode_eq, List.getElem?_cons_zero] at there
        cases congrArg Entry.parent (Option.some.inj there)
    | succ m =>
        rw [getElem?_entries] at there hj
        obtain ⟨k, g, -, up, link, child⟩ := Entry.up_ofNode there
        simp only [Nat.zero_add] at link child
        obtain rfl := Option.some.inj link
        obtain rfl := Option.some.inj (hj.symm.trans up)
        rw [same]
        exact child

/-- The segment of a parent holds its children. -/
theorem lt_of_parent {i j : Nat} {e f : Entry} (hi : t.entries[i]? = some e)
    (hj : t.entries[j]? = some f) (link : e.parent = some j) : i < j + f.node.size := by
  have child : (⟨e.node, some i⟩ : Handle) ∈ Handle.children ⟨f.node, some j⟩ := by
    rw [mem_children_iff hj]
    exact ⟨i, rfl, by rw [hi, ← link]⟩
  have below := hasAt_of_entry hj
  rw [Entry.ofNode_eq] at below
  obtain ⟨k, same, -, end_, -⟩ := of_mem_siblings below.tail child
  obtain rfl : i = k := Option.some.inj (congrArg Handle.position same)
  rw [size_eq]
  omega

/-- Every occurrence but the root has a parent. -/
theorem exists_parent {i : Nat} {e : Entry} (hi : t.entries[i]? = some e) (below : i ≠ 0) :
    ∃ j f, e.parent = some j ∧ t.entries[j]? = some f := by
  obtain ⟨m, rfl⟩ := Nat.exists_eq_succ_of_ne_zero below
  rw [getElem?_entries] at hi
  obtain ⟨j, f, -, there, link, -⟩ := Entry.up_ofNode hi
  rw [Nat.zero_add] at link
  exact ⟨j, f, link, by rw [getElem?_entries, there]⟩

/-- A link leads to an occurrence. -/
theorem exists_of_link {i j : Nat} {e : Entry} (hi : t.entries[i]? = some e)
    (link : e.parent = some j) : ∃ f, t.entries[j]? = some f := by
  have below : i ≠ 0 := Nat.ne_of_gt (Nat.zero_lt_of_lt (parent_lt hi link))
  obtain ⟨k, f, up, there⟩ := exists_parent hi below
  obtain rfl := Option.some.inj (link.symm.trans up)
  exact ⟨f, there⟩

/-- The root has the number zero and no parent. -/
theorem entries_zero (t : SourceTree) : t.entries[0]? = some ⟨t.root, none⟩ := by
  rw [getElem?_entries, Entry.ofNode_eq, List.getElem?_cons_zero]

end SourceTree

end ModifierLint
