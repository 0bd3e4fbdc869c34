/-
# Walks, parents and ancestors

What the questions about a tree answer, said in terms of numbers of occurrences.  A walk comes to
the occurrences in the order of their numbers (`walkFrom_root`).  The ancestors of an occurrence are
the occurrences whose segments hold it, the nearest first (`mem_ancestorsFrom`,
`pairwise_ancestorsFrom`).

The links upwards may be written in any order.  `SourceTree.index` writes them from a stack that
gives back the last child first, which is not the order of a walk, and comes to the same links
(`index_perm`).
-/
import ModifierLint.Proofs.Tree.Segments

namespace ModifierLint

open Node

/-! ## Walks over occurrences -/

namespace Handle

theorem map_node_siblings (position : Option Nat) (ns : List Node) :
    (siblings position ns).map node = ns := by
  induction ns generalizing position with
  | nil => rfl
  | cons n ns ih =>
      rw [siblings, List.map_cons, ih]

theorem map_node_children (h : Handle) : h.children.map node = h.node.children :=
  map_node_siblings _ _

/-- The walk of `Node.walkFrom`, over occurrences in place of nodes. -/
def walkFrom : List Handle → List Handle
  | [] => []
  | h :: rest => h :: walkFrom (h.children ++ rest)
termination_by stack => sizes (stack.map node)
decreasing_by
  simp only [List.map_append, List.map_cons, map_node_children, sizes, sizes_append, size_eq h.node]
  omega

theorem map_node_walkFrom (stack : List Handle) :
    (walkFrom stack).map node = Node.walkFrom (stack.map node) := by
  induction stack using walkFrom.induct with
  | case1 =>
      rw [walkFrom, List.map_nil, Node.walkFrom]
  | case2 h rest ih =>
      rw [walkFrom, List.map_cons, ih, List.map_append, map_node_children, List.map_cons,
        Node.walkFrom]

mutual

/-- A walk comes to the nodes of a tree one after the other, and then to what is left. -/
theorem walkFrom_node (number : Nat) (rest : List Handle) : ∀ n : Node,
    walkFrom (⟨n, some number⟩ :: rest) = numbered number n.preorder ++ walkFrom rest
  | .mk kind span text children => by
      have below := walkFrom_nodes (number + 1) rest children
      rw [walkFrom, Node.preorder, numbered_cons, List.cons_append, ← below]
      rfl

theorem walkFrom_nodes (number : Nat) (rest : List Handle) : ∀ ns : List Node,
    walkFrom (siblings (some number) ns ++ rest) =
      numbered number (preorders ns) ++ walkFrom rest
  | [] => rfl
  | n :: ns => by
      have after := walkFrom_nodes (number + n.size) rest ns
      rw [siblings, List.cons_append, walkFrom_node, preorders, numbered_append, length_preorder,
        List.append_assoc, ← after]
      rfl

end

end Handle

/-! ## Links in another order -/

theorem Node.sizes_reverse (ns : List Node) : sizes ns.reverse = sizes ns := by
  induction ns with
  | nil => rfl
  | cons n ns ih =>
      rw [List.reverse_cons, sizes_append, ih, sizes, sizes, sizes, Nat.add_zero, Nat.add_comm]

namespace Handle

/-- The links that a stack leads to: an occurrence is taken off, its children are linked to it and
put on the stack, so that the last of them is taken off next. -/
def linksFrom : List Handle → List (Option Nat × Option Nat)
  | [] => []
  | h :: rest =>
    h.children.map (fun c => (c.position, h.position)) ++ linksFrom (h.children.reverse ++ rest)
termination_by stack => sizes (stack.map node)
decreasing_by
  simp only [List.map_append, List.map_reverse, List.map_cons, map_node_children, sizes,
    sizes_append, sizes_reverse, size_eq h.node]
  omega

end Handle

/-- The links of entries, the first of which has the number `number`. -/
def Entry.links (number : Nat) (es : List Entry) : List (Option Nat × Option Nat) :=
  (es.zipIdx number).map fun (e, i) => (some i, e.parent)

/-- The links of the entries below an occurrence. -/
def Entry.linksBelow (h : Handle) : List (Option Nat × Option Nat) :=
  h.position.elim [] fun i => links (i + 1) (ofNodes (i + 1) (some i) h.node.children)

theorem Entry.links_cons (number : Nat) (e : Entry) (es : List Entry) :
    links number (e :: es) = (some number, e.parent) :: links (number + 1) es := by
  simp [links]

theorem Entry.links_append (number : Nat) (es fs : List Entry) :
    links number (es ++ fs) = links number es ++ links (number + es.length) fs := by
  simp [links, List.zipIdx_append]

/-- The links of siblings and below them are the links of the siblings and, one sibling after the
other, the links below them. -/
theorem Entry.links_ofNodes (parent : Option Nat) (ns : List Node) : ∀ number,
    (links number (ofNodes number parent ns)).Perm
      ((Handle.siblings (some number) ns).map (fun c => (c.position, parent)) ++
        (Handle.siblings (some number) ns).flatMap linksBelow) := by
  induction ns with
  | nil =>
      intro number
      exact List.Perm.refl []
  | cons n ns ih =>
      intro number
      have after := ih (number + n.size)
      have below : links (number + 1) (ofNodes (number + 1) (some number) n.children) =
          linksBelow ⟨n, some number⟩ := rfl
      rw [ofNodes, links_append, length_ofNode, ofNode_eq, links_cons, below, List.cons_append,
        Handle.siblings, List.map_cons, List.flatMap_cons, List.cons_append]
      refine List.Perm.cons _ ((after.append_left _).trans ?_)
      rw [← List.append_assoc, ← List.append_assoc]
      exact List.perm_append_comm.append_right _

theorem Handle.position_of_mem_siblings {h : Handle} : ∀ {ns : List Node} {number : Nat},
    h ∈ siblings (some number) ns → ∃ i, h.position = some i
  | n :: ns, number, member => by
      rcases List.mem_cons.1 member with rfl | later
      · exact ⟨number, rfl⟩
      · exact position_of_mem_siblings later

/-- A stack of occurrences leads to the links below each of them. -/
theorem Handle.linksFrom_perm (stack : List Handle)
    (numbered : ∀ h ∈ stack, ∃ i, h.position = some i) :
    (linksFrom stack).Perm (stack.flatMap Entry.linksBelow) := by
  induction stack using linksFrom.induct with
  | case1 =>
      rw [linksFrom]
      exact List.Perm.refl []
  | case2 h rest ih =>
      obtain ⟨i, place⟩ := numbered h List.mem_cons_self
      have siblings_eq : h.children = siblings (some (i + 1)) h.node.children := by
        rw [children, place]
        rfl
      have above : ∀ c ∈ h.children.reverse ++ rest, ∃ k, c.position = some k := by
        intro c hc
        rcases List.mem_append.1 hc with child | later
        · rw [List.mem_reverse, siblings_eq] at child
          exact position_of_mem_siblings child
        · exact numbered c (List.mem_cons_of_mem _ later)
      have here : (Entry.linksBelow h).Perm
          (h.children.map (fun c => (c.position, h.position)) ++
            h.children.flatMap Entry.linksBelow) := by
        have below := Entry.links_ofNodes (some i) h.node.children (i + 1)
        rw [← siblings_eq] at below
        rw [Entry.linksBelow, place]
        exact below
      have reversed : (h.children.reverse.flatMap Entry.linksBelow).Perm
          (h.children.flatMap Entry.linksBelow) :=
        (List.reverse_perm h.children).flatMap_right _
      rw [linksFrom, List.flatMap_cons]
      refine ((ih above).append_left _).trans ?_
      rw [List.flatMap_append, ← List.append_assoc]
      exact ((reversed.append_left _).trans here.symm).append_right _

namespace SourceTree

variable {t : SourceTree}

/-- A walk over the occurrences of a tree comes to them in the order of their numbers. -/
theorem walkFrom_root (t : SourceTree) : Handle.walkFrom [t.rootHandle] = t.handles := by
  have whole := Handle.walkFrom_node 0 [] t.root
  rw [Handle.walkFrom, List.append_nil] at whole
  exact whole

theorem walk_eq (t : SourceTree) :
    t.walk = (Handle.walkFrom [t.rootHandle]).map Handle.node := by
  rw [Handle.map_node_walkFrom]
  rfl

theorem map_node_handles (t : SourceTree) : t.handles.map Handle.node = t.root.preorder := by
  rw [handles, Handle.numbered, List.map_map]
  exact List.zipIdx_map_fst 0 t.root.preorder

theorem size_eq_size (t : SourceTree) : t.size = t.root.size := by
  rw [size, ← Array.length_toList, entries_toList, Entry.length_ofNode]

/-- The occurrences are numbered one after the other. -/
theorem map_position_handles (t : SourceTree) :
    t.handles.map Handle.position = (List.range t.size).map some := by
  rw [handles, Handle.numbered, List.map_map, size_eq_size, ← length_preorder,
    List.range_eq_range', ← List.zipIdx_map_snd 0 t.root.preorder, List.map_map]
  rfl

/-- The index of a tree: each occurrence with its link upwards, written from a stack. -/
def index (t : SourceTree) : List (Option Nat × Option Nat) :=
  (t.rootHandle.position, none) :: Handle.linksFrom [t.rootHandle]

theorem index_perm (t : SourceTree) : t.index.Perm (Entry.links 0 t.entries.toList) := by
  have below := Handle.linksFrom_perm [t.rootHandle] (by
    intro h hh
    obtain rfl := List.mem_singleton.1 hh
    exact ⟨0, rfl⟩)
  rw [entries_toList, Entry.ofNode_eq, Entry.links_cons]
  refine List.Perm.cons _ (below.trans ?_)
  rw [List.flatMap_cons, List.flatMap_nil, List.append_nil]
  exact List.Perm.refl _

theorem nodup_index (t : SourceTree) : (t.index.map Prod.fst).Nodup := by
  rw [(t.index_perm.map Prod.fst).nodup_iff]
  have keys : (Entry.links 0 t.entries.toList).map Prod.fst =
      (List.range' 0 t.entries.toList.length).map some := by
    rw [Entry.links, List.map_map, ← List.zipIdx_map_snd 0 t.entries.toList, List.map_map]
    rfl
  rw [keys]
  exact List.Pairwise.map some (fun _ _ differ same => differ (Option.some.inj same))
    List.nodup_range'

theorem mem_index {i : Nat} {link : Option Nat} :
    (some i, link) ∈ t.index ↔ ∃ e, t.entries[i]? = some e ∧ e.parent = link := by
  rw [t.index_perm.mem_iff, Entry.links, List.mem_map]
  constructor
  · rintro ⟨⟨e, k⟩, member, same⟩
    cases same
    rw [List.mk_mem_zipIdx_iff_getElem?, Array.getElem?_toList] at member
    exact ⟨e, member, rfl⟩
  · rintro ⟨e, there, rfl⟩
    refine ⟨⟨e, i⟩, ?_, rfl⟩
    rw [List.mk_mem_zipIdx_iff_getElem?, Array.getElem?_toList]
    exact there

/-! ## Ancestors -/

/-- The way up from an occurrence starts with it and goes on along its link. -/
theorem ancestorsFrom_some {i : Nat} {e : Entry} (h : t.entries[i]? = some e) :
    t.ancestorsFrom (some i) = i :: t.ancestorsFrom e.parent := by
  rw [ancestorsFrom, h, Option.bind_some]
  cases link : e.parent with
  | none => rw [ancestorsFrom]
  | some j => simp only [if_pos (parent_lt h link)]

/-- The ancestors of an occurrence are the occurrences before it whose segments hold it. -/
theorem mem_ancestorsFrom {i : Nat} {e : Entry} (hi : t.entries[i]? = some e) {j : Nat} :
    j ∈ t.ancestorsFrom e.parent ↔
      ∃ f, t.entries[j]? = some f ∧ j < i ∧ i < j + f.node.size := by
  induction i using Nat.strongRecOn generalizing e with
  | ind i ih =>
      cases link : e.parent with
      | none =>
          rw [ancestorsFrom]
          constructor
          · intro member
            cases member
          · rintro ⟨f, hj, after, below⟩
            obtain ⟨k, up, -⟩ := parent_within hi hj after below
            rw [link] at up
            cases up
      | some p =>
          have before : p < i := parent_lt hi link
          obtain ⟨g, hp⟩ := exists_of_link hi link
          rw [ancestorsFrom_some hp, List.mem_cons, ih p before hp]
          constructor
          · rintro (rfl | ⟨f, hj, after, below⟩)
            · exact ⟨g, hp, before, lt_of_parent hi hp link⟩
            · have nested := segment_within hp hj (Nat.le_of_lt after) below
              have inside := lt_of_parent hi hp link
              exact ⟨f, hj, by omega, by omega⟩
          · rintro ⟨f, hj, after, below⟩
            obtain ⟨k, up', from_, -⟩ := parent_within hi hj after below
            obtain rfl := Option.some.inj (link.symm.trans up')
            rcases Nat.eq_or_lt_of_le from_ with rfl | beyond
            · exact .inl rfl
            · exact .inr ⟨f, hj, beyond, by omega⟩

theorem pairwise_ancestorsFrom {i : Nat} {e : Entry} (hi : t.entries[i]? = some e) :
    (t.ancestorsFrom e.parent).Pairwise (· > ·) := by
  induction i using Nat.strongRecOn generalizing e with
  | ind i ih =>
      cases link : e.parent with
      | none =>
          rw [ancestorsFrom]
          exact List.Pairwise.nil
      | some p =>
          have before : p < i := parent_lt hi link
          obtain ⟨g, hp⟩ := exists_of_link hi link
          rw [ancestorsFrom_some hp]
          refine List.Pairwise.cons ?_ (ih p before hp)
          intro j member
          obtain ⟨-, -, after, -⟩ := (mem_ancestorsFrom hp).1 member
          exact after

/-- The way up from an occurrence below the root ends at the root. -/
theorem getLast?_ancestorsFrom {i : Nat} {e : Entry} (hi : t.entries[i]? = some e) (below : i ≠ 0) :
    (t.ancestorsFrom e.parent).getLast? = some 0 := by
  induction i using Nat.strongRecOn generalizing e with
  | ind i ih =>
      obtain ⟨p, g, link, hp⟩ := exists_parent hi below
      rw [link, ancestorsFrom_some hp, List.getLast?_cons]
      by_cases top : p = 0
      · subst top
        obtain rfl := Option.some.inj (hp.symm.trans t.entries_zero)
        rw [ancestorsFrom]
        rfl
      · rw [ih p (parent_lt hi link) hp top]
        rfl

/-! ## Answers about handles -/

theorem parent_of_entry {i : Nat} {e : Entry} (hi : t.entries[i]? = some e) :
    t.parent ⟨e.node, some i⟩ = .ok e.parent := by
  rw [parent, entry_of_handle rfl hi]
  rfl

theorem ancestors_of_entry {i : Nat} {e : Entry} (hi : t.entries[i]? = some e) :
    t.ancestors ⟨e.node, some i⟩ = .ok (t.ancestorsFrom e.parent) := by
  rw [ancestors, parent_of_entry hi]
  rfl

/-- A node that is no occurrence has no entry. -/
theorem entry_of_foreign {h : Handle} (foreign : ∀ i, h.position = some i → t.size ≤ i) :
    t.entry h =
      .error ⟨h.node.kind, h.node.span.startLine, h.node.span.startColumn, t.filePath⟩ := by
  have absent : h.position.bind (fun i => t.entries[i]?) = none := by
    cases place : h.position with
    | none => rfl
    | some i => exact Array.getElem?_eq_none (foreign i place)
  rw [entry, absent]

theorem contains_of_entry {i : Nat} {e : Entry} (hi : t.entries[i]? = some e) :
    t.contains ⟨e.node, some i⟩ = true := by
  obtain ⟨inside, -⟩ := Array.getElem?_eq_some_iff.1 hi
  exact decide_eq_true inside

theorem contains_of_foreign {h : Handle} (foreign : ∀ i, h.position = some i → t.size ≤ i) :
    t.contains h = false := by
  rw [contains]
  cases place : h.position with
  | none => rfl
  | some i => exact decide_eq_false (Nat.not_lt.2 (foreign i place))

/-- The parent of an occurrence below the root is the only occurrence that it is a child of. -/
theorem parent_unique {i : Nat} {e : Entry} (hi : t.entries[i]? = some e) (below : i ≠ 0) :
    ∃ j p, t.handle? j = some p ∧ t.parent ⟨e.node, some i⟩ = .ok (some j) ∧
      (⟨e.node, some i⟩ : Handle) ∈ p.children ∧
      ∀ k q, t.handle? k = some q → (⟨e.node, some i⟩ : Handle) ∈ q.children → k = j := by
  obtain ⟨j, f, link, hj⟩ := exists_parent hi below
  refine ⟨j, ⟨f.node, some j⟩, handle?_eq_some.2 ⟨f, hj, rfl⟩, ?_, ?_, ?_⟩
  · rw [parent_of_entry hi, link]
  · rw [mem_children_iff hj]
    exact ⟨i, rfl, by rw [hi, ← link]⟩
  · intro k q hq child
    obtain ⟨g, hk, rfl⟩ := handle?_eq_some.1 hq
    obtain ⟨i', same, there⟩ := (mem_children_iff hk).1 child
    obtain rfl : i = i' := Option.some.inj (congrArg Handle.position same)
    have up := congrArg Entry.parent (Option.some.inj (hi.symm.trans there))
    exact Option.some.inj (up.symm.trans link)

/-- What the questions about a tree answer.

A walk comes to every occurrence once, in the order of the numbers, which is the pre-order of the
nodes.  The root has no parent, and any other occurrence has for its parent the only occurrence that
it is a child of.  The ancestors of an occurrence are those whose subtrees hold it, the nearest
first and the root last.  A node that is no occurrence does not belong to the tree, whatever its
value, and has neither parent nor ancestors. -/
theorem walk_parent_ancestors (t : SourceTree) :
    (t.walk = t.root.preorder ∧ t.walk = (Handle.walkFrom [t.rootHandle]).map Handle.node ∧
      Handle.walkFrom [t.rootHandle] = t.handles ∧
      t.handles.map Handle.position = (List.range t.size).map some) ∧
    t.size = t.root.size ∧
    t.parent t.rootHandle = .ok none ∧
    (∀ i h, t.handle? i = some h → i ≠ 0 →
      ∃ j p, t.handle? j = some p ∧ t.parent h = .ok (some j) ∧ h ∈ p.children ∧
        ∀ k q, t.handle? k = some q → h ∈ q.children → k = j) ∧
    (∀ i h, t.handle? i = some h →
      ∃ js, t.ancestors h = .ok js ∧ js.Pairwise (· > ·) ∧
        (∀ j, j ∈ js ↔ ∃ p, t.handle? j = some p ∧ j < i ∧ i < j + p.node.size) ∧
        (i ≠ 0 → js.getLast? = some 0)) ∧
    ((t.index.map Prod.fst).Nodup ∧
      ∀ i link, (some i, link) ∈ t.index ↔ ∃ h, t.handle? i = some h ∧ t.parent h = .ok link) ∧
    (∀ i h, t.handle? i = some h → t.contains h = true) ∧
    ∀ h, (∀ i, h.position = some i → t.size ≤ i) →
      t.contains h = false ∧
      ∃ e : NotInTree,
        e = ⟨h.node.kind, h.node.span.startLine, h.node.span.startColumn, t.filePath⟩ ∧
        t.parent h = .error e ∧ t.ancestors h = .error e := by
  refine ⟨⟨?_, t.walk_eq, t.walkFrom_root, t.map_position_handles⟩, t.size_eq_size,
    parent_of_entry t.entries_zero, ?_, ?_, ⟨t.nodup_index, ?_⟩, ?_, ?_⟩
  · rw [walk_eq, walkFrom_root, map_node_handles]
  · intro i h hh below
    obtain ⟨e, hi, rfl⟩ := handle?_eq_some.1 hh
    exact parent_unique hi below
  · intro i h hh
    obtain ⟨e, hi, rfl⟩ := handle?_eq_some.1 hh
    refine ⟨_, ancestors_of_entry hi, pairwise_ancestorsFrom hi, ?_, getLast?_ancestorsFrom hi⟩
    intro j
    rw [mem_ancestorsFrom hi]
    constructor
    · rintro ⟨f, hj, after, inside⟩
      exact ⟨⟨f.node, some j⟩, handle?_eq_some.2 ⟨f, hj, rfl⟩, after, inside⟩
    · rintro ⟨p, hp, after, inside⟩
      obtain ⟨f, hj, rfl⟩ := handle?_eq_some.1 hp
      exact ⟨f, hj, after, inside⟩
  · intro i link
    rw [mem_index]
    constructor
    · rintro ⟨e, hi, rfl⟩
      exact ⟨⟨e.node, some i⟩, handle?_eq_some.2 ⟨e, hi, rfl⟩, parent_of_entry hi⟩
    · rintro ⟨h, hh, up⟩
      obtain ⟨e, hi, rfl⟩ := handle?_eq_some.1 hh
      rw [parent_of_entry hi] at up
      exact ⟨e, hi, Except.ok.inj up⟩
  · intro i h hh
    obtain ⟨e, hi, rfl⟩ := handle?_eq_some.1 hh
    exact contains_of_entry hi
  · intro h foreign
    refine ⟨contains_of_foreign foreign, _, rfl, ?_, ?_⟩
    · rw [parent, entry_of_foreign foreign]
      rfl
    · rw [ancestors, parent, entry_of_foreign foreign]
      rfl

end SourceTree

end ModifierLint
