/-
# Occurrences in pre-order

A `SourceTree` numbers the occurrences of nodes in the order in which a stack machine takes them
off.  Here the same list is written as a recursion on the tree, `Entry.ofNode`, and the two are
shown to be equal (`Entry.ofRoot_eq`).  From the recursion follow the facts that upward questions
rest on:

* the entries of a tree are its nodes in pre-order (`Entry.map_node_ofNode`);
* the parent of an occurrence has a smaller number (`SourceTree.parent_lt`);
* a link upwards leads past a node or stops at it (`SourceTree.nearestFrom_some`), so a nearest
  ancestor is found as an inherited attribute would be.
-/
import ModifierLint.Tree.SourceTree

namespace ModifierLint

namespace Node

mutual

theorem length_preorder : ∀ n : Node, n.preorder.length = n.size
  | .mk kind span text children => by
      rw [preorder, List.length_cons, length_preorders, size]

theorem length_preorders : ∀ ns : List Node, (preorders ns).length = sizes ns
  | [] => rfl
  | n :: ns => by
      rw [preorders, List.length_append, length_preorder, length_preorders, sizes]

end

end Node

open Node

namespace Entry

mutual

/-- The entries of a tree whose root has the number `number` and a link to `parent`. -/
def ofNode (number : Nat) (parent : Option Nat) : Node → List Entry
  | n@(.mk _ _ _ children) => ⟨n, parent⟩ :: ofNodes (number + 1) (some number) children

/-- The entries of siblings with a link to `parent`, the first of which has the number `number`. -/
def ofNodes (number : Nat) (parent : Option Nat) : List Node → List Entry
  | [] => []
  | n :: rest => ofNode number parent n ++ ofNodes (number + n.size) parent rest

end

theorem ofNode_eq (number : Nat) (parent : Option Nat) (n : Node) :
    ofNode number parent n = ⟨n, parent⟩ :: ofNodes (number + 1) (some number) n.children := by
  cases n; rw [ofNode, children]

/-! ## The stack machine numbers in pre-order

A stack holds siblings on top of what was there before.  The machine has written the entries of
the siblings and of everything below them when the rest of the stack comes up again. -/

mutual

theorem ofStack_node (number : Nat) (parent : Option Nat) (rest : List (Node × Option Nat)) :
    ∀ n : Node, ofStack number ((n, parent) :: rest) =
      ofNode number parent n ++ ofStack (number + n.size) rest
  | .mk kind span text children => by
      have below := ofStack_nodes (number + 1) (some number) rest children
      rw [ofStack, ofNode_eq, List.cons_append]
      simp only [Node.children, size, below]
      rw [Nat.add_right_comm, Nat.add_assoc]

theorem ofStack_nodes (number : Nat) (parent : Option Nat) (rest : List (Node × Option Nat)) :
    ∀ ns : List Node, ofStack number (ns.map (·, parent) ++ rest) =
      ofNodes number parent ns ++ ofStack (number + sizes ns) rest
  | [] => rfl
  | n :: ns => by
      have here := ofStack_node number parent (ns.map (·, parent) ++ rest) n
      have after := ofStack_nodes (number + n.size) parent rest ns
      rw [List.map_cons, List.cons_append, here, after, ofNodes, sizes, List.append_assoc,
        Nat.add_assoc]

end

/-- The entries of a tree are those of the recursion. -/
theorem ofRoot_eq (root : Node) : ofRoot root = ofNode 0 none root := by
  have := ofStack_node 0 none [] root
  rw [ofRoot, this, ofStack, List.append_nil]

/-! ## What the entries hold -/

mutual

theorem map_node_ofNode (number : Nat) (parent : Option Nat) :
    ∀ n : Node, (ofNode number parent n).map Entry.node = n.preorder
  | .mk kind span text children => by
      rw [ofNode_eq, List.map_cons, Node.children, preorder, map_node_ofNodes]

theorem map_node_ofNodes (number : Nat) (parent : Option Nat) :
    ∀ ns : List Node, (ofNodes number parent ns).map Entry.node = preorders ns
  | [] => rfl
  | n :: ns => by
      rw [ofNodes, List.map_append, map_node_ofNode, map_node_ofNodes, preorders]

end

theorem length_ofNode (number : Nat) (parent : Option Nat) (n : Node) :
    (ofNode number parent n).length = n.size := by
  rw [← List.length_map Entry.node, map_node_ofNode, length_preorder]

mutual

/-- A link leads to the parent that was given, or to an occurrence before the entry. -/
theorem parent_ofNode {number : Nat} {parent : Option Nat} :
    ∀ {n : Node} {i : Nat} {e : Entry}, (ofNode number parent n)[i]? = some e →
      e.parent = parent ∨ ∃ j, e.parent = some j ∧ j < number + i
  | .mk .., 0, e, h => by
      rw [ofNode_eq, List.getElem?_cons_zero] at h
      obtain rfl := Option.some.inj h
      exact Or.inl rfl
  | .mk kind span text children, i + 1, e, h => by
      rw [ofNode_eq, List.getElem?_cons_succ] at h
      have below : (ofNodes (number + 1) (some number) children)[i]? = some e := h
      rcases parent_ofNodes below with link | ⟨j, link, before⟩
      · exact Or.inr ⟨number, link, by omega⟩
      · exact Or.inr ⟨j, link, by omega⟩

theorem parent_ofNodes {number : Nat} {parent : Option Nat} :
    ∀ {ns : List Node} {i : Nat} {e : Entry}, (ofNodes number parent ns)[i]? = some e →
      e.parent = parent ∨ ∃ j, e.parent = some j ∧ j < number + i
  | [], i, e, h => by
      rw [ofNodes, List.getElem?_nil] at h
      cases h
  | n :: ns, i, e, h => by
      rw [ofNodes, List.getElem?_append, length_ofNode] at h
      split at h
      · exact parent_ofNode h
      · rcases parent_ofNodes h with link | ⟨j, link, before⟩
        · exact Or.inl link
        · exact Or.inr ⟨j, link, by omega⟩

end

end Entry

/-! ## Handles of occurrences -/

/-- Handles of nodes that follow one another in pre-order, the first with the number `number`. -/
def Handle.numbered (number : Nat) (ns : List Node) : List Handle :=
  (ns.zipIdx number).map fun (n, i) => ⟨n, some i⟩

theorem Handle.numbered_cons (number : Nat) (n : Node) (ns : List Node) :
    numbered number (n :: ns) = ⟨n, some number⟩ :: numbered (number + 1) ns := by
  simp [numbered]

theorem Handle.numbered_append (number : Nat) (ms ns : List Node) :
    numbered number (ms ++ ns) = numbered number ms ++ numbered (number + ms.length) ns := by
  simp [numbered, List.zipIdx_append]

namespace SourceTree

variable {t : SourceTree}

theorem entries_toList (t : SourceTree) : t.entries.toList = Entry.ofNode 0 none t.root := by
  rw [t.entries_eq, Entry.ofRoot_eq]

/-- The occurrences of the tree, in pre-order. -/
def handles (t : SourceTree) : List Handle :=
  Handle.numbered 0 t.root.preorder

theorem getElem?_handles (t : SourceTree) (i : Nat) : t.handles[i]? = t.handle? i := by
  have entry : t.entries[i]? = (Entry.ofNode 0 none t.root)[i]? := by
    rw [← entries_toList, Array.getElem?_toList]
  simp only [handles, Handle.numbered, handle?, entry, ← Entry.map_node_ofNode 0 none,
    List.getElem?_map, List.getElem?_zipIdx, Nat.zero_add, Option.map_map]
  rfl

theorem mem_handles {h : Handle} : h ∈ t.handles ↔ ∃ i, t.handle? i = some h := by
  simp only [List.mem_iff_getElem?, getElem?_handles]

/-- A parent has a smaller number than its children. -/
theorem parent_lt {i j : Nat} {e : Entry} (h : t.entries[i]? = some e) (link : e.parent = some j) :
    j < i := by
  rw [← Array.getElem?_toList, entries_toList] at h
  rcases Entry.parent_ofNode h with root | ⟨k, up, before⟩
  · rw [root] at link
    cases link
  · rw [up] at link
    obtain rfl := Option.some.inj link
    omega

/-! ## Segments of the entries

A recursion on the tree sees the entries of a subtree as one segment of the entries of the whole. -/

/-- The tree has the entries one after the other, the first with the number `number`. -/
def HasAt (t : SourceTree) (number : Nat) (es : List Entry) : Prop :=
  ∀ i e, es[i]? = some e → t.entries[number + i]? = some e

theorem hasAt_root (t : SourceTree) : t.HasAt 0 (Entry.ofNode 0 none t.root) := by
  intro i e he
  rw [Nat.zero_add, ← Array.getElem?_toList, entries_toList, he]

theorem HasAt.head {number : Nat} {e : Entry} {es : List Entry} (h : t.HasAt number (e :: es)) :
    t.entries[number]? = some e :=
  h 0 e rfl

theorem HasAt.tail {number : Nat} {e : Entry} {es : List Entry} (h : t.HasAt number (e :: es)) :
    t.HasAt (number + 1) es := by
  intro i e' he
  rw [Nat.add_assoc, Nat.add_comm 1 i]
  exact h (i + 1) e' he

theorem HasAt.left {number : Nat} {es fs : List Entry} (h : t.HasAt number (es ++ fs)) :
    t.HasAt number es := by
  intro i e he
  obtain ⟨inside, -⟩ := List.getElem?_eq_some_iff.1 he
  exact h i e (by rw [List.getElem?_append_left inside, he])

theorem HasAt.right {number : Nat} {es fs : List Entry} (h : t.HasAt number (es ++ fs)) :
    t.HasAt (number + es.length) fs := by
  intro i e he
  rw [Nat.add_assoc]
  exact h (es.length + i) e (by
    rw [List.getElem?_append_right (Nat.le_add_right _ _), Nat.add_sub_cancel_left, he])

/-! ## Upward questions -/

/-- The nearest ancestor along a link is the node that the link leads to, or the nearest along the
link of that node. -/
theorem nearestFrom_some {test : Node → Bool} {i : Nat} {e : Entry}
    (h : t.entries[i]? = some e) :
    t.nearestFrom test (some i) = if test e.node then some i else t.nearestFrom test e.parent := by
  rw [nearestFrom, h]
  simp only
  split
  · rfl
  · cases link : e.parent with
    | none => rw [nearestFrom]
    | some j => simp only [if_pos (parent_lt h link)]

theorem entry_of_handle {i : Nat} {e : Entry} {h : Handle} (place : h.position = some i)
    (there : t.entries[i]? = some e) : t.entry h = .ok e := by
  simp only [entry, place, Option.bind_some, there]

end SourceTree

end ModifierLint
