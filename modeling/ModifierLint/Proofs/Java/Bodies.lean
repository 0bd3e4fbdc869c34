/-
# Class bodies of creation expressions

A creation expression declares an anonymous class in its class body, and nowhere else: what stands
in its arguments belongs to the type around the whole expression.  `BoundsScopeOf` says so, and
`SourceTree.NearestAncestor` makes it a specification of the innermost type.

Scope queries only look whether an expression has a class body, not whether they come from there.
So they answer the specified type unless they stop at an expression whose class body they did not
come from; then they answer that expression, where the type around it is asked for
(`enclosingType_misses_arguments`).
-/
import ModifierLint.Proofs.Java.Inheritance

namespace ModifierLint

/-- The node with the number `i` stands at the occurrence or below it. -/
def Handle.Holds (h : Handle) (i : Nat) : Prop :=
  ∃ k, h.position = some k ∧ k ≤ i ∧ i < k + h.node.size

namespace SourceTree

variable {t : SourceTree}

/-- Below an ancestor `a` of an occurrence `j`, the same child holds `j` and everything that `j`
holds. -/
theorem child_holds_iff {i j k : Nat} {a c : Handle} {f : Entry} (hj : t.entries[j]? = some f)
    (from_ : j ≤ i) (below : i < j + f.node.size) (ha : t.handle? k = some a) (above : k < j)
    (hc : c ∈ a.children) : c.Holds i ↔ c.Holds j := by
  obtain ⟨g, hk, rfl⟩ := handle?_eq_some.1 ha
  obtain ⟨m, same, hm⟩ := (mem_children_iff hk).1 hc
  have place : c.position = some m := congrArg Handle.position same
  constructor
  · rintro ⟨m', there, first, last⟩
    obtain rfl := Option.some.inj (place.symm.trans there)
    refine ⟨m, place, Nat.le_of_not_lt fun inside => ?_, by omega⟩
    -- a child that stands below `j` has its parent there
    obtain ⟨p, link, within, -⟩ := parent_within hm hj inside (by omega)
    obtain rfl := Option.some.inj link
    omega
  · rintro ⟨m', there, first, last⟩
    obtain rfl := Option.some.inj (place.symm.trans there)
    have inside := segment_within hj hm first last
    exact ⟨m, place, Nat.le_trans first from_, Nat.lt_of_lt_of_le below inside⟩

end SourceTree

namespace Java

/-- An occurrence bounds the scope of the node with the number `i` below it if it declares a type,
or if it is a creation expression and the node stands in its class body. -/
def BoundsScopeOf (i : Nat) (a : Handle) : Prop :=
  a.node.kind ∈ ["class_declaration", "enum_declaration", "interface_declaration",
    "annotation_type_declaration", "record_declaration"] ∨
  a.node.kind = "object_creation_expression" ∧
    ∃ c ∈ a.children, c.node.kind = "class_body" ∧ c.Holds i

variable {t : SourceTree} {i j : Nat} {a h : Handle}

/-- Whatever bounds the scope of some node bounds a scope. -/
theorem BoundsScopeOf.boundsScope (bounds : BoundsScopeOf i a) : BoundsScope a.node := by
  rcases bounds with declares | ⟨creates, c, child, body, -⟩
  · exact .inl declares
  · refine .inr ⟨creates, c.node, ?_, body⟩
    rw [← Handle.map_node_children]
    exact List.mem_map_of_mem child

/-- An ancestor of an occurrence bounds the scope of what stands there as it bounds that of the
occurrence. -/
theorem boundsScopeOf_congr {k : Nat} {f : Entry} (hj : t.entries[j]? = some f) (from_ : j ≤ i)
    (below : i < j + f.node.size) (ha : t.handle? k = some a) (above : k < j) :
    BoundsScopeOf i a ↔ BoundsScopeOf j a := by
  have child (c : Handle) (hc : c ∈ a.children) : c.Holds i ↔ c.Holds j :=
    SourceTree.child_holds_iff hj from_ below ha above hc
  unfold BoundsScopeOf
  refine or_congr Iff.rfl (and_congr Iff.rfl (exists_congr fun c => and_congr_right fun hc => ?_))
  rw [child c hc]

/-- Of a nearest ancestor that bounds a scope, only its own class body is to be asked for. -/
theorem nearestAncestor_of_boundsScopeOf {owner : Option Nat}
    (nearest : t.NearestAncestor (fun a => BoundsScope a.node) h owner) :
    t.NearestAncestor (BoundsScopeOf i) h owner ↔
      ∀ j a, owner = some j → t.handle? j = some a → BoundsScopeOf i a := by
  constructor
  · rintro specified j a rfl there
    cases specified with
    | found _ there' bounds _ =>
        obtain rfl := Option.some.inj (there.symm.trans there')
        exact bounds
  · intro own
    cases nearest with
    | found way there _ lack =>
        exact .found way there (own _ _ rfl there) fun k hk b hb bounds =>
          lack k hk b hb bounds.boundsScope
    | missing up lack =>
        exact .missing up fun k hk b hb bounds => lack k hk b hb bounds.boundsScope

/-- Behind an expression whose class body a node does not stand in, the types around the node are
those around the expression. -/
theorem nearestAncestor_of_argument (there : t.handle? i = some h)
    (nearest : t.NearestAncestor (fun a => BoundsScope a.node) h (some j))
    (here : t.handle? j = some a) (outside : ¬BoundsScopeOf i a) (outer : Option Nat) :
    t.NearestAncestor (BoundsScopeOf i) h outer ↔ t.NearestAncestor (BoundsScopeOf j) a outer := by
  cases nearest with
  | @found nearer further _ a' way here' bounds lack =>
      obtain rfl := Option.some.inj (here.symm.trans here')
      obtain ⟨e, hi, rfl⟩ := SourceTree.handle?_eq_some.1 there
      obtain ⟨f, hj, rfl⟩ := SourceTree.handle?_eq_some.1 here
      have up := Except.ok.inj ((SourceTree.ancestors_of_entry hi).symm.trans way)
      obtain ⟨f', hj', rest⟩ := SourceTree.ancestorsFrom_rest hi up
      obtain rfl := Option.some.inj (hj.symm.trans hj')
      have member : j ∈ t.ancestorsFrom e.parent := by
        rw [up]
        exact List.mem_append_right _ List.mem_cons_self
      obtain ⟨f', hj', before, below⟩ := (SourceTree.mem_ancestorsFrom hi).1 member
      obtain rfl := Option.some.inj (hj.symm.trans hj')
      refine SourceTree.nearestAncestor_beyond there way here ?_ ?_
      · intro k hk b hb bounds
        rcases List.mem_append.1 hk with nearer | same
        · exact lack k nearer b hb bounds.boundsScope
        · obtain rfl := List.mem_singleton.1 same
          obtain rfl := Option.some.inj (here.symm.trans hb)
          exact outside bounds
      · intro k hk b hb
        rw [← rest] at hk
        obtain ⟨-, -, above, -⟩ := (SourceTree.mem_ancestorsFrom hj).1 hk
        exact boundsScopeOf_congr hj (Nat.le_of_lt before) below hb above

/-- **Scope queries take the arguments of a creation expression for its class body.**  A query for
the innermost type around an occurrence answers the nearest ancestor that declares a type or is a
creation expression with a class body.  This is the innermost type exactly if it is no expression
whose class body the occurrence does not stand in.  If it is one, the innermost type is the one
around the expression. -/
theorem enclosingType_misses_arguments (t : SourceTree) {i : Nat} {h : Handle}
    (there : t.handle? i = some h) :
    ∃ owner, enclosingType t h = .ok owner ∧
      t.NearestAncestor (fun a => BoundsScope a.node) h owner ∧
      (t.NearestAncestor (BoundsScopeOf i) h owner ↔
        ∀ j a, owner = some j → t.handle? j = some a → BoundsScopeOf i a) ∧
      ∀ j a, owner = some j → t.handle? j = some a → ¬BoundsScopeOf i a →
        a.node.kind = "object_creation_expression" ∧
          (∀ c ∈ a.children, c.node.kind = "class_body" → ¬c.Holds i) ∧
          ∀ outer, t.NearestAncestor (BoundsScopeOf i) h outer ↔
            t.NearestAncestor (BoundsScopeOf j) a outer := by
  obtain ⟨owner, -, answer, nearest⟩ := enclosingType_eq_owner there
  refine ⟨owner, answer, nearest, nearestAncestor_of_boundsScopeOf nearest, ?_⟩
  rintro j a rfl here outside
  cases nearest with
  | found way here' bounds lack =>
      obtain rfl := Option.some.inj (here.symm.trans here')
      have creates : a.node.kind = "object_creation_expression" := by
        rcases bounds with declares | ⟨creates, -⟩
        · exact absurd (.inl declares) outside
        · exact creates
      refine ⟨creates, fun c child body holds => ?_, ?_⟩
      · exact outside (.inr ⟨creates, c, child, body, holds⟩)
      · exact nearestAncestor_of_argument there (.found way here bounds lack) here outside

/-- The creation expression of `creationTree`. -/
def creation : Handle :=
  ⟨.mk "object_creation_expression" default none [
    .mk "argument_list" default none [.mk "enum_declaration" default none []],
    .mk "class_body" default none [.mk "enum_declaration" default none []]], some 2⟩

/-- The enum in the argument of `creation`. -/
def argumentMember : Handle := ⟨.mk "enum_declaration" default none [], some 4⟩

theorem handle?_creation : creationTree.handle? 2 = some creation := by
  rw [← SourceTree.getElem?_handles]
  rfl

theorem handle?_argumentMember : creationTree.handle? 4 = some argumentMember := by
  rw [← SourceTree.getElem?_handles]
  rfl

/-- The creation expression does not bound the scope of what stands in its argument. -/
theorem not_boundsScopeOf_creation : ¬BoundsScopeOf 4 creation := by
  rintro (declares | ⟨-, c, child, body, k, place, first, -⟩)
  · exact absurd declares (by decide)
  · have children : creation.children.map (fun c => (c.node.kind, c.position)) =
        [("argument_list", some 3), ("class_body", some 5)] := rfl
    have known := List.mem_map_of_mem (f := fun c : Handle => (c.node.kind, c.position)) child
    rw [children, body, place] at known
    simp at known
    omega

theorem enclosingType_misses_arguments_of_creationTree :
    creationTree.handle? 4 = some argumentMember ∧
    enclosingType creationTree argumentMember = .ok (some 2) ∧
    ∀ outer, creationTree.NearestAncestor (BoundsScopeOf 4) argumentMember outer ↔
      creationTree.NearestAncestor (BoundsScopeOf 2) creation outer := by
  obtain ⟨owner, answer, -, -, beyond⟩ :=
    enclosingType_misses_arguments creationTree handle?_argumentMember
  have found : (ownersAt 0 none creationTree.root)[4]? = some (some 2) := rfl
  obtain ⟨assigned, -⟩ := enclosingType_of_owner handle?_argumentMember found
  obtain rfl := Except.ok.inj (answer.symm.trans assigned)
  obtain ⟨-, -, around⟩ := beyond 2 creation rfl handle?_creation not_boundsScopeOf_creation
  exact ⟨handle?_argumentMember, answer, around⟩

/-- An enum in an argument is taken to stand in the anonymous class, although the type around it is
the one around the expression. -/
theorem enclosingType_of_argumentMember :
    (creationTree.handle? 4 = some argumentMember ∧ creationTree.handle? 2 = some creation) ∧
    enclosingType creationTree argumentMember = .ok (some 2) ∧
    enclosingType creationTree creation = .ok (some 0) ∧
    creationTree.NearestAncestor (BoundsScopeOf 4) argumentMember (some 0) ∧
    ¬∀ (t : SourceTree) (i : Nat) (h : Handle) (owner : Option Nat), t.handle? i = some h →
      enclosingType t h = .ok owner → t.NearestAncestor (BoundsScopeOf i) h owner := by
  have inner := handle?_argumentMember
  have whole := handle?_creation
  have owners : ownersAt 0 none creationTree.root =
      [none, some 0, some 0, some 2, some 2, some 2, some 2] := rfl
  obtain ⟨answer, nearest⟩ := enclosingType_of_owner inner (congrArg (·[4]?) owners)
  obtain ⟨answer', nearest'⟩ := enclosingType_of_owner whole (congrArg (·[2]?) owners)
  have around : creationTree.NearestAncestor (BoundsScopeOf 2) creation (some 0) := by
    refine (nearestAncestor_of_boundsScopeOf nearest').2 ?_
    rintro j a ⟨⟩ here
    rw [← SourceTree.getElem?_handles] at here
    cases here
    exact .inl (by decide)
  have specified := (nearestAncestor_of_argument inner nearest whole not_boundsScopeOf_creation
    (some 0)).2 around
  refine ⟨⟨inner, whole⟩, answer, answer', specified, fun claimed => ?_⟩
  have same := (claimed _ _ _ _ inner answer).unique specified
  cases same

end Java

end ModifierLint
