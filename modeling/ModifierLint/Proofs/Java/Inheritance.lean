/-
# Innermost types in one pass from the top

`ownersAt` assigns to each node of a tree the number of the innermost type around it, in one pass
from the top and without a look upwards: a node is given its type by its parent, and gives its
children itself if it bounds a scope, and else what it was given.

The pass assigns what the links upwards lead to (`ownersAt_eq`), so the scope queries, each of which
walks upwards, answer what it assigns (`enclosingType_inherited`).
-/
import ModifierLint.Proofs.Java.Enclosing
import ModifierLint.Proofs.Tree.Nearest

namespace ModifierLint.Java

/-! ## The pass -/

mutual

/-- The innermost types around a node with the number `number` and around the nodes below it, in
pre-order, where `owner` is the one around the node itself. -/
def ownersAt (number : Nat) (owner : Option Nat) : Node → List (Option Nat)
  | n@(.mk _ _ _ children) =>
    owner :: ownersBelow (number + 1) (if BoundsScope n then some number else owner) children

/-- The innermost types around siblings, the first of which has the number `number`, and around the
nodes below them. -/
def ownersBelow (number : Nat) (owner : Option Nat) : List Node → List (Option Nat)
  | [] => []
  | n :: rest => ownersAt number owner n ++ ownersBelow (number + n.size) owner rest

end

variable {t : SourceTree} {h : Handle}

mutual

/-- The nodes of a subtree are assigned what their links upwards lead to. -/
theorem ownersAt_ofNode {number : Nat} {parent : Option Nat} :
    ∀ {n : Node}, t.HasAt number (Entry.ofNode number parent n) →
      ownersAt number (t.nearestFrom isTypeBoundary parent) n =
        (Entry.ofNode number parent n).map fun e => t.nearestFrom isTypeBoundary e.parent
  | .mk kind span text children, holds => by
      rw [Entry.ofNode_eq] at holds ⊢
      have here := holds.head
      have inside : t.HasAt (number + 1) (Entry.ofNodes (number + 1) (some number) children) :=
        holds.tail
      have below := ownersBelow_ofNodes inside
      simp only [SourceTree.nearestFrom_some here, isTypeBoundary_iff] at below
      rw [ownersAt, List.map_cons, below]
      rfl

theorem ownersBelow_ofNodes {number : Nat} {parent : Option Nat} :
    ∀ {ns : List Node}, t.HasAt number (Entry.ofNodes number parent ns) →
      ownersBelow number (t.nearestFrom isTypeBoundary parent) ns =
        (Entry.ofNodes number parent ns).map fun e => t.nearestFrom isTypeBoundary e.parent
  | [], _ => rfl
  | n :: ns, holds => by
      have here := ownersAt_ofNode holds.left
      have after := holds.right
      rw [Entry.length_ofNode] at after
      rw [ownersBelow, Entry.ofNodes, List.map_append, here, ownersBelow_ofNodes after]

end

/-- The pass over a whole tree, which starts with no type at all. -/
theorem ownersAt_eq (t : SourceTree) : ownersAt 0 none t.root =
    t.entries.toList.map fun e => t.nearestFrom isTypeBoundary e.parent := by
  have whole := ownersAt_ofNode t.hasAt_root
  rw [SourceTree.nearestFrom] at whole
  rw [whole, SourceTree.entries_toList]

/-! ## The queries -/

/-- A query for the innermost type answers what the pass assigns, and this is the nearest ancestor
that bounds a scope. -/
theorem enclosingType_eq_owner {i : Nat} (there : t.handle? i = some h) :
    ∃ owner, (ownersAt 0 none t.root)[i]? = some owner ∧ enclosingType t h = .ok owner ∧
      t.NearestAncestor (fun a => BoundsScope a.node) h owner := by
  obtain ⟨owner, answer, nearest⟩ := SourceTree.nearest_answers isTypeBoundary there
  simp only [isTypeBoundary_iff] at nearest
  refine ⟨owner, ?_, answer, nearest⟩
  obtain ⟨e, hi, rfl⟩ := SourceTree.handle?_eq_some.1 there
  have links := answer
  rw [SourceTree.nearest, SourceTree.parent_of_entry hi] at links
  rw [ownersAt_eq, List.getElem?_map, Array.getElem?_toList, hi, Option.map_some]
  exact congrArg some (Except.ok.inj links)

/-- What the pass assigns is what a query answers. -/
theorem enclosingType_of_owner {i : Nat} {owner : Option Nat} (there : t.handle? i = some h)
    (assigned : (ownersAt 0 none t.root)[i]? = some owner) :
    enclosingType t h = .ok owner ∧
      t.NearestAncestor (fun a => BoundsScope a.node) h owner := by
  obtain ⟨owner', assigned', found⟩ := enclosingType_eq_owner there
  obtain rfl := Option.some.inj (assigned.symm.trans assigned')
  exact found

/-- A query for the kind of the innermost type answers whether there is one of that kind. -/
theorem enclosingKind_is (kind : String) {owner : Option Nat}
    (answer : enclosingType t h = .ok owner) :
    ∃ b, (enclosingKind t h).map (· == some kind) = .ok b ∧
      (b = true ↔ ∃ j a, owner = some j ∧ t.handle? j = some a ∧ a.node.kind = kind) := by
  refine ⟨_, by rw [enclosingKind, answer]; rfl, ?_⟩
  rw [beq_iff_eq, Option.map_eq_some_iff]
  constructor
  · rintro ⟨e, there, same⟩
    obtain ⟨j, rfl, there⟩ := Option.bind_eq_some_iff.1 there
    exact ⟨j, ⟨e.node, some j⟩, rfl, SourceTree.handle?_eq_some.2 ⟨e, there, rfl⟩, same⟩
  · rintro ⟨j, a, rfl, there, same⟩
    obtain ⟨e, entry, rfl⟩ := SourceTree.handle?_eq_some.1 there
    exact ⟨e, entry, same⟩

/-- **Scope queries answer what the pass from the top assigns.**  The innermost type that a query
finds on the way up from an occurrence is the one that the pass assigns to it: the nearest ancestor
that bounds a scope, which stands before the occurrence, or none.  An occurrence is in a class if
that type is a class, in an enum if it is an enum, and never in both. -/
theorem enclosingType_inherited (t : SourceTree) {i : Nat} {h : Handle}
    (there : t.handle? i = some h) :
    ∃ owner inClass inEnum,
      (ownersAt 0 none t.root)[i]? = some owner ∧
      enclosingType t h = .ok owner ∧ isInClass t h = .ok inClass ∧ isInEnum t h = .ok inEnum ∧
      t.NearestAncestor (fun a => BoundsScope a.node) h owner ∧
      (∀ j, owner = some j → j < i) ∧
      (inClass = true ↔ ∃ j a, owner = some j ∧ t.handle? j = some a ∧
        a.node.kind = "class_declaration") ∧
      (inEnum = true ↔ ∃ j a, owner = some j ∧ t.handle? j = some a ∧
        a.node.kind = "enum_declaration") ∧
      ¬(inClass = true ∧ inEnum = true) := by
  obtain ⟨owner, assigned, answer, nearest⟩ := enclosingType_eq_owner there
  obtain ⟨inClass, asClass, class_iff⟩ := enclosingKind_is Construct.classDeclaration.kind answer
  obtain ⟨inEnum, asEnum, enum_iff⟩ := enclosingKind_is Construct.enumDeclaration.kind answer
  refine ⟨owner, inClass, inEnum, assigned, answer, asClass, asEnum, nearest, ?_, class_iff,
    enum_iff, ?_⟩
  · rintro j rfl
    cases nearest with
    | found way =>
        obtain ⟨e, hi, rfl⟩ := SourceTree.handle?_eq_some.1 there
        have up := Except.ok.inj ((SourceTree.ancestors_of_entry hi).symm.trans way)
        have member : j ∈ t.ancestorsFrom e.parent := by
          rw [up]
          exact List.mem_append_right _ List.mem_cons_self
        obtain ⟨-, -, before, -⟩ := (SourceTree.mem_ancestorsFrom hi).1 member
        exact before
  · rintro ⟨isClass, isEnum⟩
    obtain ⟨j, a, found, here, kind⟩ := class_iff.1 isClass
    obtain ⟨j', a', found', here', kind'⟩ := enum_iff.1 isEnum
    obtain rfl := Option.some.inj (found.symm.trans found')
    obtain rfl := Option.some.inj (here.symm.trans here')
    rw [kind] at kind'
    exact absurd kind' (by decide)

/-- A class with a creation expression, whose argument and whose class body hold an enum each. -/
def creationTree : SourceTree :=
  .ofRoot
    (.mk "class_declaration" default none [.mk "class_body" default none [
      .mk "object_creation_expression" default none [
        .mk "argument_list" default none [.mk "enum_declaration" default none []],
        .mk "class_body" default none [.mk "enum_declaration" default none []]]]])
    "A.java"

theorem enclosingType_inherited_of_creationTree :
    let member : Handle := ⟨.mk "enum_declaration" default none [], some 6⟩
    creationTree.handle? 6 = some member ∧ enclosingType creationTree member = .ok (some 2) ∧
      isInClass creationTree member = .ok false := by
  intro member
  have there : creationTree.handle? 6 = some member := by
    rw [← SourceTree.getElem?_handles]
    rfl
  obtain ⟨owner, inClass, -, assigned, answer, asClass, -, -, -, class_iff, -⟩ :=
    enclosingType_inherited creationTree there
  have found : (ownersAt 0 none creationTree.root)[6]? = some (some 2) := rfl
  obtain rfl := Option.some.inj (found.symm.trans assigned)
  refine ⟨there, answer, asClass.trans (congrArg Except.ok (Bool.eq_false_iff.2 fun isClass => ?_))⟩
  obtain ⟨j, a, same, here, kind⟩ := class_iff.1 isClass
  obtain rfl := Option.some.inj same
  rw [← SourceTree.getElem?_handles] at here
  cases here
  exact absurd kind (by decide)

end ModifierLint.Java
