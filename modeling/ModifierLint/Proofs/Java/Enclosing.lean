/-
# The innermost type as an inherited attribute

Scope queries walk from a declaration upwards.  `ownerKind` is their answer as a function of the
link upwards alone, and `ownerKind_some` is the equation of an attribute that a node inherits: what
the children of a node have as their innermost type is the node itself if it bounds a scope, and
what the node has otherwise.
-/
import ModifierLint.Java.Scope
import ModifierLint.Proofs.Tree.Numbering

namespace ModifierLint.Java

/-- A node bounds a scope if it declares a type or is a creation expression with a class body. -/
def BoundsScope (n : Node) : Prop :=
  n.kind ∈ ["class_declaration", "enum_declaration", "interface_declaration",
    "annotation_type_declaration", "record_declaration"] ∨
  n.kind = "object_creation_expression" ∧ ∃ c ∈ n.children, c.kind = "class_body"

instance (n : Node) : Decidable (BoundsScope n) :=
  inferInstanceAs (Decidable (_ ∨ _))

theorem isTypeBoundary_iff {n : Node} : isTypeBoundary n = true ↔ BoundsScope n := by
  simp [isTypeBoundary, typeDeclarations, isAnonymousClass, BoundsScope, Node.hasChild,
    Construct.kind]

variable {t : SourceTree}

/-- The kind of the innermost type around the nodes with a link upwards. -/
def ownerKind (t : SourceTree) (link : Option Nat) : Option String :=
  ((t.nearestFrom isTypeBoundary link).bind fun i => t.entries[i]?).map fun e => e.node.kind

theorem ownerKind_none (t : SourceTree) : ownerKind t none = none := by
  rw [ownerKind, SourceTree.nearestFrom]
  rfl

/-- The children of a node inherit the innermost type from the node, or through it. -/
theorem ownerKind_some {i : Nat} {e : Entry} (h : t.entries[i]? = some e) :
    ownerKind t (some i) = if BoundsScope e.node then some e.node.kind else ownerKind t e.parent := by
  rw [ownerKind, SourceTree.nearestFrom_some h]
  simp only [isTypeBoundary_iff]
  split
  · rw [Option.bind_some, h, Option.map_some]
  · rfl

/-- A scope query at an occurrence answers what the link of its entry says. -/
theorem enclosingKind_eq {i : Nat} {h : Handle} {e : Entry} (place : h.position = some i)
    (there : t.entries[i]? = some e) : enclosingKind t h = .ok (ownerKind t e.parent) := by
  rw [enclosingKind, enclosingType, SourceTree.nearest, SourceTree.parent,
    SourceTree.entry_of_handle place there]
  rfl

end ModifierLint.Java
