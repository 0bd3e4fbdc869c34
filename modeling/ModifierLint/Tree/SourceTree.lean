/-
# Trees with upward links

A node does not know its parent, and one value may occur many times in a tree.  A `SourceTree`
numbers the occurrences in pre-order, the root first, and holds one entry per occurrence: the node
and the number of its parent.  Upward questions are answered from these entries.

A caller holds a node as a `Handle`.  A handle without a position is a node from elsewhere: it does
not belong to the tree, even if it equals one of the tree's nodes as a value.
-/
import ModifierLint.Tree.Node
import ModifierLint.Text.Decimal

namespace ModifierLint

/-- One occurrence of a node, with the number of its parent's occurrence. -/
structure Entry where
  node : Node
  parent : Option Nat
  deriving Inhabited

/-- The entries of the trees on a stack, where `number` is the next number to give. -/
def Entry.ofStack (number : Nat) : List (Node × Option Nat) → List Entry
  | [] => []
  | (n, parent) :: rest =>
    ⟨n, parent⟩ :: ofStack (number + 1) (n.children.map (·, some number) ++ rest)
termination_by stack => Node.sizes (stack.map Prod.fst)
decreasing_by
  simp only [List.map_append, List.map_map, List.map_cons, Node.sizes, Node.sizes_append]
  have : (n.children.map (Prod.fst ∘ fun c => (c, some number))) = n.children := by
    simp [Function.comp_def]
  rw [this, Node.size_eq n]; omega

/-- The entries of a tree in pre-order. -/
def Entry.ofRoot (root : Node) : List Entry :=
  ofStack 0 [(root, none)]

/-- A parsed file: its tree, its path, and the entries of the tree. -/
structure SourceTree where
  root : Node
  filePath : String
  entries : Array Entry
  entries_eq : entries = (Entry.ofRoot root).toArray

/-- A node in the hands of a caller; `position` is its pre-order number if it is an occurrence. -/
structure Handle where
  node : Node
  position : Option Nat

/-- A node that is no occurrence of the tree was asked about. -/
structure NotInTree where
  kind : String
  line : Int
  column : Int
  filePath : String
  deriving Repr, DecidableEq

/-- The text of the error; a tree without a path is `this tree`. -/
def NotInTree.message (e : NotInTree) : String :=
  "Node " ++ e.kind ++ " at " ++ Text.ofInt e.line ++ ":" ++ Text.ofInt e.column ++
    " does not belong to " ++ if e.filePath.isEmpty then "this tree" else e.filePath

namespace SourceTree

/-- The tree of a parsed file. -/
def ofRoot (root : Node) (filePath : String) : SourceTree :=
  ⟨root, filePath, (Entry.ofRoot root).toArray, rfl⟩

/-- The number of occurrences. -/
def size (t : SourceTree) : Nat :=
  t.entries.size

/-- The nodes in pre-order. -/
def walk (t : SourceTree) : List Node :=
  Node.walkFrom [t.root]

/-- The handle of an occurrence. -/
def handle? (t : SourceTree) (i : Nat) : Option Handle :=
  t.entries[i]?.map fun e => ⟨e.node, some i⟩

/-- The handle of the root. -/
def rootHandle (t : SourceTree) : Handle :=
  ⟨t.root, some 0⟩

/-- Whether the handle is an occurrence of the tree. -/
def contains (t : SourceTree) (h : Handle) : Bool :=
  match h.position with
  | some i => decide (i < t.size)
  | none => false

/-- The entry of a handle. -/
def entry (t : SourceTree) (h : Handle) : Except NotInTree Entry :=
  match h.position.bind fun i => t.entries[i]? with
  | some e => .ok e
  | none => .error ⟨h.node.kind, h.node.span.startLine, h.node.span.startColumn, t.filePath⟩

/-- The number of the parent; the root has none. -/
def parent (t : SourceTree) (h : Handle) : Except NotInTree (Option Nat) :=
  (t.entry h).map (·.parent)

/-- The numbers from a parent link upwards.  Links lead to smaller numbers. -/
def ancestorsFrom (t : SourceTree) : Option Nat → List Nat
  | none => []
  | some i =>
    i :: match t.entries[i]?.bind (·.parent) with
      | none => []
      | some j => if j < i then t.ancestorsFrom (some j) else []
termination_by link => link.elim 0 (· + 1)

/-- The numbers of the ancestors, nearest first. -/
def ancestors (t : SourceTree) (h : Handle) : Except NotInTree (List Nat) :=
  (t.parent h).map t.ancestorsFrom

/-- The first number on the way up from a parent link whose node satisfies the test. -/
def nearestFrom (t : SourceTree) (test : Node → Bool) : Option Nat → Option Nat
  | none => none
  | some i =>
    match t.entries[i]? with
    | none => none
    | some e =>
      if test e.node then some i
      else match e.parent with
        | none => none
        | some j => if j < i then t.nearestFrom test (some j) else none
termination_by link => link.elim 0 (· + 1)

/-- The nearest ancestor that satisfies the test. -/
def nearest (t : SourceTree) (test : Node → Bool) (h : Handle) : Except NotInTree (Option Nat) :=
  (t.parent h).map (t.nearestFrom test)

end SourceTree

/-- Handles for siblings, the first of which has the number `position`. -/
def Handle.siblings : Option Nat → List Node → List Handle
  | _, [] => []
  | position, n :: rest => ⟨n, position⟩ :: siblings (position.map (· + n.size)) rest

/-- Handles for the children of a node, from left to right. -/
def Handle.children (h : Handle) : List Handle :=
  siblings (h.position.map (· + 1)) h.node.children

/-- The handle of the first direct child of a kind. -/
def Handle.findChild? (h : Handle) (kind : String) : Option Handle :=
  h.children.find? (·.node.kind == kind)

/-- The handles of the direct children of a kind. -/
def Handle.childrenOfKind (h : Handle) (kind : String) : List Handle :=
  h.children.filter (·.node.kind == kind)

end ModifierLint
