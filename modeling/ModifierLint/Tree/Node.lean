/-
# Syntax trees

A node has a kind, a place in its file, the text it covers (if the text is known) and children from
left to right.  Nodes are compared as values; which occurrence of a value is meant is a matter of
its place in a tree (`ModifierLint.Tree.SourceTree`).

* `Node.preorder` is the plain recursion: a node before its children, children from left to right.
* `Node.walkFrom` lists the same nodes with an explicit stack, so that depth costs no recursion.
-/

namespace ModifierLint

/-- The place of a node in its file.  Lines count from one and columns from zero, in characters. -/
structure Span where
  startLine : Int
  startColumn : Int
  endLine : Int
  endColumn : Int
  deriving Repr, DecidableEq, Inhabited

/-- A node of a syntax tree. -/
inductive Node where
  | mk (kind : String) (span : Span) (text : Option String) (children : List Node)
  deriving Inhabited

namespace Node

/-- The grammatical kind, such as `class_declaration`. -/
def kind : Node → String
  | mk kind _ _ _ => kind

/-- The place in the file. -/
def span : Node → Span
  | mk _ span _ _ => span

/-- The text that the node covers. -/
def text : Node → Option String
  | mk _ _ text _ => text

/-- The direct children, from left to right. -/
def children : Node → List Node
  | mk _ _ _ children => children

/-! ## Size and order -/

mutual

/-- The number of nodes of a tree. -/
def size : Node → Nat
  | mk _ _ _ children => sizes children + 1

/-- The number of nodes of several trees. -/
def sizes : List Node → Nat
  | [] => 0
  | n :: rest => size n + sizes rest

end

mutual

/-- The nodes of a tree, each before its children. -/
def preorder : Node → List Node
  | n@(mk _ _ _ children) => n :: preorders children

/-- The nodes of several trees, one tree after the other. -/
def preorders : List Node → List Node
  | [] => []
  | n :: rest => preorder n ++ preorders rest

end

theorem size_eq (n : Node) : n.size = sizes n.children + 1 := by
  cases n; simp [size, children]

theorem sizes_append (ms ns : List Node) : sizes (ms ++ ns) = sizes ms + sizes ns := by
  induction ms with
  | nil => simp [sizes]
  | cons m ms ih => simp [sizes, ih]; omega

/-- The nodes below a stack of trees: the top is taken off and replaced by its children. -/
def walkFrom : List Node → List Node
  | [] => []
  | n :: rest => n :: walkFrom (n.children ++ rest)
termination_by stack => sizes stack
decreasing_by
  simp only [sizes, sizes_append, size_eq n]; omega

/-! ## Comparison -/

mutual

/-- Whether two nodes are equal as values. -/
def same : Node → Node → Bool
  | mk k s t cs, mk k' s' t' cs' => k == k' && s == s' && t == t' && sameAll cs cs'

/-- Whether two lists of nodes are equal as values. -/
def sameAll : List Node → List Node → Bool
  | [], [] => true
  | m :: ms, n :: ns => same m n && sameAll ms ns
  | _, _ => false

end

/-! ## Children -/

/-- The first direct child of a kind. -/
def findChild? (n : Node) (kind : String) : Option Node :=
  n.children.find? (·.kind == kind)

/-- Whether a direct child has the kind. -/
def hasChild (n : Node) (kind : String) : Bool :=
  n.children.any (·.kind == kind)

/-- The kind of the node that lists a declaration's modifiers. -/
def modifiersKind : String := "modifiers"

/-- The node that lists the modifiers of a declaration; a declaration without modifiers has none. -/
def modifiers? (n : Node) : Option Node :=
  n.findChild? modifiersKind

/-- Whether the modifier is written on the declaration. -/
def hasModifier (n : Node) (modifier : String) : Bool :=
  match n.modifiers? with
  | none => false
  | some list => list.hasChild modifier

end Node

end ModifierLint
