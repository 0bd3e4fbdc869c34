/-
# Concrete syntax trees

A concrete syntax tree is what a grammar makes of the octets of a file.  Its nodes know where they
start and end, as offsets and as points (row and column, both from zero, columns in octets), and
whether something in them is wrong: an `ERROR` node covers octets that fit nowhere, a missing node
stands for something that should be there.

`Cst.errorNode` finds the place of a syntax error by following the first child with an error.
-/
import ModifierLint.Java.Vocabulary

namespace ModifierLint.Java

/-- A row and a column in octets, both from zero. -/
structure Point where
  row : Int
  column : Int
  deriving Repr, DecidableEq, Inhabited

/-- The octets that a node covers. -/
structure Extent where
  startByte : Int
  endByte : Int
  startPoint : Point
  endPoint : Point
  deriving Repr, DecidableEq, Inhabited

/-- A concrete syntax tree. -/
inductive Cst where
  | mk (kind : String) (extent : Extent) (hasError isMissing : Bool) (children : List Cst)
  deriving Inhabited

namespace Cst

/-- The grammatical kind. -/
def kind : Cst → String
  | mk kind _ _ _ _ => kind

/-- The octets that the node covers. -/
def extent : Cst → Extent
  | mk _ extent _ _ _ => extent

/-- Whether the node is or holds an error. -/
def hasError : Cst → Bool
  | mk _ _ hasError _ _ => hasError

/-- Whether the node stands for something that is not in the file. -/
def isMissing : Cst → Bool
  | mk _ _ _ isMissing _ => isMissing

/-- The children from left to right. -/
def children : Cst → List Cst
  | mk _ _ _ _ children => children

mutual

/-- The number of nodes of a tree. -/
def size : Cst → Nat
  | mk _ _ _ _ children => sizes children + 1

/-- The number of nodes of several trees. -/
def sizes : List Cst → Nat
  | [] => 0
  | n :: rest => size n + sizes rest

end

theorem size_eq (n : Cst) : n.size = sizes n.children + 1 := by
  cases n; simp [size, children]

theorem sizes_append (ms ns : List Cst) : sizes (ms ++ ns) = sizes ms + sizes ns := by
  induction ms with
  | nil => simp [sizes]
  | cons m ms ih => simp [sizes, ih]; omega

theorem size_lt_of_mem {c : Cst} : ∀ {cs : List Cst}, c ∈ cs → c.size < sizes cs + 1
  | [], h => by simp at h
  | d :: cs, h => by
    rcases List.mem_cons.1 h with rfl | h
    · simp only [sizes]; omega
    · have := size_lt_of_mem h
      simp only [sizes]; omega

/-- Whether the way to the syntax error leads through the node. -/
def isSuspect (n : Cst) : Bool :=
  n.hasError || n.isMissing

/-- Whether the node is a syntax error itself. -/
def isCulprit (n : Cst) : Bool :=
  n.kind == Construct.error.kind || n.isMissing

/-- The node that a syntax error is reported at: the first error or missing node on the way down
along first suspects, or the last node of the way if there is none. -/
def errorNode (n : Cst) : Cst :=
  match _h : n.children.find? isSuspect with
  | none => n
  | some c => if c.isCulprit then c else c.errorNode
termination_by n.size
decreasing_by
  have := size_lt_of_mem (List.mem_of_find?_eq_some _h)
  rw [size_eq n]; exact this

end Cst

end ModifierLint.Java
