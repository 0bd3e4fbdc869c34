/-
# The conversion of a concrete tree as a recursion

`Abstraction.run` works off a stack and keeps the converted nodes whose parents are not built yet.
`Abstraction.ofCst` converts the children from left to right and then builds the node.  The
two agree because working off the task of entering a tree puts exactly the converted tree on top of
the finished nodes (`run_enter`), so that building a node finds its children there, the last one on
top.

Nothing is left out or added on the way: the nodes of the abstract tree are the images of the nodes
of the concrete tree, in the same order (`preorder_ofCst`).
-/
import ModifierLint.Java.Abstraction

namespace ModifierLint.Java

namespace Cst

mutual

/-- The nodes of a tree, each before its children. -/
def preorder : Cst → List Cst
  | n@(mk _ _ _ _ children) => n :: preorders children

/-- The nodes of several trees, one tree after the other. -/
def preorders : List Cst → List Cst
  | [] => []
  | n :: rest => preorder n ++ preorders rest

end

end Cst

namespace Abstraction

variable (source : ByteArray)

/-! ## The recursion -/

mutual

/-- Converts the children, then builds the node. -/
def ofCst : Cst → Node
  | n@(.mk _ _ _ _ children) => build source n (ofCsts children)

/-- Converts trees from left to right. -/
def ofCsts : List Cst → List Node
  | [] => []
  | n :: rest => ofCst n :: ofCsts rest

end

theorem ofCst_eq (n : Cst) : ofCst source n = build source n (ofCsts source n.children) := by
  cases n
  rw [ofCst, Cst.children]

theorem length_ofCsts (ns : List Cst) : (ofCsts source ns).length = ns.length := by
  induction ns with
  | nil => rfl
  | cons n rest ih =>
      rw [ofCsts, List.length_cons, List.length_cons, ih]

/-! ## The stack -/

/-- Building a node takes its converted children off the finished nodes. -/
theorem run_build (n : Cst) (children finished : List Node) (rest : List Task)
    (each : children.length = n.children.length) :
    run source (children.reverse ++ finished) (.build n :: rest) =
      run source (build source n children :: finished) rest := by
  have count : n.children.length = children.reverse.length := by
    rw [List.length_reverse, each]
  rw [run, count, List.take_left, List.drop_left, List.reverse_reverse]

mutual

/-- Entering a tree leaves the converted tree on top of the finished nodes. -/
theorem run_enter (finished : List Node) (rest : List Task) : ∀ n : Cst,
    run source finished (.enter n :: rest) = run source (ofCst source n :: finished) rest
  | .mk kind extent hasError isMissing children => by
      have inside := run_enters finished
        (.build (.mk kind extent hasError isMissing children) :: rest) children
      rw [run, Cst.children, inside, run_build _ _ _ _ _ (length_ofCsts source children), ofCst]

/-- Entering trees leaves the converted trees on top of the finished nodes, the last one first. -/
theorem run_enters (finished : List Node) (rest : List Task) : ∀ ns : List Cst,
    run source finished (ns.map .enter ++ rest) =
      run source ((ofCsts source ns).reverse ++ finished) rest
  | [] => rfl
  | n :: ns => by
      rw [List.map_cons, List.cons_append, run_enter finished _ n, run_enters _ rest ns, ofCsts,
        List.reverse_cons, List.append_assoc, List.singleton_append]

end

theorem convert_eq_ofCst (n : Cst) : convert source n = ofCst source n := by
  rw [convert, run_enter, run, List.headD_cons]

/-! ## The nodes of the abstract tree -/

mutual

/-- The nodes of the abstract tree are those of the concrete tree, converted. -/
theorem preorder_ofCst : ∀ n : Cst,
    (ofCst source n).preorder = n.preorder.map (ofCst source)
  | .mk kind extent hasError isMissing children => by
      rw [Cst.preorder, List.map_cons, ← preorders_ofCsts children, ofCst, build, Node.preorder]

theorem preorders_ofCsts : ∀ ns : List Cst,
    Node.preorders (ofCsts source ns) = (Cst.preorders ns).map (ofCst source)
  | [] => rfl
  | n :: ns => by
      rw [ofCsts, Node.preorders, Cst.preorders, List.map_append, preorder_ofCst n,
        preorders_ofCsts ns]

end

theorem kind_ofCst (n : Cst) : (ofCst source n).kind = n.kind := by
  rw [ofCst_eq, build, Node.kind]

theorem span_ofCst (n : Cst) : (ofCst source n).span = spanOf source n.extent := by
  rw [ofCst_eq, build, Node.span]

end Abstraction

/-- A text is parsed if it has a concrete tree without an error. -/
theorem parseSource_eq_ok_iff {grammar : Grammar} {filePath content : String} {root : Node} :
    parseSource grammar filePath content = .ok root ↔
      ∃ tree, grammar content = some tree ∧ tree.hasError = false ∧
        Abstraction.convert content.toUTF8 tree = root := by
  unfold parseSource
  cases grammar content with
  | none => exact iff_of_false nofun fun ⟨_, given, _⟩ => nomatch given
  | some tree =>
      cases erroneous : tree.hasError with
      | true =>
          simp only [erroneous, if_true]
          refine iff_of_false nofun ?_
          rintro ⟨_, ⟨⟩, sound, -⟩
          rw [erroneous] at sound
          cases sound
      | false =>
          simp only [erroneous, Bool.false_eq_true, if_false]
          constructor
          · intro parsed
            exact ⟨tree, rfl, erroneous, Except.ok.inj parsed⟩
          · rintro ⟨_, ⟨⟩, -, rfl⟩
            rfl

/-- A text whose concrete tree has no error becomes the converted tree. -/
theorem parseSource_of_clean {grammar : Grammar} {filePath content : String} {root : Cst}
    (given : grammar content = some root) (clean : root.hasError = false) :
    parseSource grammar filePath content = .ok (Abstraction.ofCst content.toUTF8 root) :=
  parseSource_eq_ok_iff.2 ⟨root, given, clean, Abstraction.convert_eq_ofCst _ root⟩

end ModifierLint.Java
