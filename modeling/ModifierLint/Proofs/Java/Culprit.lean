/-
# The place of a syntax error

A concrete tree with an error is refused, and the refusal names one node.  The search for this node
never turns back: it goes down along first suspects, children with an error or missing ones, until
it meets a culprit.  That it meets the first culprit of the whole tree in pre-order is due to the
flags.  If they are consistent, a subtree has a culprit exactly if its root has an error
(`Cst.hasError_iff`); so what lies before a first suspect holds no culprit, and the suspect itself
does (`Cst.errorNode_eq`).

`Cst.search` is the search with a limit on its turns.  The size of the tree is always limit enough,
whatever its flags are (`Cst.search_ends`).
-/
import ModifierLint.Proofs.Java.Conversion

namespace ModifierLint.Java

namespace Cst

/-! ## Consistent flags -/

/-- The nodes below a node in pre-order. -/
def descendants (n : Cst) : List Cst :=
  preorders n.children

/-- The node has an error exactly if it is one, or is missing, or a child has an error. -/
def Flagged (n : Cst) : Prop :=
  n.hasError = true ↔
    n.kind = Construct.error.kind ∨ n.isMissing = true ∨ ∃ c ∈ n.children, c.hasError = true

/-- The error flags of all nodes fit together. -/
def Consistent (n : Cst) : Prop :=
  ∀ m ∈ n.preorder, m.Flagged

instance (n : Cst) : Decidable n.Flagged :=
  inferInstanceAs (Decidable (_ ↔ _))

instance (n : Cst) : Decidable n.Consistent :=
  inferInstanceAs (Decidable (∀ m ∈ n.preorder, m.Flagged))

/-- The first error or missing node below the root in pre-order, or the root if there is none. -/
def firstCulprit (root : Cst) : Cst :=
  (root.descendants.find? fun m => m.kind = Construct.error.kind || m.isMissing).getD root

theorem isCulprit_iff {n : Cst} :
    n.isCulprit = true ↔ n.kind = Construct.error.kind ∨ n.isMissing = true := by
  rw [isCulprit, Bool.or_eq_true, beq_iff_eq]

theorem firstCulprit_eq (root : Cst) :
    root.firstCulprit = (root.descendants.find? isCulprit).getD root := by
  rw [firstCulprit]
  congr 2

theorem Flagged.hasError_iff {n : Cst} (flagged : n.Flagged) :
    n.hasError = true ↔ n.isCulprit = true ∨ ∃ c ∈ n.children, c.hasError = true := by
  rw [isCulprit_iff, or_assoc]
  exact flagged

theorem preorder_eq (n : Cst) : n.preorder = n :: n.descendants := by
  cases n
  rw [preorder, descendants, children]

theorem preorders_append (ms ns : List Cst) :
    preorders (ms ++ ns) = preorders ms ++ preorders ns := by
  induction ms with
  | nil => rfl
  | cons m ms ih => rw [List.cons_append, preorders, preorders, ih, List.append_assoc]

theorem mem_preorders {m : Cst} {ns : List Cst} :
    m ∈ preorders ns ↔ ∃ n ∈ ns, m ∈ n.preorder := by
  induction ns with
  | nil => simp [preorders]
  | cons n ns ih => simp [preorders, ih]

theorem Consistent.child {n c : Cst} (consistent : n.Consistent) (child : c ∈ n.children) :
    c.Consistent := by
  intro m hm
  refine consistent m ?_
  rw [preorder_eq]
  exact List.mem_cons_of_mem _ (mem_preorders.2 ⟨c, child, hm⟩)

theorem Consistent.flagged {n : Cst} (consistent : n.Consistent) : n.Flagged := by
  refine consistent n ?_
  rw [preorder_eq]
  exact List.mem_cons_self

mutual

/-- A tree with consistent flags has an error exactly if there is a culprit in it. -/
theorem hasError_iff : ∀ n : Cst, n.Consistent →
    (n.hasError = true ↔ ∃ m ∈ n.preorder, m.isCulprit = true)
  | .mk kind extent hasError isMissing children => by
      intro consistent
      have among := exists_hasError_iff children fun c hc => consistent.child hc
      rw [consistent.flagged.hasError_iff, preorder_eq, descendants, Cst.children, among]
      simp only [List.mem_cons, exists_eq_or_imp]

theorem exists_hasError_iff : ∀ ns : List Cst, (∀ n ∈ ns, n.Consistent) →
    ((∃ n ∈ ns, n.hasError = true) ↔ ∃ m ∈ preorders ns, m.isCulprit = true)
  | [] => by simp [preorders]
  | n :: ns => by
      intro consistent
      have first := hasError_iff n (consistent n List.mem_cons_self)
      have others := exists_hasError_iff ns fun m hm => consistent m (List.mem_cons_of_mem _ hm)
      simp only [List.mem_cons, preorders, List.mem_append, or_and_right, exists_or,
        exists_eq_left, first, others]

end

/-- No node of a consistent tree without an error is a culprit. -/
theorem not_isCulprit {n m : Cst} (consistent : n.Consistent) (clean : n.hasError = false)
    (hm : m ∈ n.preorder) : m.isCulprit = false := by
  cases culprit : m.isCulprit with
  | false => rfl
  | true =>
      rw [(hasError_iff n consistent).2 ⟨m, hm, culprit⟩] at clean
      cases clean

/-! ## The way down -/

/-- In a consistent tree a suspect has an error. -/
theorem Consistent.hasError_of_isSuspect {n : Cst} (consistent : n.Consistent)
    (suspect : n.isSuspect = true) : n.hasError = true := by
  rw [isSuspect, Bool.or_eq_true] at suspect
  rcases suspect with error | missing
  · exact error
  · exact consistent.flagged.2 (.inr (.inl missing))

/-- Nothing among trees that are not suspect is a culprit. -/
theorem find?_of_calm {ns : List Cst} (consistent : ∀ n ∈ ns, n.Consistent)
    (calm : ∀ n ∈ ns, n.isSuspect = false) : (preorders ns).find? isCulprit = none := by
  rw [List.find?_eq_none]
  intro m hm
  obtain ⟨n, hn, hm⟩ := mem_preorders.1 hm
  have clean := (Bool.or_eq_false_iff.1 (calm n hn)).1
  rw [not_isCulprit (consistent n hn) clean hm]
  exact Bool.false_ne_true

theorem errorNode_of_none {n : Cst} (calm : n.children.find? isSuspect = none) :
    n.errorNode = n := by
  unfold errorNode
  split
  · rfl
  · next c first => rw [calm] at first; cases first

theorem errorNode_of_first {n c : Cst} (first : n.children.find? isSuspect = some c) :
    n.errorNode = if c.isCulprit then c else c.errorNode := by
  rw [errorNode]
  split
  · next calm => rw [calm] at first; cases first
  · next c' first' =>
      rw [first'] at first
      cases first
      rfl

/-- The first culprit below a node is the first one at or below its first suspect. -/
theorem find?_descendants {n c : Cst} (consistent : n.Consistent)
    (first : n.children.find? isSuspect = some c) :
    n.descendants.find? isCulprit = (c :: c.descendants).find? isCulprit := by
  obtain ⟨suspect, before, after, split, calm⟩ := List.find?_eq_some_iff_append.1 first
  have fits : ∀ m ∈ n.children, m.Consistent := fun m hm => consistent.child hm
  rw [split] at fits
  have here : ∃ m ∈ c.preorder, m.isCulprit = true :=
    have own := fits c (List.mem_append_right _ List.mem_cons_self)
    (hasError_iff c own).1 (own.hasError_of_isSuspect suspect)
  have skipped : (preorders before).find? isCulprit = none :=
    find?_of_calm (fun m hm => fits m (List.mem_append_left _ hm)) fun m hm => by
      simpa using calm m hm
  have found : (c.preorder.find? isCulprit).isSome := List.find?_isSome.2 here
  rw [descendants, split, preorders_append, preorders, List.find?_append, List.find?_append, skipped,
    Option.none_or, Option.or_of_isSome found, preorder_eq]

/-- The search ends at the first culprit in pre-order. -/
theorem errorNode_eq (n : Cst) (consistent : n.Consistent) : n.errorNode = n.firstCulprit := by
  rw [firstCulprit_eq]
  induction n using errorNode.induct with
  | case1 n none =>
      have calm : n.descendants.find? isCulprit = Option.none :=
        find?_of_calm (fun c hc => consistent.child hc) fun c hc => by
          simpa using List.find?_eq_none.1 none c hc
      rw [errorNode_of_none none, calm, Option.getD_none]
  | case2 n c first culprit =>
      rw [errorNode_of_first first, if_pos culprit, find?_descendants consistent first,
        List.find?_cons_of_pos culprit, Option.getD_some]
  | case3 n c first innocent ih =>
      have own := consistent.child (List.mem_of_find?_eq_some first)
      have deeper : ∃ m, c.descendants.find? isCulprit = some m := by
        have error := own.hasError_of_isSuspect (List.find?_some first)
        obtain ⟨m, hm, culprit⟩ := (hasError_iff c own).1 error
        rw [preorder_eq] at hm
        rcases List.mem_cons.1 hm with rfl | hm
        · exact absurd culprit innocent
        · exact Option.isSome_iff_exists.1 (List.find?_isSome.2 ⟨m, hm, culprit⟩)
      obtain ⟨m, found⟩ := deeper
      rw [errorNode_of_first first, if_neg innocent, ih own, find?_descendants consistent first,
        List.find?_cons_of_neg innocent, found, Option.getD_some, Option.getD_some]

/-! ## The turns of the search -/

/-- What one turn of the search comes to. -/
inductive Turn
  /-- The search goes on at the node. -/
  | on (n : Cst)
  /-- The node is found. -/
  | found (n : Cst)

/-- One turn of the search: it looks at the first suspect among the children. -/
def turn (n : Cst) : Turn :=
  match n.children.find? isSuspect with
  | none => .found n
  | some c => if c.isCulprit then .found c else .on c

/-- The search with so many turns at most. -/
def search : Nat → Cst → Option Cst
  | 0, _ => none
  | turns + 1, n =>
    match n.turn with
    | .found m => some m
    | .on c => search turns c

/-- The search ends, and takes no more turns than the tree has nodes. -/
theorem search_ends (turns : Nat) : ∀ n : Cst, n.size ≤ turns →
    search turns n = some n.errorNode := by
  induction turns with
  | zero =>
      intro n small
      rw [size_eq] at small
      exact absurd small (Nat.not_succ_le_zero _)
  | succ turns ih =>
      intro n small
      rw [search, turn]
      cases first : n.children.find? isSuspect with
      | none => rw [errorNode_of_none first]
      | some c =>
          have smaller := size_lt_of_mem (List.mem_of_find?_eq_some first)
          rw [size_eq] at small
          rw [errorNode_of_first first]
          by_cases culprit : c.isCulprit = true
          · simp only [if_pos culprit]
          · simp only [if_neg culprit]
            exact ih c (by omega)

end Cst

/-! ## What is reported -/

/-- The error that says of a node that it is where the syntax fails. -/
def ParseError.syntaxAt (filePath content : String) (m : Cst) : ParseError :=
  .syntaxError filePath (m.extent.startPoint.row + 1)
    (charColumn content.toUTF8 m.extent.startByte m.extent.startPoint.column + 1)

variable {grammar : Grammar} {filePath content : String} {root : Cst}

theorem parseSource_of_hasError (given : grammar content = some root)
    (error : root.hasError = true) :
    parseSource grammar filePath content = .error (.syntaxAt filePath content root.errorNode) := by
  rw [parseSource, given]
  simp only [error, if_true]
  rfl

/-- No node of the abstract tree of a consistent tree without an error is an error. -/
theorem kind_ne_error (consistent : root.Consistent) (clean : root.hasError = false)
    (source : ByteArray) :
    ∀ m ∈ (Abstraction.ofCst source root).preorder, m.kind ≠ Construct.error.kind := by
  intro m hm isError
  rw [Abstraction.preorder_ofCst] at hm
  obtain ⟨n, hn, rfl⟩ := List.mem_map.1 hm
  rw [Abstraction.kind_ofCst] at isError
  have innocent := Cst.not_isCulprit consistent clean hn
  rw [Cst.isCulprit_iff.2 (.inl isError)] at innocent
  cases innocent

/-- **A syntax error is reported at the first culprit.**  A source is refused if and only if it has
no concrete tree or the tree has an error.  If the flags of the tree are consistent, the refusal
names the first error or missing node below the root in pre-order, or the root if there is none;
and if the source is not refused, no node of its abstract tree is an error.  Consistent or not, the
search for the node comes to an end. -/
theorem parseSource_blames_first (grammar : Grammar) (filePath content : String) :
    ((∃ e, parseSource grammar filePath content = .error e) ↔
      grammar content = none ∨ ∃ root, grammar content = some root ∧ root.hasError = true) ∧
    (∀ root, grammar content = some root → root.Consistent →
      (root.hasError = true → parseSource grammar filePath content =
        .error (.syntaxAt filePath content root.firstCulprit)) ∧
      ∀ ast, parseSource grammar filePath content = .ok ast →
        ∀ m ∈ ast.preorder, m.kind ≠ "ERROR") ∧
    ∀ (n : Cst) (turns : Nat), n.size ≤ turns → n.search turns = some n.errorNode := by
  refine ⟨?_, ?_, fun n turns enough => Cst.search_ends turns n enough⟩
  · cases given : grammar content with
    | none => simp [parseSource, given]
    | some root =>
        cases flag : root.hasError with
        | true => simp [parseSource_of_hasError given flag, flag]
        | false => simp [parseSource_of_clean given flag, flag]
  · intro root given consistent
    cases flag : root.hasError with
    | true =>
        rw [parseSource_of_hasError given flag, Cst.errorNode_eq root consistent]
        exact ⟨fun _ => rfl, fun ast answered => nomatch answered⟩
    | false =>
        rw [parseSource_of_clean given flag]
        refine ⟨fun error => absurd error Bool.false_ne_true, ?_⟩
        rintro ast ⟨⟩
        exact kind_ne_error consistent flag _

/-- The text of a class with two errors in it. -/
def brokenText : String := "class A \x7b\n    int ; @@\n\x7d\n"

/-- The tree of `brokenText`: a missing name below the second part of the body, and octets that fit
nowhere after it. -/
def brokenRoot : Cst :=
  let missing : Cst := .mk "identifier" ⟨18, 18, ⟨1, 8⟩, ⟨1, 8⟩⟩ true true []
  let field : Cst := .mk "field_declaration" ⟨14, 19, ⟨1, 4⟩, ⟨1, 9⟩⟩ true false
    [.mk "integral_type" ⟨14, 17, ⟨1, 4⟩, ⟨1, 7⟩⟩ false false [], missing]
  let body : Cst := .mk "class_body" ⟨8, 24, ⟨0, 8⟩, ⟨2, 1⟩⟩ true false
    [.mk "\x7b" ⟨8, 9, ⟨0, 8⟩, ⟨0, 9⟩⟩ false false [], field,
      .mk "ERROR" ⟨20, 22, ⟨1, 10⟩, ⟨1, 12⟩⟩ true false []]
  .mk "program" ⟨0, 25, ⟨0, 0⟩, ⟨3, 0⟩⟩ true false [body]

theorem parseSource_blames_first_of_brokenRoot :
    brokenRoot.Consistent ∧ brokenRoot.hasError = true ∧
      parseSource (fun _ => some brokenRoot) "A.java" brokenText =
        .error (.syntaxError "A.java" 2 9) := by
  have consistent : brokenRoot.Consistent := by decide
  obtain ⟨-, each, -⟩ := parseSource_blames_first (fun _ => some brokenRoot) "A.java" brokenText
  have blamed := (each brokenRoot rfl consistent).1 rfl
  exact ⟨consistent, rfl, blamed.trans (congrArg Except.error (by decide +kernel))⟩

end ModifierLint.Java
