/-
# Violations of the rule on implied static

The rule, stated from the top of a tree down: `violations` carries the kind of the innermost type
around a node and lists, in pre-order, the enums and interfaces that are members of a class or an
enum and do not say `static`.

The check answers from the bottom up, by links to parents, one node at a time.  Here the two are
shown to agree on every tree.  `ImpliedStatic.visit_eq` is the outcome of one visit in terms of the
inherited innermost type; the induction over the tree then follows the entries of a subtree as a
segment of those of the whole tree (`ImpliedStatic.found_ofNode`).
-/
import ModifierLint.Java.ImpliedStatic
import ModifierLint.Proofs.Java.Enclosing
import ModifierLint.Proofs.Walk.Acceptance

namespace ModifierLint.Java

/-! ## The rule -/

/-- A declaration says `static` if the first list of modifiers in it does. -/
def SaysStatic (n : Node) : Prop :=
  match n.children.find? fun c => c.kind = "modifiers" with
  | none => False
  | some list => ∃ c ∈ list.children, c.kind = "static"

instance (n : Node) : Decidable (SaysStatic n) :=
  match h : n.children.find? fun c => c.kind = "modifiers" with
  | none => .isFalse (by rw [SaysStatic, h]; exact id)
  | some list => decidable_of_iff (∃ c ∈ list.children, c.kind = "static") (by rw [SaysStatic, h])

/-- Which of the two rules are on. -/
structure Rules where
  forEnums : Bool
  forInterfaces : Bool

/-- A declaration inside `owner`, the kind of the innermost type around it, violates the rules if
one of them covers it, the owner makes it static, and it does not say so. -/
def Rules.Violated (r : Rules) (owner : Option String) (n : Node) : Prop :=
  (owner = some "class_declaration" ∨ owner = some "enum_declaration") ∧
  (n.kind = "enum_declaration" ∧ r.forEnums ∨ n.kind = "interface_declaration" ∧ r.forInterfaces) ∧
  ¬SaysStatic n

instance (r : Rules) (owner : Option String) (n : Node) : Decidable (r.Violated owner n) :=
  inferInstanceAs (Decidable (_ ∧ _))

namespace Rules

mutual

/-- The violations at a node and below, in pre-order. -/
def violations (r : Rules) (owner : Option String) : Node → List Node
  | n@(.mk kind _ _ children) =>
    (if r.Violated owner n then [n] else []) ++
      violationsAmong r (if BoundsScope n then some kind else owner) children

/-- The violations at siblings and below them. -/
def violationsAmong (r : Rules) (owner : Option String) : List Node → List Node
  | [] => []
  | n :: rest => violations r owner n ++ violationsAmong r owner rest

end

theorem violations_eq (r : Rules) (owner : Option String) (n : Node) :
    r.violations owner n = (if r.Violated owner n then [n] else []) ++
      r.violationsAmong (if BoundsScope n then some n.kind else owner) n.children := by
  cases n; rw [violations, Node.kind, Node.children]

mutual

/-- The violations stand in pre-order among the nodes of the tree. -/
theorem violations_sublist (r : Rules) (owner : Option String) :
    ∀ n : Node, (r.violations owner n).Sublist n.preorder
  | .mk kind span text children => by
      have below := violationsAmong_sublist r
        (if BoundsScope (.mk kind span text children) then some kind else owner) children
      rw [violations_eq, Node.preorder, Node.children]
      split
      · exact below.cons_cons _
      · exact below.cons _

theorem violationsAmong_sublist (r : Rules) (owner : Option String) :
    ∀ ns : List Node, (r.violationsAmong owner ns).Sublist (Node.preorders ns)
  | [] => .slnil
  | n :: ns => by
      rw [violationsAmong, Node.preorders]
      exact (violations_sublist r owner n).append (violationsAmong_sublist r owner ns)

end

end Rules

/-! ## The tests of the check -/

theorem hasModifier_iff {n : Node} :
    n.hasModifier Modifier.isStatic.keyword = true ↔ SaysStatic n := by
  have lists : n.modifiers? = n.children.find? fun c => c.kind = "modifiers" := rfl
  rw [Node.hasModifier, lists, SaysStatic]
  cases n.children.find? fun c => c.kind = "modifiers" with
  | none => simp
  | some list => simp [Node.hasChild, Modifier.keyword]

theorem impliesStatic_iff {owner : Option String} : ImpliedStatic.impliesStatic owner = true ↔
    owner = some "class_declaration" ∨ owner = some "enum_declaration" := by
  simp [ImpliedStatic.impliesStatic, Construct.kind]

namespace ImpliedStatic

variable {t : SourceTree}

/-- The rules that a check has switched on. -/
def rules (c : ImpliedStatic) : Rules := ⟨c.enforceEnum, c.enforceInterface⟩

/-- The rule for a kind that the check is able to handle is on or off. -/
theorem enforces?_of_acceptable {c : ImpliedStatic} {kind : String} (hk : kind ∈ acceptable) :
    ∃ on, c.enforces? kind = some on ∧
      (on = true ↔ kind = "enum_declaration" ∧ c.rules.forEnums ∨
        kind = "interface_declaration" ∧ c.rules.forInterfaces) := by
  simp only [acceptable, Construct.kind, List.mem_cons, List.not_mem_nil, or_false] at hk
  rcases hk with rfl | rfl
  · exact ⟨c.enforceEnum, rfl, by simp [rules]⟩
  · exact ⟨c.enforceInterface, rfl, by simp [rules]⟩

/-- A visit of a node of an acceptable kind finds a violation or nothing, and does not fail. -/
theorem visit_eq (c : ImpliedStatic) {i : Nat} {e : Entry} (there : t.entries[i]? = some e)
    (hk : e.node.kind ∈ acceptable) :
    c.visit t ⟨e.node, some i⟩ =
      { findings := if c.rules.Violated (ownerKind t e.parent) e.node
          then [⟨e.node, "class.implied.modifier", ["static"]⟩] else [] } := by
  obtain ⟨on, enforces, ruled⟩ := c.enforces?_of_acceptable hk
  rw [visit, enclosingKind_eq rfl there]
  simp only [enforces, Rules.Violated, ← ruled, ← hasModifier_iff, ← impliesStatic_iff]
  cases impliesStatic (ownerKind t e.parent) with
  | false => simp
  | true =>
      cases on with
      | false => simp
      | true => cases e.node.hasModifier Modifier.isStatic.keyword <;> rfl

/-- A check whose tokens fit asks for the kinds that it is able to handle, and for no others. -/
theorem mem_effectiveTokens {c : ImpliedStatic} (fits : c.toCheck.tokenError? = none)
    {kind : String} : kind ∈ c.toCheck.effectiveTokens ↔ kind ∈ acceptable := by
  obtain ⟨within, covers⟩ := Check.tokenError?_eq_none.1 fits
  exact ⟨within kind, covers kind⟩

/-- A check with its default tokens fits. -/
theorem fits_of_default {c : ImpliedStatic} (default : c.tokens = none) :
    c.toCheck.tokenError? = none := by
  have all : c.toCheck.effectiveTokens = acceptable := by
    rw [Check.effectiveTokens, toCheck, default]
    rfl
  rw [Check.tokenError?_eq_none, all]
  exact ⟨fun _ h => h, fun _ h => h⟩

/-- A check whose tokens fit accepts every tree. -/
theorem accepts {c : ImpliedStatic} (fits : c.toCheck.tokenError? = none) (t : SourceTree) :
    c.toCheck.Accepts t := by
  intro k h hh asked
  obtain ⟨e, there, rfl⟩ := Option.map_eq_some_iff.1 hh
  exact congrArg Visit.failure (c.visit_eq there ((mem_effectiveTokens fits).1 asked))

/-- The diagnostic of a node that violates the rules. -/
def diagnostic (c : ImpliedStatic) (filePath : String) (n : Node) : Diagnostic where
  filePath := filePath
  line := n.span.startLine
  column := n.span.startColumn + 1
  messageKey := "class.implied.modifier"
  args := ["static"]
  checkName := "ClassMemberImpliedModifier"
  severity := c.severity

/-- What a walker with the check alone finds at an occurrence. -/
theorem findings_eq {c : ImpliedStatic} {w : Walker} (built : Walker.build [c.toCheck] = .ok w)
    {i : Nat} {e : Entry} (there : t.entries[i]? = some e) :
    w.findings t ⟨e.node, some i⟩ =
      (if c.rules.Violated (ownerKind t e.parent) e.node then [e.node] else []).map
        (c.diagnostic t.filePath) := by
  have checks := Walker.build_eq_ok built
  have fits : c.toCheck.tokenError? = none := w.valid _ (by rw [checks]; exact List.mem_singleton_self _)
  have asked := (mem_effectiveTokens fits : e.node.kind ∈ _ ↔ _)
  rw [Walker.findings, Walker.checksFor, checks]
  by_cases hk : e.node.kind ∈ acceptable
  · have found : c.toCheck.visit t ⟨e.node, some i⟩ = _ := c.visit_eq there hk
    simp only [List.filter, List.contains_eq_mem, asked.2 hk, decide_true, List.flatMap_singleton,
      Check.diagnostics, found]
    split <;> rfl
  · have lawful : ¬c.rules.Violated (ownerKind t e.parent) e.node := by
      rintro ⟨-, ⟨enum, -⟩ | ⟨interface, -⟩, -⟩
      · exact hk (by rw [enum]; decide)
      · exact hk (by rw [interface]; decide)
    simp [lawful, asked, hk]

/-! ## From the top and from the bottom -/

mutual

/-- What is found at the nodes of a subtree are the violations of the rule in it, inside the owner
that its link upwards leads to. -/
theorem found_ofNode {c : ImpliedStatic} {w : Walker}
    (built : Walker.build [c.toCheck] = .ok w) {number : Nat} {parent : Option Nat} :
    ∀ {n : Node}, t.HasAt number (Entry.ofNode number parent n) →
      (Handle.numbered number n.preorder).flatMap (w.findings t) =
        (c.rules.violations (ownerKind t parent) n).map (c.diagnostic t.filePath)
  | .mk kind span text children, holds => by
      rw [Entry.ofNode_eq] at holds
      have here := holds.head
      have found := findings_eq built here
      have inside : t.HasAt (number + 1) (Entry.ofNodes (number + 1) (some number) children) :=
        holds.tail
      have below := found_ofNodes built inside
      rw [ownerKind_some here] at below
      rw [Node.preorder, Handle.numbered_cons, List.flatMap_cons, Rules.violations,
        List.map_append, found, below]
      rfl

theorem found_ofNodes {c : ImpliedStatic} {w : Walker}
    (built : Walker.build [c.toCheck] = .ok w) {number : Nat} {parent : Option Nat} :
    ∀ {ns : List Node}, t.HasAt number (Entry.ofNodes number parent ns) →
      (Handle.numbered number (Node.preorders ns)).flatMap (w.findings t) =
        (c.rules.violationsAmong (ownerKind t parent) ns).map (c.diagnostic t.filePath)
  | [], _ => rfl
  | n :: ns, holds => by
      have here := found_ofNode built holds.left
      have after := holds.right
      rw [Entry.length_ofNode] at after
      rw [Node.preorders, Handle.numbered_append, List.flatMap_append, Rules.violationsAmong,
        List.map_append, here, Node.length_preorder, found_ofNodes built after]

end

/-- The check finds something at visits only. -/
theorem quiet (c : ImpliedStatic) : c.toCheck.Quiet :=
  ⟨fun _ => rfl, fun _ _ => rfl, fun _ => rfl⟩

theorem quiet_of_built {c : ImpliedStatic} {w : Walker}
    (built : Walker.build [c.toCheck] = .ok w) : ∀ check ∈ w.checks, check.Quiet := by
  rw [Walker.build_eq_ok built, List.forall_mem_singleton]
  exact c.quiet

/-- A walker with the check alone accepts every tree. -/
theorem accepts_of_built {c : ImpliedStatic} {w : Walker}
    (built : Walker.build [c.toCheck] = .ok w) (t : SourceTree) :
    ∀ check ∈ w.checks, check.Accepts t := by
  intro check hc
  have fits := w.valid check hc
  rw [Walker.build_eq_ok built] at hc
  obtain rfl := List.mem_singleton.1 hc
  exact accepts fits t

/-- A walker with the check alone reports the violations of the rules, and nothing fails. -/
theorem walk_eq_violations {c : ImpliedStatic} {w : Walker}
    (built : Walker.build [c.toCheck] = .ok w) (t : SourceTree) :
    (w.walk t).failure = none ∧ (w.walk t).reported.toList =
      (c.rules.violations none t.root).map (c.diagnostic t.filePath) := by
  have accepts := accepts_of_built built t
  refine ⟨by rw [Walker.walk_of_accepts accepts], ?_⟩
  rw [Walker.reported_of_accepts (quiet_of_built built) accepts, SourceTree.handles, found_ofNode built t.hasAt_root,
    ownerKind_none]

/-- **The check reports the violations of the rule, and nothing else.**  For all settings of the
two rules and of the severity, the check with its default tokens can be walked, and a walk over any
tree ends without a failure and reports one diagnostic for each node that the recursion from the top
lists, in its order. -/
theorem walk_reports_violations (severity : Severity) (enforceEnum enforceInterface : Bool) :
    ∃ w, Walker.build
        [({ severity, enforceEnum, enforceInterface } : ImpliedStatic).toCheck] = .ok w ∧
      ∀ (root : Node) (filePath : String),
        (w.walk (.ofRoot root filePath)).failure = none ∧
        (w.walk (.ofRoot root filePath)).reported.toList =
          (Rules.violations ⟨enforceEnum, enforceInterface⟩ none root).map fun n =>
            { filePath
              line := n.span.startLine
              column := n.span.startColumn + 1
              messageKey := "class.implied.modifier"
              args := ["static"]
              checkName := "ClassMemberImpliedModifier"
              severity } := by
  let c : ImpliedStatic := { severity, enforceEnum, enforceInterface }
  have fits : ∀ check ∈ [c.toCheck], check.tokenError? = none := by
    intro check hc
    obtain rfl := List.mem_singleton.1 hc
    exact fits_of_default rfl
  have built := Walker.build_of_fits fits
  exact ⟨_, built, fun root filePath => walk_eq_violations built (.ofRoot root filePath)⟩

end ImpliedStatic

end ModifierLint.Java
