/-
# Visits by hand

The check can be handed any node, of a tree or from elsewhere, over and over and between visits of
other nodes.  `ImpliedStatic.Outcome` lists what a visit comes to, without a word about how it goes:
a node that is no occurrence does not belong to the tree, a member of a class or an enum that is
neither an enum nor an interface was not asked for, and every other node is reported if it violates
the rules.  A visit has one outcome and no other (`Outcome.unique`).

A visit goes through two scope queries, the kind of the node, the flag for the kind and the
modifiers, in this order.  `visitInPlace` says so step by step, on a check and a sink that keep what
was changed before a failure.  Step by step, a visit comes to what `ImpliedStatic.visit` answers
(`visitInPlace_run`), so it leaves the check as it was, and the sink too unless it reports.
-/
import ModifierLint.Check.Collector
import ModifierLint.Proofs.Java.Tokens
import ModifierLint.Proofs.Tree.Nearest

namespace ModifierLint

/-- A node that a check is handed: an occurrence of the tree, or a node from elsewhere. -/
structure Target where
  tree : SourceTree
  handle : Handle
  held : tree.contains handle = false ∨ ∃ i, tree.handle? i = some handle

/-- A list is made of two lists, each in its order. -/
inductive Interleaved {α : Type} : List α → List α → List α → Prop
  | nil : Interleaved [] [] []
  | left (a : α) {as bs cs : List α} (rest : Interleaved as bs cs) :
      Interleaved (a :: as) bs (a :: cs)
  | right (b : α) {as bs cs : List α} (rest : Interleaved as bs cs) :
      Interleaved as (b :: bs) (b :: cs)

namespace Interleaved

variable {α β : Type} {as bs cs : List α}

theorem append_left (more : List α) (rest : Interleaved as bs cs) :
    Interleaved (more ++ as) bs (more ++ cs) := by
  induction more with
  | nil => exact rest
  | cons a more ih => exact .left a ih

theorem append_right (more : List α) (rest : Interleaved as bs cs) :
    Interleaved as (more ++ bs) (more ++ cs) := by
  induction more with
  | nil => exact rest
  | cons b more ih => exact .right b ih

/-- What elements are replaced by is mixed as they are. -/
theorem flatMap (f : α → List β) (mixed : Interleaved as bs cs) :
    Interleaved (as.flatMap f) (bs.flatMap f) (cs.flatMap f) := by
  induction mixed with
  | nil => exact .nil
  | left a _ ih => exact ih.append_left (f a)
  | right b _ ih => exact ih.append_right (f b)

end Interleaved

theorem SourceTree.entry_of_not_contains {t : SourceTree} {h : Handle}
    (out : t.contains h = false) : t.entry h =
      .error ⟨h.node.kind, h.node.span.startLine, h.node.span.startColumn, t.filePath⟩ := by
  refine entry_of_foreign fun i place => ?_
  rw [contains, place] at out
  exact Nat.not_lt.1 (of_decide_eq_false out)

theorem Collector.reportAll_singleton (sink : Collector) (d : Diagnostic) :
    sink.reportAll [d] = sink.report d := by
  simp [reportAll, report]

namespace Java

/-- The kind of the innermost type around a node of the tree, if there is such a type. -/
def InnermostKind (x : Target) (owner : Option String) : Prop :=
  ∃ link, x.tree.NearestAncestor (fun a => BoundsScope a.node) x.handle link ∧
    owner = (link.bind x.tree.handle?).map (·.node.kind)

theorem InnermostKind.unique {x : Target} {owner owner' : Option String}
    (inner : InnermostKind x owner) (inner' : InnermostKind x owner') : owner' = owner := by
  obtain ⟨link, nearest, rfl⟩ := inner
  obtain ⟨link', nearest', rfl⟩ := inner'
  rw [nearest.unique nearest']

/-- A node from elsewhere has nothing around it in the tree. -/
theorem InnermostKind.contains {x : Target} {owner : Option String}
    (inner : InnermostKind x owner) : x.tree.contains x.handle ≠ false := by
  intro out
  obtain ⟨link, nearest, -⟩ := inner
  obtain ⟨way, up⟩ := nearest.exists_way
  rw [SourceTree.ancestors, SourceTree.parent, SourceTree.entry_of_not_contains out] at up
  cases up

/-- The scope query at an occurrence finds the innermost type. -/
theorem innermostKind_of_handle {x : Target} {i : Nat} (there : x.tree.handle? i = some x.handle) :
    ∃ owner, enclosingKind x.tree x.handle = .ok owner ∧ InnermostKind x owner := by
  obtain ⟨link, found, nearest⟩ := SourceTree.nearest_answers isTypeBoundary there
  simp only [isTypeBoundary_iff] at nearest
  refine ⟨_, ?_, link, nearest, rfl⟩
  rw [enclosingKind, enclosingType, found]
  refine congrArg Except.ok ?_
  cases link with
  | none => rfl
  | some j =>
      show (x.tree.entries[j]?).map (·.node.kind) = (x.tree.handle? j).map (·.node.kind)
      rw [SourceTree.handle?, Option.map_map]
      rfl

/-- A scope query about a node from elsewhere fails. -/
theorem enclosingKind_of_not_contains {t : SourceTree} {h : Handle} (out : t.contains h = false) :
    enclosingKind t h =
      .error ⟨h.node.kind, h.node.span.startLine, h.node.span.startColumn, t.filePath⟩ := by
  rw [enclosingKind, enclosingType, SourceTree.nearest, SourceTree.parent,
    SourceTree.entry_of_not_contains out]
  rfl

namespace ImpliedStatic

/-! ## What a visit comes to -/

/-- The failure of a visit, or the diagnostic that it reports if it reports one. -/
abbrev Answer := Except VisitError (Option Diagnostic)

/-- The reports of a visit. -/
def Answer.reports : Answer → List Diagnostic
  | .ok reported => reported.toList
  | .error _ => []

/-- The failure of a visit, if it fails. -/
def Answer.failure : Answer → Option VisitError
  | .ok _ => none
  | .error e => some e

/-- What a visit comes to. -/
inductive Outcome (c : ImpliedStatic) (x : Target) : Answer → Prop
  /-- The node is no occurrence of the tree. -/
  | foreign (out : x.tree.contains x.handle = false) :
      Outcome c x (.error (.notInTree ⟨x.handle.node.kind, x.handle.node.span.startLine,
        x.handle.node.span.startColumn, x.tree.filePath⟩))
  /-- The node is a member of a class or an enum, but of a kind that the check has no rule for. -/
  | unexpected {owner : Option String} (inner : InnermostKind x owner)
      (member : owner = some "class_declaration" ∨ owner = some "enum_declaration")
      (other : ¬(x.handle.node.kind = "enum_declaration" ∨
        x.handle.node.kind = "interface_declaration")) :
      Outcome c x (.error (.unexpectedKind "ClassMemberImpliedModifier" x.handle.node.kind
        x.tree.filePath x.handle.node.span.startLine (x.handle.node.span.startColumn + 1)))
  /-- The node violates the rules. -/
  | violation {owner : Option String} (inner : InnermostKind x owner)
      (violated : c.rules.Violated owner x.handle.node) :
      Outcome c x (.ok (some (c.diagnostic x.tree.filePath x.handle.node)))
  /-- The node is not a member of a class or an enum, or it conforms to the rules. -/
  | lawful {owner : Option String} (inner : InnermostKind x owner)
      (expected : owner = some "class_declaration" ∨ owner = some "enum_declaration" →
        x.handle.node.kind = "enum_declaration" ∨ x.handle.node.kind = "interface_declaration")
      (lawful : ¬c.rules.Violated owner x.handle.node) : Outcome c x (.ok none)

/-- A violation is one of an enum or an interface. -/
theorem kind_of_violated {r : Rules} {owner : Option String} {n : Node}
    (violated : r.Violated owner n) :
    n.kind = "enum_declaration" ∨ n.kind = "interface_declaration" :=
  violated.2.1.imp And.left And.left

/-- A visit has one outcome. -/
theorem Outcome.unique {c : ImpliedStatic} {x : Target} {o o' : Answer} (outcome : c.Outcome x o)
    (outcome' : c.Outcome x o') : o' = o := by
  cases outcome with
  | foreign out =>
      cases outcome' with
      | foreign => rfl
      | unexpected inner => exact absurd out inner.contains
      | violation inner => exact absurd out inner.contains
      | lawful inner => exact absurd out inner.contains
  | unexpected inner member other =>
      cases outcome' with
      | foreign out => exact absurd out inner.contains
      | unexpected => rfl
      | violation _ violated => exact absurd (kind_of_violated violated) other
      | lawful inner' expected =>
          cases inner.unique inner'
          exact absurd (expected member) other
  | violation inner violated =>
      cases outcome' with
      | foreign out => exact absurd out inner.contains
      | unexpected _ _ other => exact absurd (kind_of_violated violated) other
      | violation => rfl
      | lawful inner' _ lawful =>
          cases inner.unique inner'
          exact absurd violated lawful
  | lawful inner expected lawful =>
      cases outcome' with
      | foreign out => exact absurd out inner.contains
      | unexpected inner' member other =>
          cases inner.unique inner'
          exact absurd (expected member) other
      | violation inner' violated =>
          cases inner.unique inner'
          exact absurd violated lawful
      | lawful => rfl

/-! ## Step by step -/

/-- What a visit can change: the check, and the sink that it reports to. -/
structure Scene where
  check : ImpliedStatic
  sink : Collector

/-- Steps of a visit.  What was changed before a failure stays changed. -/
abbrev Visiting := ExceptT VisitError (StateM Scene)

/-- Asks a scope query. -/
def ask (answer : Except NotInTree Bool) : Visiting Bool :=
  ExceptT.mk (pure (answer.mapError .notInTree))

/-- Whether the node is a member of a class or an enum; enums are asked for only if it is not a
member of a class. -/
def isMember (x : Target) : Visiting Bool := do
  if ← ask (isInClass x.tree x.handle) then return true
  ask (isInEnum x.tree x.handle)

/-- The flag for the kind of the node. -/
def flagFor (x : Target) : Visiting Bool := do
  let check := (← get).check
  if x.handle.node.kind = Construct.enumDeclaration.kind then return check.enforceEnum
  if x.handle.node.kind = Construct.interfaceDeclaration.kind then return check.enforceInterface
  throw (.unexpectedKind name x.handle.node.kind x.tree.filePath x.handle.node.span.startLine
    (x.handle.node.span.startColumn + 1))

/-- Reports the node. -/
def reportNode (x : Target) : Visiting Unit :=
  modify fun scene => { scene with
    sink := scene.sink.report (scene.check.toCheck.diagnose x.tree
      ⟨x.handle.node, messageKey, [Modifier.isStatic.keyword]⟩) }

/-- Looks at a node. -/
def visitInPlace (x : Target) : Visiting Unit := do
  if ← isMember x then
    let enforce ← flagFor x
    if enforce && !x.handle.node.hasModifier Modifier.isStatic.keyword then reportNode x

section

variable {α β : Type} {step : Visiting α} {next : α → Visiting β} {s s' : Scene}

theorem run_bind_of_ok {a : α} (first : step.run.run s = (.ok a, s')) :
    (step >>= next).run.run s = (next a).run.run s' := by
  rw [ExceptT.run_bind, StateT.run_bind, first]
  rfl

theorem run_bind_of_error {e : VisitError} (first : step.run.run s = (.error e, s')) :
    (step >>= next).run.run s = (.error e, s') := by
  rw [ExceptT.run_bind, StateT.run_bind, first]
  rfl

end

variable {c : ImpliedStatic} {x : Target}

/-- The queries together ask whether the innermost type makes its members static. -/
theorem isMember_run {owner : Option String} (asked : enclosingKind x.tree x.handle = .ok owner)
    (s : Scene) : (isMember x).run.run s = (.ok (impliesStatic owner), s) := by
  have inClass : (ask (isInClass x.tree x.handle)).run.run s =
      (.ok (owner == some Construct.classDeclaration.kind), s) := by
    rw [isInClass, asked]
    rfl
  rw [isMember, run_bind_of_ok inClass, impliesStatic]
  cases owner == some Construct.classDeclaration.kind with
  | true => rfl
  | false =>
      rw [isInEnum, asked]
      rfl

theorem isMember_run_of_error {e : NotInTree} (asked : enclosingKind x.tree x.handle = .error e)
    (s : Scene) : (isMember x).run.run s = (.error (.notInTree e), s) := by
  have failed : (ask (isInClass x.tree x.handle)).run.run s = (.error (.notInTree e), s) := by
    rw [isInClass, asked]
    rfl
  rw [isMember, run_bind_of_error failed]

/-- The flag is there if there is a rule for the kind. -/
theorem flagFor_run (c : ImpliedStatic) (x : Target) (sink : Collector) :
    (flagFor x).run.run ⟨c, sink⟩ =
      (match c.enforces? x.handle.node.kind with
        | some on => .ok on
        | none => .error (.unexpectedKind name x.handle.node.kind x.tree.filePath
            x.handle.node.span.startLine (x.handle.node.span.startColumn + 1)), ⟨c, sink⟩) := by
  unfold flagFor enforces?
  by_cases enum : x.handle.node.kind = Construct.enumDeclaration.kind
  · simp only [if_pos enum]
    rfl
  · by_cases interface : x.handle.node.kind = Construct.interfaceDeclaration.kind
    · simp only [if_neg enum, if_pos interface]
      rfl
    · simp only [if_neg enum, if_neg interface]
      rfl

/-- Step by step, a visit fails as `visit` does, and adds its diagnostics to the sink. -/
theorem visitInPlace_run (c : ImpliedStatic) (x : Target) (sink : Collector) :
    (visitInPlace x).run.run ⟨c, sink⟩ =
      (match (c.visit x.tree x.handle).failure with
        | some e => .error e
        | none => .ok (),
      ⟨c, sink.reportAll (c.toCheck.diagnostics x.tree (c.visit x.tree x.handle))⟩) := by
  have unchanged : Scene.mk c sink = ⟨c, sink.reportAll []⟩ := by rw [Collector.reportAll_nil]
  rw [visitInPlace, visit]
  cases asked : enclosingKind x.tree x.handle with
  | error e =>
      rw [run_bind_of_error (isMember_run_of_error asked _)]
      exact congrArg (Prod.mk _) unchanged
  | ok owner =>
      rw [run_bind_of_ok (isMember_run asked _)]
      dsimp only
      cases impliesStatic owner with
      | false => exact congrArg (Prod.mk _) unchanged
      | true =>
          have flag := flagFor_run c x sink
          simp only [Bool.not_true, Bool.false_eq_true, if_false, if_true]
          cases enforces : c.enforces? x.handle.node.kind with
          | none =>
              rw [enforces] at flag
              rw [run_bind_of_error flag]
              exact congrArg (Prod.mk _) unchanged
          | some on =>
              rw [enforces] at flag
              rw [run_bind_of_ok flag]
              dsimp only
              split
              · exact congrArg (fun sink => (_, Scene.mk c sink)) (sink.reportAll_singleton _).symm
              · exact congrArg (Prod.mk _) unchanged

/-! ## One visit -/

/-- Every visit has an outcome: `visit` fails and finds what the outcome says. -/
theorem exists_outcome (c : ImpliedStatic) (x : Target) : ∃ o : Answer, c.Outcome x o ∧
    (c.visit x.tree x.handle).failure = o.failure ∧
    c.toCheck.diagnostics x.tree (c.visit x.tree x.handle) = o.reports := by
  rcases x.held with out | ⟨i, there⟩
  · rw [visit, enclosingKind_of_not_contains out]
    exact ⟨_, .foreign out, rfl, rfl⟩
  obtain ⟨owner, asked, inner⟩ := innermostKind_of_handle there
  obtain ⟨t, h, held⟩ := x
  obtain ⟨e, here, rfl⟩ := SourceTree.handle?_eq_some.1 there
  by_cases handled : e.node.kind ∈ acceptable
  · obtain rfl := Except.ok.inj ((enclosingKind_eq rfl here).symm.trans asked)
    rw [c.visit_eq here handled]
    by_cases violated : c.rules.Violated (ownerKind t e.parent) e.node
    · refine ⟨_, .violation inner violated, rfl, ?_⟩
      rw [if_pos violated]
      rfl
    · refine ⟨_, .lawful inner (fun _ => mem_acceptable.1 handled) violated, rfl, ?_⟩
      rw [if_neg violated]
      rfl
  · have other := mt mem_acceptable.2 handled
    rw [visit, asked, c.enforces?_of_not_acceptable handled]
    dsimp only
    by_cases member : impliesStatic owner = true
    · rw [member]
      exact ⟨_, .unexpected inner (impliesStatic_iff.1 member) other, rfl, rfl⟩
    · rw [Bool.eq_false_iff.2 member]
      exact ⟨_, .lawful inner (fun inside => absurd (impliesStatic_iff.2 inside) member)
        (mt kind_of_violated other), rfl, rfl⟩

/-- A visit of a target with an outcome leaves the check alone and reports what the outcome says. -/
theorem Outcome.run {c : ImpliedStatic} {x : Target} {o : Answer} (outcome : c.Outcome x o)
    (sink : Collector) : (visitInPlace x).run.run ⟨c, sink⟩ =
      (o.map fun _ => (), ⟨c, sink.reportAll o.reports⟩) := by
  obtain ⟨o', outcome', failure, reports⟩ := c.exists_outcome x
  obtain rfl := outcome.unique outcome'
  rw [visitInPlace_run, failure, reports]
  cases o' with
  | ok reported => rfl
  | error e => rfl

/-! ## Many visits -/

/-- Visits one target after the other; a visit that fails does not keep the next one from being
made. -/
def visitAll (xs : List Target) : StateM Scene (List (Except VisitError Unit)) :=
  xs.mapM fun x => (visitInPlace x).run

end ImpliedStatic

end Java

end ModifierLint
