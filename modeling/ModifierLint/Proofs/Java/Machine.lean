/-
# The steps of the conversion

`Abstraction.run` says what comes of a stack of tasks.  Here its single steps are a relation between
states, so that something can be said of what the list of finished nodes holds on the way, and not
only of what is there at the end.

The invariant is `State.Ready`.  Read along the tasks, it says of every task of building a node
that the converted children of this node are on top of the finished nodes when the task comes up.
It holds at the start, and every step keeps it (`Step.ready`).  So no node is ever built from
fewer children than it has, and what was finished before is left alone.
-/
import Mathlib.Logic.Relation
import ModifierLint.Proofs.Java.Conversion

namespace ModifierLint.Java.Abstraction

variable (source : ByteArray)

theorem ofCsts_eq_map (ns : List Cst) : ofCsts source ns = ns.map (ofCst source) := by
  induction ns with
  | nil => rfl
  | cons n rest ih =>
      rw [ofCsts, List.map_cons, ih]

/-- A converted node has the kind, the place and the text of the concrete node, and the converted
children of it, from left to right. -/
theorem ofCst_eq_mk (n : Cst) : ofCst source n =
    .mk n.kind (spanOf source n.extent) (some (textOf source n.extent))
      (n.children.map (ofCst source)) := by
  rw [ofCst_eq, ofCsts_eq_map, build]

/-! ## States and steps -/

/-- How far the conversion has come: the converted nodes whose parents are not built yet, the latest
first, and the tasks that are left. -/
structure State where
  finished : List Node
  tasks : List Task

/-- Nothing is finished, and the whole tree is to be entered. -/
def State.start (n : Cst) : State :=
  ⟨[], [.enter n]⟩

/-- One turn of the loop. -/
inductive Step : State → State → Prop
  /-- Entering a node puts its children on the stack, and under them the task of building it. -/
  | enter (finished : List Node) (n : Cst) (rest : List Task) :
      Step ⟨finished, .enter n :: rest⟩
        ⟨finished, n.children.map .enter ++ .build n :: rest⟩
  /-- Building a node takes as many finished nodes as it has children. -/
  | build (finished : List Node) (n : Cst) (rest : List Task) :
      Step ⟨finished, .build n :: rest⟩
        ⟨Abstraction.build source n (finished.take n.children.length).reverse ::
          finished.drop n.children.length, rest⟩

/-- The turns of the loop, one after the other. -/
abbrev Reaches : State → State → Prop :=
  Relation.ReflTransGen (Step source)

variable {source}

/-- A step changes nothing about what comes of a state. -/
theorem Step.run_eq {s s' : State} (step : Step source s s') :
    run source s.finished s.tasks = run source s'.finished s'.tasks := by
  cases step with
  | enter finished n rest => rw [run]
  | build finished n rest => rw [run]

theorem Reaches.run_eq {s s' : State} (reaches : Reaches source s s') :
    run source s.finished s.tasks = run source s'.finished s'.tasks := by
  induction reaches with
  | refl => rfl
  | tail _ step ih => rw [ih, step.run_eq]

/-- The loop ends, and what comes of a state is then finished. -/
theorem reaches_run (finished : List Node) (tasks : List Task) :
    Reaches source ⟨finished, tasks⟩ ⟨run source finished tasks, []⟩ := by
  induction finished, tasks using run.induct source with
  | case1 finished =>
      rw [run]
  | case2 finished n rest ih =>
      rw [run]
      exact .head (.enter finished n rest) ih
  | case3 finished n rest count children ih =>
      rw [run]
      exact .head (.build finished n rest) ih

/-! ## What the finished nodes hold -/

/-- When the task of building a node comes up, its converted children are on top of the finished
nodes, the last one first. -/
def State.Ready (source : ByteArray) (finished : List Node) : List Task → Prop
  | [] => True
  | .enter n :: rest => Ready source (ofCst source n :: finished) rest
  | .build n :: rest => ∃ below, finished = (n.children.map (ofCst source)).reverse ++ below ∧
      Ready source (ofCst source n :: below) rest

theorem ready_enters (ns : List Cst) (rest : List Task) : ∀ finished,
    State.Ready source finished (ns.map .enter ++ rest) ↔
      State.Ready source ((ns.map (ofCst source)).reverse ++ finished) rest := by
  induction ns with
  | nil =>
      intro finished
      rfl
  | cons n ns ih =>
      intro finished
      rw [List.map_cons, List.cons_append, State.Ready, ih, List.map_cons, List.reverse_cons,
        List.append_assoc, List.singleton_append]

theorem Step.ready {s s' : State} (step : Step source s s')
    (ready : State.Ready source s.finished s.tasks) :
    State.Ready source s'.finished s'.tasks := by
  cases step with
  | enter finished n rest =>
      rw [ready_enters]
      exact ⟨finished, rfl, ready⟩
  | build finished n rest =>
      obtain ⟨below, top, ready⟩ := ready
      have count : n.children.length = (n.children.map (ofCst source)).reverse.length := by
        rw [List.length_reverse, List.length_map]
      subst top
      show State.Ready source (_ :: List.drop _ _) rest
      rw [count, List.take_left, List.drop_left, List.reverse_reverse, ← ofCsts_eq_map, ← ofCst_eq]
      exact ready

theorem Reaches.ready {n : Cst} {s : State} (reaches : Reaches source (.start n) s) :
    State.Ready source s.finished s.tasks := by
  induction reaches with
  | refl => exact True.intro
  | tail _ step ih => exact step.ready ih

/-- A node is built from its own children, converted. -/
theorem Reaches.children_on_top {n m : Cst} {finished : List Node} {rest : List Task}
    (reaches : Reaches source (.start n) ⟨finished, .build m :: rest⟩) :
    ∃ below, finished = (m.children.map (ofCst source)).reverse ++ below := by
  obtain ⟨below, top, -⟩ := reaches.ready
  exact ⟨below, top⟩

/-- At the end the converted tree is the only finished node. -/
theorem Reaches.finished_eq {n : Cst} {finished : List Node}
    (reaches : Reaches source (.start n) ⟨finished, []⟩) : finished = [ofCst source n] := by
  have same := reaches.run_eq
  rw [State.start, run_enter, run, run] at same
  exact same.symm

variable (source)

/-- The conversion with a stack comes to the tree of the recursion: the nodes of the concrete tree
in their order, each with its own kind, place, text and children.  Whenever a node is built there
are as many finished nodes as it has children, and these are its children; the loop ends, and then
exactly one node is finished. -/
theorem convert_eq_recursion (n : Cst) :
    convert source n = ofCst source n ∧
    (∀ m, ofCst source m =
      .mk m.kind (spanOf source m.extent) (some (textOf source m.extent))
        (m.children.map (ofCst source))) ∧
    (convert source n).preorder = n.preorder.map (ofCst source) ∧
    (∀ finished m rest, Reaches source (.start n) ⟨finished, .build m :: rest⟩ →
      m.children.length ≤ finished.length ∧
      (finished.take m.children.length).reverse = m.children.map (ofCst source)) ∧
    (∀ finished, Reaches source (.start n) ⟨finished, []⟩ ↔ finished = [convert source n]) := by
  refine ⟨convert_eq_ofCst source n, ofCst_eq_mk source, ?_, ?_, ?_⟩
  · rw [convert_eq_ofCst, preorder_ofCst]
  · intro finished m rest reaches
    obtain ⟨below, rfl⟩ := reaches.children_on_top
    have count : (m.children.map (ofCst source)).reverse.length = m.children.length := by
      rw [List.length_reverse, List.length_map]
    refine ⟨?_, ?_⟩
    · rw [List.length_append, count]
      exact Nat.le_add_right _ _
    · rw [← count, List.take_left, List.reverse_reverse]
  · intro finished
    rw [convert_eq_ofCst]
    constructor
    · exact Reaches.finished_eq
    · rintro rfl
      have ends : Reaches source (.start n) ⟨run source [] [.enter n], []⟩ :=
        reaches_run [] [.enter n]
      rw [run_enter, run] at ends
      exact ends

end ModifierLint.Java.Abstraction
