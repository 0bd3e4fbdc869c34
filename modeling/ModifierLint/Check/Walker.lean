/-
# The walk

A walker gives every node of a tree to the checks that asked for its kind, in the order in which
the checks are listed.  Nodes are visited before and left after their children; all checks are told
when the walk begins and when it is finished.  What a check finds at any of these calls is reported.

The loop keeps a stack of tasks instead of recursing.  A visit that fails ends the walk at once:
nothing is visited, left or finished after it, and what was reported before it stays reported.
Other calls do not fail.
-/
import ModifierLint.Check.Collector
import ModifierLint.Check.Basic

namespace ModifierLint

/-- Checks whose tokens fit. -/
structure Walker where
  checks : List Check
  valid : ∀ c ∈ checks, c.tokenError? = none

/-- A call to a check.  `check` is the check's place in the walker's list. -/
inductive Event
  | begin (check : Nat)
  | visit (check : Nat) (node : Handle)
  | leave (check : Nat) (node : Handle)
  | finish (check : Nat)

/-- The outcome of a walk: the calls made, the diagnostics in the order of their reports, and the
failure that ended the walk if one did. -/
structure Walk where
  events : Array Event := #[]
  reported : Array Diagnostic := #[]
  failure : Option VisitError := none

/-- What is left to do at a node; a node that has been visited has a number. -/
inductive Task
  | enter (node : Node)
  | leave (node : Handle)

/-- The number of steps that a task takes at most. -/
def Task.cost : Task → Nat
  | enter n => 2 * n.size
  | leave _ => 1

/-- The number of steps that tasks take at most. -/
def Task.costs : List Task → Nat
  | [] => 0
  | task :: rest => task.cost + costs rest

theorem Task.costs_append (ts us : List Task) : costs (ts ++ us) = costs ts + costs us := by
  induction ts with
  | nil => simp [costs]
  | cons t ts ih => simp [costs, ih]; omega

theorem Task.costs_enter (ns : List Node) : costs (ns.map enter) = 2 * Node.sizes ns := by
  induction ns with
  | nil => simp [costs, Node.sizes]
  | cons n ns ih => simp [costs, Node.sizes, ih, cost]; omega

namespace Walker

/-- The walker of checks, or the first check's complaint about its tokens. -/
def build (checks : List Check) : Except TokenError Walker :=
  match h : checks.findSome? Check.tokenError? with
  | some e => .error e
  | none => .ok ⟨checks, List.findSome?_eq_none_iff.1 h⟩

/-- The checks that asked for a kind, with their places. -/
def interested (w : Walker) (kind : String) : List (Nat × Check) :=
  (w.checks.zipIdx.filter fun (c, _) => c.effectiveTokens.contains kind).map fun (c, i) => (i, c)

/-- The checks that asked for a kind. -/
def checksFor (w : Walker) (kind : String) : List Check :=
  w.checks.filter fun c => c.effectiveTokens.contains kind

/-- All checks, with their places. -/
def listed (w : Walker) : List (Nat × Check) :=
  w.checks.zipIdx.map fun (c, i) => (i, c)

/-- Makes one call to each of some checks, in order, where none of the calls fails. -/
def tellAll (t : SourceTree) (event : Nat → Event) (found : Check → List Finding) :
    List (Nat × Check) → Walk → Walk
  | [], walk => walk
  | (i, c) :: rest, walk => tellAll t event found rest { walk with
      events := walk.events.push (event i)
      reported := walk.reported ++ (found c).map (c.diagnose t) }

/-- Calls the visits of a node in order, up to the first that fails. -/
def visitAll (t : SourceTree) (h : Handle) : List (Nat × Check) → Walk → Walk
  | [], walk => walk
  | (i, c) :: rest, walk =>
    let v := c.visit t h
    let walk : Walk := { walk with
      events := walk.events.push (.visit i h)
      reported := walk.reported ++ c.diagnostics t v
      failure := v.failure }
    if v.failure.isSome then walk else visitAll t h rest walk

/-- Works off a stack of tasks; `number` is the number of the next node to be entered. -/
def run (w : Walker) (t : SourceTree) (number : Nat) (walk : Walk) : List Task → Walk
  | [] => walk
  | .leave h :: rest =>
    run w t number (tellAll t (.leave · h) (·.leaves t h) (w.interested h.node.kind) walk) rest
  | .enter n :: rest =>
    let h : Handle := ⟨n, some number⟩
    let walk := visitAll t h (w.interested n.kind) walk
    if walk.failure.isSome then walk
    else run w t (number + 1) walk (n.children.map .enter ++ .leave h :: rest)
termination_by tasks => Task.costs tasks
decreasing_by
  · simp [Task.costs, Task.cost]
  · simp only [Task.costs_append, Task.costs_enter, Task.costs, Task.cost, Node.size_eq n]; omega

/-- Walks a tree. -/
def walk (w : Walker) (t : SourceTree) : Walk :=
  let walk := w.run t 0 (tellAll t .begin (·.begins t) w.listed {}) [.enter t.root]
  if walk.failure.isSome then walk
  else tellAll t .finish (·.finishes t) w.listed walk

end Walker

end ModifierLint
