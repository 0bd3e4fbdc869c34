/-
# The calls of a walk

A walk is a stack machine.  What it does is written here a second time, in two parts that know
nothing of a stack:

* `Walker.calls` is the list of calls that a tree asks for, by recursion on the tree: a node is
  visited, then come the calls of its children from left to right, then the node is left;
* `Walker.perform` makes the calls of a list one after the other, up to the first that fails.

`Walker.walk_eq_perform` says that the machine performs exactly the calls of the tree.  It needs no
assumption about failures, so whatever is to be said about walks, with failures or without, is from
here on a matter of lists.

A check may find something at each of the four kinds of calls that it receives (`Check.found`), but
only visits fail.
-/
import ModifierLint.Check.Walker
import ModifierLint.Proofs.Tree.Numbering

namespace ModifierLint

/-! ## Calls to one check -/

/-- A call as the check sees it that receives it. -/
inductive Call
  | begin
  | visit (node : Handle)
  | leave (node : Handle)
  | finish

namespace Event

/-- The place of the check that receives the call. -/
def place : Event → Nat
  | .begin i | .visit i _ | .leave i _ | .finish i => i

/-- The call as its receiver sees it. -/
def call : Event → Call
  | .begin _ => .begin
  | .visit _ h => .visit h
  | .leave _ h => .leave h
  | .finish _ => .finish

end Event

namespace Check

/-- What a check finds at a call. -/
def found (c : Check) (t : SourceTree) : Call → List Finding
  | .begin => c.begins t
  | .visit h => (c.visit t h).findings
  | .leave h => c.leaves t h
  | .finish => c.finishes t

/-- What a check logs at a call. -/
def logged (c : Check) (t : SourceTree) (call : Call) : List Diagnostic :=
  (c.found t call).map (c.diagnose t)

end Check

namespace Walker

variable (w : Walker)

/-! ## The calls that a tree asks for -/

/-- The visits of a node, one for each check that asked for its kind. -/
def visitsOf (h : Handle) : List Event :=
  (w.interested h.node.kind).map fun (i, _) => .visit i h

/-- The calls that leave a node, in the order of its visits. -/
def leavesOf (h : Handle) : List Event :=
  (w.interested h.node.kind).map fun (i, _) => .leave i h

mutual

/-- The calls at a node with the number `number` and at the nodes below it. -/
def callsAt (number : Nat) : Node → List Event
  | n@(.mk _ _ _ children) =>
    w.visitsOf ⟨n, some number⟩ ++ callsBelow (number + 1) children ++ w.leavesOf ⟨n, some number⟩

/-- The calls at siblings, the first of which has the number `number`, and below them. -/
def callsBelow (number : Nat) : List Node → List Event
  | [] => []
  | n :: rest => callsAt number n ++ callsBelow (number + n.size) rest

end

/-- A call to every check of the list. -/
def forEach (event : Nat → Event) : List Event :=
  (List.range w.checks.length).map event

/-- The calls of a whole walk. -/
def calls (root : Node) : List Event :=
  w.forEach .begin ++ w.callsAt 0 root ++ w.forEach .finish

theorem callsAt_eq (number : Nat) (n : Node) :
    w.callsAt number n = w.visitsOf ⟨n, some number⟩ ++ w.callsBelow (number + 1) n.children ++
      w.leavesOf ⟨n, some number⟩ := by
  cases n; rw [callsAt, Node.children]

/-- The calls that tasks on a stack stand for, where `number` is the next number to give. -/
def pending (number : Nat) : List Task → List Event
  | [] => []
  | .leave h :: rest => w.leavesOf h ++ pending number rest
  | .enter n :: rest => w.callsAt number n ++ pending (number + n.size) rest

theorem pending_enter (number : Nat) (rest : List Task) (ns : List Node) :
    w.pending number (ns.map .enter ++ rest) =
      w.callsBelow number ns ++ w.pending (number + Node.sizes ns) rest := by
  induction ns generalizing number with
  | nil => rfl
  | cons n ns ih =>
      rw [List.map_cons, List.cons_append, pending, ih, callsBelow, Node.sizes,
        List.append_assoc, Nat.add_assoc]

/-! ## Making calls -/

/-- What the check at the place `i` logs at a call. -/
def logs (t : SourceTree) (i : Nat) (call : Call) : List Diagnostic :=
  (w.checks[i]?).elim [] fun c => c.logged t call

/-- The diagnostics that a call reports. -/
def reports (t : SourceTree) (e : Event) : List Diagnostic :=
  w.logs t e.place e.call

/-- The failure that a call ends with, if it fails. -/
def failure? (t : SourceTree) : Event → Option VisitError
  | .visit i h => (w.checks[i]?).bind fun c => (c.visit t h).failure
  | _ => none

/-- A walk after one more call. -/
def call (t : SourceTree) (walk : Walk) (e : Event) : Walk where
  events := walk.events.push e
  reported := walk.reported ++ w.reports t e
  failure := w.failure? t e

/-- Makes calls in order, up to the first that fails. -/
def perform (t : SourceTree) : List Event → Walk → Walk
  | [], walk => walk
  | e :: rest, walk =>
    if (w.failure? t e).isSome then w.call t walk e else perform t rest (w.call t walk e)

variable {w} {t : SourceTree}

@[simp] theorem call_failure {walk : Walk} {e : Event} :
    (w.call t walk e).failure = w.failure? t e := rfl

theorem perform_cons_of_calm {e : Event} {es : List Event} {walk : Walk}
    (calm : w.failure? t e = none) :
    w.perform t (e :: es) walk = w.perform t es (w.call t walk e) := by
  rw [perform, calm, Option.isSome_none, if_neg Bool.false_ne_true]

theorem perform_cons_of_failure {e : Event} {es : List Event} {walk : Walk}
    (failed : (w.failure? t e).isSome) : w.perform t (e :: es) walk = w.call t walk e := by
  rw [perform, if_pos failed]

/-- A failure among the first calls keeps the later ones from being made. -/
theorem perform_append {es fs : List Event} {walk : Walk} (sound : walk.failure = none) :
    w.perform t (es ++ fs) walk =
      if (w.perform t es walk).failure.isSome then w.perform t es walk
      else w.perform t fs (w.perform t es walk) := by
  induction es generalizing walk with
  | nil => simp only [List.nil_append, perform, sound, Option.isSome_none, Bool.false_eq_true,
      if_false]
  | cons e es ih =>
      rw [List.cons_append]
      cases failed : w.failure? t e with
      | some reason =>
          have failed : (w.failure? t e).isSome := by rw [failed]; rfl
          rw [perform_cons_of_failure failed, perform_cons_of_failure failed, call_failure,
            if_pos failed]
      | none => rw [perform_cons_of_calm failed, perform_cons_of_calm failed, ih failed]

/-- Calls none of which fails are all made, and all of their reports are kept. -/
theorem perform_of_calm {es : List Event} {walk : Walk} (sound : walk.failure = none)
    (calm : ∀ e ∈ es, w.failure? t e = none) :
    w.perform t es walk =
      { events := walk.events ++ es
        reported := walk.reported ++ es.flatMap (w.reports t)
        failure := none } := by
  induction es generalizing walk with
  | nil => cases walk; simp_all [perform]
  | cons e es ih =>
      have here := calm e List.mem_cons_self
      have kept : walk.reported ++ w.reports t e ++ es.flatMap (w.reports t) =
          walk.reported ++ (e :: es).flatMap (w.reports t) := Array.ext' (by simp)
      rw [perform_cons_of_calm here, ih here fun e he => calm e (List.mem_cons_of_mem _ he)]
      simp only [call, kept, Array.appendList_cons]

/-! ## The machine makes the calls of the tree -/

theorem mem_interested {kind : String} {i : Nat} {c : Check} :
    (i, c) ∈ w.interested kind ↔ w.checks[i]? = some c ∧ kind ∈ c.effectiveTokens := by
  have asks : kind ∈ c.effectiveTokens ↔ c.effectiveTokens.contains kind = true :=
    List.contains_iff_mem.symm
  rw [← List.mk_mem_zipIdx_iff_getElem?, asks]
  simp only [interested, List.mem_map, List.mem_filter, Prod.exists, Prod.mk.injEq]
  constructor
  · rintro ⟨c', i', asked, rfl, rfl⟩
    exact asked
  · intro asked
    exact ⟨c, i, asked, rfl, rfl⟩

theorem mem_listed {i : Nat} {c : Check} : (i, c) ∈ w.listed ↔ w.checks[i]? = some c := by
  rw [← List.mk_mem_zipIdx_iff_getElem?]
  simp only [listed, List.mem_map, Prod.exists, Prod.mk.injEq]
  constructor
  · rintro ⟨c, i, member, rfl, rfl⟩
    exact member
  · exact fun member => ⟨c, i, member, rfl, rfl⟩

theorem map_listed {α : Type} (f : Nat → α) :
    w.listed.map (fun (i, _) => f i) = (List.range w.checks.length).map f := by
  have places : w.checks.zipIdx.map Prod.snd = List.range w.checks.length := by
    rw [List.zipIdx_map_snd, List.range_eq_range']
  rw [← places, listed, List.map_map, List.map_map]
  rfl

theorem reports_of_place {e : Event} {c : Check} (place : w.checks[e.place]? = some c) :
    w.reports t e = c.logged t e.call := by
  rw [reports, logs, place, Option.elim_some]

theorem visitAll_eq_perform {h : Handle} {asked : List (Nat × Check)} {walk : Walk}
    (known : ∀ i c, (i, c) ∈ asked → w.checks[i]? = some c) :
    visitAll t h asked walk = w.perform t (asked.map fun (i, _) => .visit i h) walk := by
  induction asked generalizing walk with
  | nil => rfl
  | cons entry asked ih =>
      obtain ⟨i, c⟩ := entry
      have place := known i c List.mem_cons_self
      have failure : w.failure? t (.visit i h) = (c.visit t h).failure := by
        rw [failure?, place, Option.bind_some]
      have reported : w.reports t (.visit i h) = c.diagnostics t (c.visit t h) :=
        reports_of_place (e := .visit i h) place
      have call : w.call t walk (.visit i h) =
          { events := walk.events.push (.visit i h)
            reported := walk.reported ++ c.diagnostics t (c.visit t h)
            failure := (c.visit t h).failure } := by
        rw [call, failure, reported]
      rw [visitAll, List.map_cons, perform, failure, call]
      simp only [ih fun i c hc => known i c (List.mem_cons_of_mem _ hc)]

/-- Calls of a kind that does not fail are all made. -/
theorem tellAll_eq_perform {event : Nat → Event} {k : Call} {asked : List (Nat × Check)}
    {walk : Walk} (sound : walk.failure = none)
    (known : ∀ i c, (i, c) ∈ asked → w.checks[i]? = some c)
    (placed : ∀ i, (event i).place = i) (same : ∀ i, (event i).call = k)
    (calm : ∀ i, w.failure? t (event i) = none) :
    tellAll t event (·.found t k) asked walk =
      w.perform t (asked.map fun (i, _) => event i) walk := by
  induction asked generalizing walk with
  | nil => rfl
  | cons entry asked ih =>
      obtain ⟨i, c⟩ := entry
      have place : w.checks[(event i).place]? = some c := by
        rw [placed]
        exact known i c List.mem_cons_self
      have called : w.call t walk (event i) =
          { walk with
            events := walk.events.push (event i)
            reported := walk.reported ++ (c.found t k).map (c.diagnose t) } := by
        rw [Walker.call, calm, reports_of_place place, same, sound, Check.logged]
      rw [tellAll, List.map_cons, perform_cons_of_calm (calm i), called]
      exact ih sound fun i c hc => known i c (List.mem_cons_of_mem _ hc)

theorem failure_of_calm {es : List Event} {walk : Walk} (sound : walk.failure = none)
    (calm : ∀ e ∈ es, w.failure? t e = none) : (w.perform t es walk).failure = none := by
  rw [perform_of_calm sound calm]

/-- No call that leaves a node fails. -/
theorem calm_leavesOf {h : Handle} : ∀ e ∈ w.leavesOf h, w.failure? t e = none := by
  intro e he
  obtain ⟨entry, -, rfl⟩ := List.mem_map.1 he
  rfl

/-- A kind of call that does not fail fails for no check. -/
theorem calm_forEach {event : Nat → Event} (calm : ∀ i, w.failure? t (event i) = none) :
    ∀ e ∈ w.forEach event, w.failure? t e = none := by
  intro e he
  obtain ⟨i, -, rfl⟩ := List.mem_map.1 he
  exact calm i

/-- The machine performs the calls that its stack stands for. -/
theorem run_eq_perform {number : Nat} {walk : Walk} {tasks : List Task}
    (sound : walk.failure = none) :
    w.run t number walk tasks = w.perform t (w.pending number tasks) walk := by
  fun_induction Walker.run w t number walk tasks with
  | case1 number walk => rfl
  | case2 number walk h rest ih =>
      have left : tellAll t (.leave · h) (·.leaves t h) (w.interested h.node.kind) walk =
          w.perform t (w.leavesOf h) walk :=
        tellAll_eq_perform (k := .leave h) sound (fun i c hc => (mem_interested.1 hc).1)
          (fun _ => rfl) (fun _ => rfl) fun _ => rfl
      have sound' : (w.perform t (w.leavesOf h) walk).failure = none :=
        failure_of_calm sound calm_leavesOf
      rw [pending, perform_append sound, sound', Option.isSome_none, if_neg Bool.false_ne_true,
        ← left]
      exact ih (by rw [left, sound'])
  | case3 number walk n rest h after failed =>
      have visited : after = w.perform t (w.visitsOf h) walk :=
        visitAll_eq_perform fun i c hc => (mem_interested.1 hc).1
      rw [pending, callsAt_eq, List.append_assoc, List.append_assoc, perform_append sound,
        ← visited, if_pos failed]
  | case4 number walk n rest h after unfailed ih =>
      have visited : after = w.perform t (w.visitsOf h) walk :=
        visitAll_eq_perform fun i c hc => (mem_interested.1 hc).1
      have sound' : after.failure = none := by simpa using unfailed
      rw [ih sound', pending_enter, pending, pending, callsAt_eq, List.append_assoc,
        List.append_assoc, perform_append sound, ← visited, if_neg unfailed, Node.size_eq n,
        Nat.add_right_comm, Nat.add_assoc]

/-- All checks are told of a call of a kind that does not fail. -/
theorem tellAll_listed {event : Nat → Event} {k : Call} {walk : Walk}
    (sound : walk.failure = none) (placed : ∀ i, (event i).place = i)
    (same : ∀ i, (event i).call = k) (calm : ∀ i, w.failure? t (event i) = none) :
    tellAll t event (·.found t k) w.listed walk = w.perform t (w.forEach event) walk := by
  rw [tellAll_eq_perform sound (fun i c hc => mem_listed.1 hc) placed same calm, map_listed, forEach]

/-- A walk performs the calls of its tree. -/
theorem walk_eq_perform (w : Walker) (t : SourceTree) :
    w.walk t = w.perform t (w.calls t.root) {} := by
  let start : Walk := w.perform t (w.forEach .begin) {}
  have begun : tellAll t .begin (·.begins t) w.listed {} = start :=
    tellAll_listed (k := .begin) rfl (fun _ => rfl) (fun _ => rfl) fun _ => rfl
  have sound : start.failure = none := failure_of_calm rfl (calm_forEach fun _ => rfl)
  have machine : w.run t 0 start [.enter t.root] = w.perform t (w.callsAt 0 t.root) start := by
    rw [run_eq_perform sound, pending, pending, List.append_nil]
  have unfailed : ¬start.failure.isSome := by
    rw [sound, Option.isSome_none]
    exact Bool.false_ne_true
  have whole : w.perform t (w.calls t.root) {} =
      w.perform t (w.callsAt 0 t.root ++ w.forEach .finish) start := by
    rw [calls, List.append_assoc, perform_append rfl, if_neg unfailed]
  rw [walk, begun, machine, whole, perform_append sound]
  split
  · rfl
  · next unfailed =>
      exact tellAll_listed (k := .finish) (Option.not_isSome_iff_eq_none.1 unfailed)
        (fun _ => rfl) (fun _ => rfl) fun _ => rfl

end Walker

end ModifierLint
