/-
# Checks do not disturb each other

A walk makes the calls of several checks in turn.  `Event.received` takes out of them what a single
check gets to see, and `Walker.attributed` tells the reports of a walk apart by the check through
whose context they came.  Checks are told apart by their places in the walker's list, so that two
checks of one name are still two.

The walker of a single check of the list is `Walker.alone`.  Its walk is what the other checks leave
of the joint walk: the calls at each node are made in the order of the tree, and at a single node the
check has one visit and one leave, or none, whoever else asked for the node (`Walker.received_calls`).
As the calls of the check are the same, so is all that it logs at them; and as every report comes
from some check, the reports of the checks on their own make up those of the joint walk, up to order
(`Walker.attributed_perm`).
-/
import Mathlib.Data.List.Perm.Basic
import ModifierLint.Proofs.Check.Views
import ModifierLint.Proofs.Walk.Nesting

namespace ModifierLint

namespace Event

/-- The calls that the check at the place `i` receives. -/
def received (i : Nat) (es : List Event) : List Call :=
  (es.filter (·.place == i)).map call

theorem received_append (i : Nat) (es fs : List Event) :
    received i (es ++ fs) = received i es ++ received i fs := by
  rw [received, List.filter_append, List.map_append, received, received]

/-- If one call is made to several checks, each of them receives it as often as it is listed. -/
theorem received_map {α : Type} {event : α → Event} {c : Call} (i : Nat) (listed : α → Nat)
    (placed : ∀ a, (event a).place = listed a) (same : ∀ a, (event a).call = c) (l : List α) :
    received i (l.map event) = List.replicate (l.countP (listed · == i)) c := by
  induction l with
  | nil => rfl
  | cons a l ih =>
      rw [List.map_cons, received, List.filter_cons, List.countP_cons, placed]
      rw [received] at ih
      by_cases here : (listed a == i) = true
      · rw [if_pos here, if_pos here, List.map_cons, ih, same, List.replicate_succ]
      · rw [if_neg here, if_neg here, ih, Nat.add_zero]

/-- A check that is on its own receives every call. -/
theorem received_of_only {i : Nat} {es : List Event} (only : ∀ e ∈ es, e.place = i) :
    received i es = es.map call := by
  rw [received, List.filter_eq_self.2 fun e he => beq_iff_eq.2 (only e he)]

end Event

open Event (received received_append received_map received_of_only)

namespace Walker

/-! ## The walker of one check -/

/-- The walker of the check at the place `i` and no other. -/
def alone (w : Walker) (i : Nat) : Walker where
  checks := (w.checks[i]?).toList
  valid := fun c hc => w.valid c (List.mem_of_getElem? (Option.mem_toList.1 hc))

variable {w : Walker} {t : SourceTree}

theorem checks_alone {i : Nat} {c : Check} (place : w.checks[i]? = some c) :
    (w.alone i).checks = [c] := by
  show (w.checks[i]?).toList = [c]
  rw [place, Option.toList_some]

theorem getElem?_alone (w : Walker) (i : Nat) : (w.alone i).checks[0]? = w.checks[i]? := by
  show (w.checks[i]?).toList[0]? = w.checks[i]?
  cases w.checks[i]? <;> rfl

theorem build_alone {i : Nat} {c : Check} (place : w.checks[i]? = some c) :
    build [c] = .ok (w.alone i) := by
  have fits : ∀ c' ∈ [c], c'.tokenError? = none := by
    rw [← checks_alone place]
    exact (w.alone i).valid
  rw [build_of_fits fits]
  congr 1
  rw [mk.injEq, checks_alone place]

theorem asks_alone (w : Walker) (i : Nat) (kind : String) :
    (w.alone i).asks 0 kind = w.asks i kind := by
  rw [asks, asks, getElem?_alone]

/-! ## The calls of one check -/

/-- A call that is made to all who asked for a kind reaches a check once if it asked, and else not. -/
theorem received_interested {c : Call} (w : Walker) (i : Nat) (kind : String) (event : Nat → Event)
    (placed : ∀ j, (event j).place = j) (same : ∀ j, (event j).call = c) :
    received i ((w.interested kind).map fun (j, _) => event j) =
      if w.asks i kind then [c] else [] := by
  have count := countP_interested (w := w) i kind
  have each := received_map i Prod.fst (fun entry : Nat × Check => placed entry.1)
    (fun entry => same entry.1) (w.interested kind)
  refine each.trans ((congrArg (List.replicate · c) count).trans ?_)
  split <;> rfl

theorem received_visitsOf (w : Walker) (i : Nat) (h : Handle) : received i (w.visitsOf h) =
    if w.asks i h.node.kind then [.visit h] else [] :=
  received_interested w i h.node.kind (.visit · h) (fun _ => rfl) fun _ => rfl

theorem received_leavesOf (w : Walker) (i : Nat) (h : Handle) : received i (w.leavesOf h) =
    if w.asks i h.node.kind then [.leave h] else [] :=
  received_interested w i h.node.kind (.leave · h) (fun _ => rfl) fun _ => rfl

mutual

/-- At a node and below, a check receives the calls that it receives alone. -/
theorem received_callsAt (w : Walker) (i number : Nat) : ∀ n : Node,
    received i (w.callsAt number n) = received 0 ((w.alone i).callsAt number n)
  | .mk kind span text children => by
      rw [callsAt_eq, callsAt_eq, received_append, received_append, received_append,
        received_append, received_visitsOf, received_visitsOf, received_leavesOf,
        received_leavesOf, asks_alone, Node.children, received_callsBelow]

theorem received_callsBelow (w : Walker) (i number : Nat) : ∀ ns : List Node,
    received i (w.callsBelow number ns) = received 0 ((w.alone i).callsBelow number ns)
  | [] => rfl
  | n :: ns => by
      rw [callsBelow, callsBelow, received_append, received_append, received_callsAt,
        received_callsBelow]

end

theorem received_forEach {i : Nat} {c : Call} (inside : i < w.checks.length) (event : Nat → Event)
    (placed : ∀ j, (event j).place = j) (same : ∀ j, (event j).call = c) :
    received i (w.forEach event) = [c] := by
  have once : (List.range w.checks.length).countP (· == i) = 1 := by
    rw [← List.count_eq_countP, List.nodup_range.count, if_pos (List.mem_range.2 inside)]
  rw [forEach, received_map i id placed same]
  exact congrArg (List.replicate · c) once

theorem received_ends {i : Nat} (inside : i < w.checks.length) (root : Node) :
    received i (w.calls root) = [.begin] ++ received i (w.callsAt 0 root) ++ [.finish] := by
  rw [calls, received_append, received_append,
    received_forEach inside .begin (fun _ => rfl) fun _ => rfl,
    received_forEach inside .finish (fun _ => rfl) fun _ => rfl]

/-- Calls are made to checks of the list. -/
theorem place_lt {e : Event} (he : e ∈ w.calls t.root) : e.place < w.checks.length := by
  rw [calls, List.mem_append, List.mem_append] at he
  rcases he with (he | he) | he
  · obtain ⟨i, hi, rfl⟩ := List.mem_map.1 he
    exact List.mem_range.1 hi
  · obtain ⟨k, h, i, c, -, place, -, rfl | rfl⟩ := mem_callsAt he
    · exact (List.getElem?_eq_some_iff.1 place).1
    · exact (List.getElem?_eq_some_iff.1 place).1
  · obtain ⟨i, hi, rfl⟩ := List.mem_map.1 he
    exact List.mem_range.1 hi

theorem length_alone {i : Nat} (inside : i < w.checks.length) : (w.alone i).checks.length = 1 := by
  rw [checks_alone (List.getElem?_eq_getElem inside), List.length_singleton]

theorem place_alone {i : Nat} (inside : i < w.checks.length) {e : Event}
    (he : e ∈ (w.alone i).calls t.root) : e.place = 0 := by
  have below := place_lt he
  rw [length_alone inside] at below
  exact Nat.lt_one_iff.1 below

/-- In a joint walk a check receives all calls of the walk in which it is alone, and no other. -/
theorem received_calls {i : Nat} (inside : i < w.checks.length) :
    received i (w.calls t.root) = ((w.alone i).calls t.root).map Event.call := by
  have first : 0 < (w.alone i).checks.length := by
    rw [length_alone inside]
    exact Nat.one_pos
  rw [← received_of_only fun e => place_alone inside, received_ends inside, received_ends first,
    received_callsAt]

/-! ## The reports of one check -/

/-- What checks report at calls, each diagnostic with the place of the check through whose context
it is reported.  The check at the place `i` logs `logs i call` when it receives a call. -/
def attributed (logs : Nat → Call → List Diagnostic) (es : List Event) : List (Nat × Diagnostic) :=
  es.flatMap fun e => (logs e.place e.call).map (e.place, ·)

theorem logs_alone {i : Nat} : (w.alone i).logs t 0 = w.logs t i := by
  funext c
  rw [logs, logs, getElem?_alone]

theorem map_snd_attributed (logs : Nat → Call → List Diagnostic) (es : List Event) :
    (attributed logs es).map Prod.snd = es.flatMap fun e => logs e.place e.call := by
  simp [attributed, List.map_flatMap, Function.comp_def]

/-- The reports through the context of a check are what it logs at the calls that it receives. -/
theorem filter_attributed (logs : Nat → Call → List Diagnostic) (i : Nat) (es : List Event) :
    ((attributed logs es).filter (·.1 == i)).map Prod.snd = (received i es).flatMap (logs i) := by
  induction es with
  | nil => rfl
  | cons e es ih =>
      have split : attributed logs (e :: es) =
          (logs e.place e.call).map (e.place, ·) ++ attributed logs es := rfl
      rw [split, List.filter_append, List.map_append, ih, received, received, List.filter_cons]
      by_cases here : (e.place == i) = true
      · have own : ((logs e.place e.call).map (e.place, ·)).filter (·.1 == i) =
            (logs e.place e.call).map (e.place, ·) :=
          List.filter_eq_self.2 fun p hp => by
            obtain ⟨d, -, rfl⟩ := List.mem_map.1 hp
            exact here
        rw [if_pos here, own, List.map_map, List.map_cons, List.flatMap_cons, ← beq_iff_eq.1 here]
        simp [Function.comp_def]
      · have other : ((logs e.place e.call).map (e.place, ·)).filter (·.1 == i) = [] :=
          List.filter_eq_nil_iff.2 fun p hp => by
            obtain ⟨d, -, rfl⟩ := List.mem_map.1 hp
            exact here
        rw [if_neg here, other, List.map_nil, List.nil_append]

/-- The walk of a check on its own reports what the check logs at its calls. -/
theorem reports_alone {i : Nat} (inside : i < w.checks.length) :
    ((w.alone i).calls t.root).flatMap ((w.alone i).reports t) =
      ((w.alone i).calls t.root).flatMap fun e => w.logs t i e.call := by
  have same : ∀ e ∈ (w.alone i).calls t.root, (w.alone i).reports t e = w.logs t i e.call := by
    intro e he
    rw [reports, place_alone inside he, logs_alone]
  rw [List.flatMap_def, List.map_congr_left same, ← List.flatMap_def]

/-- Entries under the numbers below a bound are, up to order, those under each of the numbers. -/
theorem perm_flatMap_filter {α : Type} (bound : Nat) : ∀ l : List (Nat × α),
    (∀ p ∈ l, p.1 < bound) →
      (l.map Prod.snd).Perm ((List.range bound).flatMap fun i =>
        (l.filter (·.1 == i)).map Prod.snd) := by
  induction bound with
  | zero =>
      intro l below
      cases l with
      | nil => exact .nil
      | cons p l => exact absurd (below p List.mem_cons_self) (Nat.not_lt_zero _)
  | succ bound ih =>
      intro l below
      let first := l.filter fun p => decide (p.1 < bound)
      have firsts : ∀ p ∈ first, p.1 < bound := fun p hp =>
        of_decide_eq_true (List.mem_filter.1 hp).2
      have last : l.filter (fun p => !decide (p.1 < bound)) = l.filter (·.1 == bound) := by
        refine List.filter_congr fun p hp => ?_
        have := below p hp
        by_cases h : p.1 < bound
        · simp [h, Nat.ne_of_lt h]
        · have h : p.1 = bound := by omega
          simp [h]
      have within : ∀ i ∈ List.range bound, (first.filter (·.1 == i)).map Prod.snd =
          (l.filter (·.1 == i)).map Prod.snd := by
        intro i hi
        have hi := List.mem_range.1 hi
        rw [List.filter_filter]
        congr 1
        refine List.filter_congr fun p _ => ?_
        by_cases h : p.1 = i
        · simp [h, hi]
        · simp [h]
      have parts := (List.filter_append_perm (fun p => decide (p.1 < bound)) l).symm.map Prod.snd
      rw [last, List.map_append] at parts
      rw [List.range_succ, List.flatMap_append, List.flatMap_singleton]
      refine parts.trans (List.Perm.append_right _ ?_)
      rw [List.flatMap_def, ← List.map_congr_left within, ← List.flatMap_def]
      exact ih first firsts

/-- What all checks report together is, up to order, what each of them reports on its own. -/
theorem attributed_perm (logs : Nat → Call → List Diagnostic) :
    ((attributed logs (w.calls t.root)).map Prod.snd).Perm
      ((List.range w.checks.length).flatMap fun i =>
        ((w.alone i).calls t.root).flatMap fun e => logs i e.call) := by
  have below : ∀ p ∈ attributed logs (w.calls t.root), p.1 < w.checks.length := by
    intro p hp
    obtain ⟨e, he, hp⟩ := List.mem_flatMap.1 hp
    obtain ⟨d, -, rfl⟩ := List.mem_map.1 hp
    exact place_lt he
  have each : ∀ i ∈ List.range w.checks.length,
      ((attributed logs (w.calls t.root)).filter (·.1 == i)).map Prod.snd =
        ((w.alone i).calls t.root).flatMap fun e => logs i e.call := by
    intro i hi
    rw [filter_attributed, received_calls (List.mem_range.1 hi), List.flatMap_map]
  have parts := perm_flatMap_filter w.checks.length _ below
  rw [List.flatMap_def, List.map_congr_left each, ← List.flatMap_def] at parts
  exact parts

/-- **Checks do not disturb each other.**  Checks that accept a tree walk it to the end, together as
well as each on its own, and every check receives the same calls in the same order either way.  So
whatever the checks log at the calls that they receive, the reports through the context of a check
are those of its own walk, and up to order these make up the reports of the joint walk.  The reports
that the walkers themselves keep are of this form, and so are the diagnostics of a collector. -/
theorem walk_separates {checks : List Check} {w : Walker} (built : build checks = .ok w)
    (t : SourceTree) (accepts : ∀ c ∈ checks, c.Accepts t) :
    let joint := (w.walk t).events.toList
    let own (i : Nat) := ((w.alone i).walk t).events.toList
    (w.walk t).failure = none ∧
    (∀ i c, checks[i]? = some c →
      build [c] = .ok (w.alone i) ∧ ((w.alone i).walk t).failure = none ∧
      received i joint = (own i).map Event.call ∧
      (∀ logs, ((attributed logs joint).filter (·.1 == i)).map Prod.snd =
        (own i).flatMap fun e => logs i e.call) ∧
      ((attributed (w.logs t) joint).filter (·.1 == i)).map Prod.snd =
        ((w.alone i).walk t).reported.toList) ∧
    (∀ logs, ((attributed logs joint).map Prod.snd).Perm
      ((List.range checks.length).flatMap fun i => (own i).flatMap fun e => logs i e.call)) ∧
    (attributed (w.logs t) joint).map Prod.snd = (w.walk t).reported.toList ∧
    ∀ bundle, (Collector.gather bundle (w.walk t).reported.toList).diagnostics.Perm
      ((List.range checks.length).flatMap fun i =>
        (Collector.gather bundle ((w.alone i).walk t).reported.toList).diagnostics) := by
  obtain rfl := build_eq_ok built
  have alone (i : Nat) : (w.alone i).walk t =
      { events := ((w.alone i).calls t.root).toArray
        reported := (((w.alone i).calls t.root).flatMap ((w.alone i).reports t)).toArray
        failure := none } :=
    walk_of_accepts fun c hc => accepts c (List.mem_of_getElem? (Option.mem_toList.1 hc))
  intro joint own
  have made : joint = w.calls t.root := congrArg (·.events.toList) (walk_of_accepts accepts)
  have ownMade (i : Nat) : own i = (w.alone i).calls t.root :=
    congrArg (·.events.toList) (alone i)
  have reported : (w.walk t).reported.toList = (attributed (w.logs t) joint).map Prod.snd := by
    rw [map_snd_attributed, made, walk_of_accepts accepts]
    rfl
  have ownReported {i : Nat} (inside : i < w.checks.length) :
      ((w.alone i).walk t).reported.toList = (own i).flatMap fun e => w.logs t i e.call := by
    rw [ownMade, ← reports_alone inside, alone]
  have parts (logs : Nat → Call → List Diagnostic) : ((attributed logs joint).map Prod.snd).Perm
      ((List.range w.checks.length).flatMap fun i => (own i).flatMap fun e => logs i e.call) := by
    simp only [made, ownMade]
    exact attributed_perm logs
  refine ⟨by rw [walk_of_accepts accepts], ?_, parts, reported.symm, ?_⟩
  · intro i c place
    have inside := (List.getElem?_eq_some_iff.1 place).1
    have through (logs : Nat → Call → List Diagnostic) :
        ((attributed logs joint).filter (·.1 == i)).map Prod.snd =
          (own i).flatMap fun e => logs i e.call := by
      rw [filter_attributed, made, ownMade, received_calls inside, List.flatMap_map]
    refine ⟨build_alone place, by rw [alone], ?_, through, ?_⟩
    · rw [made, ownMade, received_calls inside]
    · rw [through, ownReported inside]
  · intro bundle
    have each : ∀ i ∈ List.range w.checks.length,
        ((own i).flatMap fun e => w.logs t i e.call).Perm
          (Collector.gather bundle ((w.alone i).walk t).reported.toList).diagnostics := by
      intro i hi
      rw [Collector.diagnostics_gather, ownReported (List.mem_range.1 hi)]
      exact (List.mergeSort_perm _ _).symm
    rw [Collector.diagnostics_gather, reported]
    exact ((List.mergeSort_perm _ _).trans (parts _)).trans (List.Perm.flatMap_left _ each)

/-- Two checks that ask for members, one of them also for the program: alone, the second one makes
the calls and reports that are left of the joint walk without the first. -/
theorem walk_separates_of_sharedKind :
    let first : Check :=
      { name := "members", defaults := ["member"], acceptable := ["member"], required := []
        visit := fun _ h => { findings := [⟨h.node, "member", []⟩] } }
    let second : Check :=
      { name := "all", defaults := ["member", "program"], acceptable := ["member", "program"]
        required := [], visit := fun _ h => { findings := [⟨h.node, "any", [h.node.kind]⟩] } }
    let member : Node := .mk "member" default none []
    let program : Node := .mk "program" default none [member, member]
    let t := SourceTree.ofRoot program "A.java"
    ∃ w alone, build [first, second] = .ok w ∧ build [second] = .ok alone ∧
      (w.walk t).reported.toList.map Diagnostic.messageKey =
        ["any", "member", "any", "member", "any"] ∧
      (alone.walk t).events.toList.map Event.call =
        [.begin, .visit ⟨program, some 0⟩, .visit ⟨member, some 1⟩, .leave ⟨member, some 1⟩,
          .visit ⟨member, some 2⟩, .leave ⟨member, some 2⟩, .leave ⟨program, some 0⟩, .finish] ∧
      (alone.walk t).reported.toList.map Diagnostic.args = [["program"], ["member"], ["member"]] := by
  intro first second member program t
  have fits : ∀ c ∈ [first, second], c.tokenError? = none := by
    intro c hc
    obtain rfl | rfl : c = first ∨ c = second := by simpa using hc
    · rfl
    · rfl
  have accepts : ∀ c ∈ [first, second], c.Accepts t := by
    intro c hc k h _ _
    obtain rfl | rfl : c = first ∨ c = second := by simpa using hc
    · rfl
    · rfl
  have built := build_of_fits fits
  have walked := walk_of_accepts (w := ⟨_, fits⟩) accepts
  obtain ⟨-, each, -, -, -⟩ := walk_separates built t accepts
  obtain ⟨alone, -, calls, -, reports⟩ := each 1 second rfl
  refine ⟨_, _, built, alone, ?_, ?_, ?_⟩
  · rw [walked]
    rfl
  · rw [← calls, walked]
    rfl
  · rw [← reports, walked]
    rfl

end Walker

end ModifierLint
