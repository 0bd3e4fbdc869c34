/-
# Checks that accept a tree

A check accepts a tree if it fails at none of the nodes that it asks for.  A walker whose checks
accept the tree makes every call (`Walker.walk_of_accepts`).  If the checks find something at visits
only, it reports what they find at each node, the nodes in pre-order (`Walker.reported_of_accepts`).

Up to order, the calls of a tree are the visits and the leaves of its nodes, taken in pre-order
(`Walker.callsAt_perm`); so calls are made for occurrences of the tree only.
-/
import ModifierLint.Proofs.Walk.Calls

namespace ModifierLint

/-- A check accepts a tree if it fails at none of the nodes that it asks for. -/
def Check.Accepts (c : Check) (t : SourceTree) : Prop :=
  ∀ k h, t.handle? k = some h → h.node.kind ∈ c.effectiveTokens → (c.visit t h).failure = none

/-- A check that finds something at visits only. -/
structure Check.Quiet (c : Check) : Prop where
  begins : ∀ t, c.begins t = []
  leaves : ∀ t h, c.leaves t h = []
  finishes : ∀ t, c.finishes t = []

/-- The tokens of a check fit if it asks for acceptable kinds only, and for all required ones. -/
theorem Check.tokenError?_eq_none {c : Check} : c.tokenError? = none ↔
    (∀ kind ∈ c.effectiveTokens, kind ∈ c.acceptable) ∧
      ∀ kind ∈ c.required, kind ∈ c.effectiveTokens := by
  have within (as bs : List String) :
      (as.filter fun a => !bs.contains a).isEmpty = true ↔ ∀ a ∈ as, a ∈ bs := by
    simp [List.isEmpty_iff, List.filter_eq_nil_iff]
  rw [← within, ← within]
  simp only [tokenError?]
  cases (c.effectiveTokens.filter fun t => !c.acceptable.contains t).isEmpty <;>
    cases (c.required.filter fun t => !c.effectiveTokens.contains t).isEmpty <;> simp

namespace Walker

variable {w : Walker} {t : SourceTree}

theorem build_eq_ok {checks : List Check} (built : build checks = .ok w) : w.checks = checks := by
  unfold build at built
  split at built
  · cases built
  · cases built; rfl

/-- A walker is built if the tokens of every check fit. -/
theorem build_of_fits {checks : List Check} (fits : ∀ c ∈ checks, c.tokenError? = none) :
    build checks = .ok ⟨checks, fits⟩ := by
  have none_fails : checks.findSome? Check.tokenError? = none := List.findSome?_eq_none_iff.2 fits
  unfold build
  split
  · next e he => rw [none_fails] at he; cases he
  · rfl

/-- No walker is built if the tokens of some check do not fit; the first complaint is answered. -/
theorem build_of_misfit {checks : List Check} {e : TokenError}
    (first : checks.findSome? Check.tokenError? = some e) : build checks = .error e := by
  unfold build
  split
  · next e' he => rw [first] at he; cases he; rfl
  · next none_fails => rw [first] at none_fails; cases none_fails

/-! ## The checks of a kind -/

theorem map_snd_interested (kind : String) :
    (w.interested kind).map Prod.snd = w.checksFor kind := by
  have swap : (w.interested kind).map Prod.snd =
      (w.checks.zipIdx.filter fun c => c.1.effectiveTokens.contains kind).map Prod.fst := by
    rw [interested, List.map_map]; rfl
  have split : (fun c : Check × Nat => c.1.effectiveTokens.contains kind) =
      (fun c : Check => c.effectiveTokens.contains kind) ∘ Prod.fst := rfl
  rw [swap, checksFor, split, ← List.filter_map, List.zipIdx_map_fst]

/-! ## Up to order -/

mutual

/-- Up to order, the calls at a node and below are the visits and leaves of those nodes. -/
theorem callsAt_perm (number : Nat) : ∀ n : Node, (w.callsAt number n).Perm
    ((Handle.numbered number n.preorder).flatMap fun h => w.visitsOf h ++ w.leavesOf h)
  | n@(.mk kind span text children) => by
      have below := callsBelow_perm (number + 1) children
      rw [callsAt_eq, Node.preorder, Handle.numbered_cons, List.flatMap_cons, Node.children,
        List.append_assoc, List.append_assoc]
      exact (List.perm_append_comm.trans (below.append_left _)).append_left _

theorem callsBelow_perm (number : Nat) : ∀ ns : List Node, (w.callsBelow number ns).Perm
    ((Handle.numbered number (Node.preorders ns)).flatMap fun h => w.visitsOf h ++ w.leavesOf h)
  | [] => .nil
  | n :: ns => by
      have here := callsAt_perm number n
      have after := callsBelow_perm (number + n.size) ns
      rw [callsBelow, Node.preorders, Handle.numbered_append, List.flatMap_append,
        Node.length_preorder]
      exact here.append after

end

/-- The calls at nodes are made for occurrences of the tree, by checks that ask for them. -/
theorem mem_callsAt {e : Event} (he : e ∈ w.callsAt 0 t.root) :
    ∃ k h i c, t.handle? k = some h ∧ w.checks[i]? = some c ∧ h.node.kind ∈ c.effectiveTokens ∧
      (e = .visit i h ∨ e = .leave i h) := by
  have he := (callsAt_perm 0 t.root).mem_iff.1 he
  obtain ⟨h, hh, he⟩ := List.mem_flatMap.1 he
  obtain ⟨k, hk⟩ := SourceTree.mem_handles.1 hh
  rcases List.mem_append.1 he with he | he
  · obtain ⟨⟨i, c⟩, asked, rfl⟩ := List.mem_map.1 he
    obtain ⟨place, asked⟩ := mem_interested.1 asked
    exact ⟨k, h, i, c, hk, place, asked, Or.inl rfl⟩
  · obtain ⟨⟨i, c⟩, asked, rfl⟩ := List.mem_map.1 he
    obtain ⟨place, asked⟩ := mem_interested.1 asked
    exact ⟨k, h, i, c, hk, place, asked, Or.inr rfl⟩

/-- No call fails if the checks accept the tree. -/
theorem calm_of_accepts (accepts : ∀ c ∈ w.checks, c.Accepts t) :
    ∀ e ∈ w.calls t.root, w.failure? t e = none := by
  intro e he
  rw [calls, List.mem_append, List.mem_append] at he
  rcases he with (he | he) | he
  · obtain ⟨i, -, rfl⟩ := List.mem_map.1 he
    rfl
  · obtain ⟨k, h, i, c, hk, place, asked, rfl | rfl⟩ := mem_callsAt he
    · rw [failure?, place, Option.bind_some]
      exact accepts c (List.mem_of_getElem? place) k h hk asked
    · rfl
  · obtain ⟨i, -, rfl⟩ := List.mem_map.1 he
    rfl

/-- Checks that accept the tree are walked to the end. -/
theorem walk_of_accepts (accepts : ∀ c ∈ w.checks, c.Accepts t) :
    w.walk t =
      { events := (w.calls t.root).toArray
        reported := ((w.calls t.root).flatMap (w.reports t)).toArray
        failure := none } := by
  rw [walk_eq_perform, perform_of_calm rfl (calm_of_accepts accepts)]
  have all {α : Type} (l : List α) : (#[] : Array α) ++ l = l.toArray := Array.ext' (by simp)
  rw [all, all]

/-! ## Reports -/

/-- What the checks of a node's kind find at the node. -/
def findings (w : Walker) (t : SourceTree) (h : Handle) : List Diagnostic :=
  (w.checksFor h.node.kind).flatMap fun c => c.diagnostics t (c.visit t h)

theorem reports_visitsOf (h : Handle) :
    (w.visitsOf h).flatMap (w.reports t) = w.findings t h := by
  have found : ∀ entry ∈ w.interested h.node.kind,
      w.reports t (.visit entry.1 h) = entry.2.diagnostics t (entry.2.visit t h) :=
    fun entry asked => reports_of_place (e := .visit entry.1 h) (mem_interested.1 asked).1
  rw [findings, ← map_snd_interested, visitsOf, List.flatMap_map, List.flatMap_map]
  rw [List.flatMap_def, List.flatMap_def, List.map_congr_left found]

/-- A call at which no check finds anything reports nothing. -/
theorem reports_eq_nil {e : Event} (nothing : ∀ c ∈ w.checks, c.found t e.call = []) :
    w.reports t e = [] := by
  rw [reports, logs]
  cases place : w.checks[e.place]? with
  | none => rfl
  | some c =>
      rw [Option.elim_some, Check.logged, nothing c (List.mem_of_getElem? place), List.map_nil]

theorem reports_leavesOf (quiet : ∀ c ∈ w.checks, c.Quiet) (h : Handle) :
    (w.leavesOf h).flatMap (w.reports t) = [] := by
  refine List.flatMap_eq_nil_iff.2 fun e he => ?_
  obtain ⟨entry, -, rfl⟩ := List.mem_map.1 he
  exact reports_eq_nil fun c hc => (quiet c hc).leaves t h

mutual

theorem reports_callsAt (quiet : ∀ c ∈ w.checks, c.Quiet) (number : Nat) : ∀ n : Node,
    (w.callsAt number n).flatMap (w.reports t) =
      (Handle.numbered number n.preorder).flatMap (w.findings t)
  | .mk kind span text children => by
      rw [callsAt_eq, List.flatMap_append, List.flatMap_append, reports_visitsOf,
        reports_leavesOf quiet, List.append_nil, Node.children, reports_callsBelow quiet,
        Node.preorder, Handle.numbered_cons, List.flatMap_cons]

theorem reports_callsBelow (quiet : ∀ c ∈ w.checks, c.Quiet) (number : Nat) : ∀ ns : List Node,
    (w.callsBelow number ns).flatMap (w.reports t) =
      (Handle.numbered number (Node.preorders ns)).flatMap (w.findings t)
  | [] => rfl
  | n :: ns => by
      rw [callsBelow, List.flatMap_append, reports_callsAt quiet, reports_callsBelow quiet,
        Node.preorders, Handle.numbered_append, List.flatMap_append, Node.length_preorder]

end

/-- A walk reports what is found at the nodes, in pre-order. -/
theorem reported_of_accepts (quiet : ∀ c ∈ w.checks, c.Quiet)
    (accepts : ∀ c ∈ w.checks, c.Accepts t) :
    (w.walk t).reported.toList = t.handles.flatMap (w.findings t) := by
  have silent {event : Nat → Event} (nothing : ∀ i, w.reports t (event i) = []) :
      (w.forEach event).flatMap (w.reports t) = [] := by
    refine List.flatMap_eq_nil_iff.2 fun e he => ?_
    obtain ⟨i, -, rfl⟩ := List.mem_map.1 he
    exact nothing i
  have begun : (w.forEach .begin).flatMap (w.reports t) = [] :=
    silent fun _ => reports_eq_nil fun c hc => (quiet c hc).begins t
  have finished : (w.forEach .finish).flatMap (w.reports t) = [] :=
    silent fun _ => reports_eq_nil fun c hc => (quiet c hc).finishes t
  rw [walk_of_accepts accepts]
  simp only
  rw [calls, List.flatMap_append, List.flatMap_append, begun, finished, reports_callsAt quiet,
    List.nil_append, List.append_nil]
  rfl

end Walker

end ModifierLint
