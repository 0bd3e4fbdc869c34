/-
# Visits and leaves are nested

If the checks accept a tree, the walk makes all of the tree's calls.  About these:

* a check visits and leaves a node once if it asked for the node's kind, and not otherwise
  (`Walker.countP_visits`, `Walker.countP_leaves`);
* between the visits of a node and its leaves stand nothing but the calls of whole nodes
  (`Walker.nested_callsAt`).

Both counts come from one fact: up to order, the calls at nodes are the visits and leaves of the
occurrences of the tree, and no two of these have the same number.
-/
import ModifierLint.Proofs.Walk.Acceptance

namespace ModifierLint

/-- Whether a call is the visit of the node with the number `k` by the check at the place `i`. -/
def Event.isVisit (i k : Nat) : Event → Bool
  | .visit j h => j == i && h.position == some k
  | _ => false

/-- Whether a call is the leave of the node with the number `k` by the check at the place `i`. -/
def Event.isLeave (i k : Nat) : Event → Bool
  | .leave j h => j == i && h.position == some k
  | _ => false

namespace Walker

/-- Whether the check at the place `i` asks for a kind. -/
def asks (w : Walker) (i : Nat) (kind : String) : Bool :=
  (w.checks[i]?).any fun c => c.effectiveTokens.contains kind

/-- Calls in which the visits and the leaves of a node enclose the calls of whole nodes. -/
inductive Nested (w : Walker) : List Event → Prop
  | nil : Nested w []
  | node {h : Handle} {inner after : List Event} : Nested w inner → Nested w after →
      Nested w (w.visitsOf h ++ inner ++ w.leavesOf h ++ after)

variable {w : Walker} {t : SourceTree}

/-! ## Every node once -/

/-- A numbered list has one entry at most with a given number. -/
theorem countP_zipIdx {α : Type} (test : α → Bool) (l : List α) (start i : Nat) :
    (l.zipIdx start).countP (fun (a, j) => j == start + i && test a) =
      if (l[i]?).any test then 1 else 0 := by
  induction l generalizing start i with
  | nil => rfl
  | cons a l ih =>
      rw [List.zipIdx_cons, List.countP_cons]
      cases i with
      | zero =>
          have later : (l.zipIdx (start + 1)).countP (fun (a, j) => j == start + 0 && test a) = 0 := by
            refine List.countP_eq_zero.2 fun entry he => ?_
            have := List.le_snd_of_mem_zipIdx he
            simp only [Bool.and_eq_true, beq_iff_eq]
            omega
          rw [later]
          simp
      | succ i =>
          have shift : start + (i + 1) = start + 1 + i := by omega
          have other : ¬start = start + 1 + i := by omega
          rw [shift, ih]
          simp [other]

/-- Counting in lists that hold one match or none. -/
theorem countP_flatMap_of_one {α β : Type} {p : β → Bool} {q : α → Bool} {f : α → List β} {l : List α}
    (one : ∀ a ∈ l, (f a).countP p = if q a then 1 else 0) :
    (l.flatMap f).countP p = l.countP q := by
  induction l with
  | nil => rfl
  | cons a l ih =>
      rw [List.flatMap_cons, List.countP_append, List.countP_cons, one a List.mem_cons_self,
        ih fun b hb => one b (List.mem_cons_of_mem _ hb), Nat.add_comm]

theorem countP_interested (i : Nat) (kind : String) :
    (w.interested kind).countP (fun (j, _) => j == i) = if w.asks i kind then 1 else 0 := by
  have entry := countP_zipIdx (fun c : Check => c.effectiveTokens.contains kind) w.checks 0 i
  rw [Nat.zero_add] at entry
  rw [interested, List.countP_map, List.countP_filter]
  exact entry

theorem countP_handles (test : Handle → Bool) (k : Nat) :
    t.handles.countP (fun h => h.position == some k && test h) =
      if (t.handle? k).any test then 1 else 0 := by
  have numbered := countP_zipIdx (fun n => test ⟨n, some k⟩) t.root.preorder 0 k
  have same : (fun h : Handle => h.position == some k && test h) ∘
      (fun (n, i) => (⟨n, some i⟩ : Handle)) = fun (n, j) => j == 0 + k && test ⟨n, some k⟩ := by
    funext ⟨n, j⟩
    by_cases hj : j = k
    · subst hj
      simp
    · have hj' : (j == k) = false := beq_false_of_ne hj
      simp [hj']
  have there : t.handle? k = (t.root.preorder[k]?).map fun n => ⟨n, some k⟩ := by
    rw [← SourceTree.getElem?_handles, SourceTree.handles, Handle.numbered, List.getElem?_map,
      List.getElem?_zipIdx, Option.map_map, Nat.zero_add]
    rfl
  rw [SourceTree.handles, Handle.numbered, List.countP_map, same, numbered, there, Option.any_map]

/-- A kind of call that every asking check makes once at a node is made once in a walk for every
node and every check that asks for it. -/
theorem countP_calls {test : Event → Bool} {i k : Nat}
    (one : ∀ h : Handle, (w.visitsOf h ++ w.leavesOf h).countP test =
      if h.position == some k && w.asks i h.node.kind then 1 else 0)
    (begins : ∀ j, test (.begin j) = false) (finishes : ∀ j, test (.finish j) = false) :
    (w.calls t.root).countP test =
      if (t.handle? k).any fun h => w.asks i h.node.kind then 1 else 0 := by
  have outside {event : Nat → Event} (other : ∀ j, test (event j) = false) :
      (w.forEach event).countP test = 0 := by
    refine List.countP_eq_zero.2 fun e he => ?_
    obtain ⟨j, -, rfl⟩ := List.mem_map.1 he
    rw [other]
    exact Bool.false_ne_true
  rw [calls, List.countP_append, List.countP_append, outside begins, outside finishes,
    (callsAt_perm 0 t.root).countP_eq, countP_flatMap_of_one fun h _ => one h, ← countP_handles]
  rw [SourceTree.handles, Nat.zero_add, Nat.add_zero]

theorem countP_once (event : Nat → Event) {test : Event → Bool} {h : Handle} {i k : Nat}
    (same : ∀ j, test (event j) = (j == i && h.position == some k)) :
    ((w.interested h.node.kind).map fun (j, _) => event j).countP test =
      if h.position == some k && w.asks i h.node.kind then 1 else 0 := by
  have entries : (test ∘ fun entry : Nat × Check => event entry.1) =
      fun (j, _) => j == i && h.position == some k := by
    funext entry
    exact same entry.1
  rw [List.countP_map, entries]
  by_cases hk : h.position = some k
  · simp [hk, countP_interested]
  · simp [hk]

theorem countP_never (event : Nat → Event) {test : Event → Bool} {asked : List (Nat × Check)}
    (other : ∀ j, test (event j) = false) : (asked.map fun (j, _) => event j).countP test = 0 := by
  refine List.countP_eq_zero.2 fun e he => ?_
  obtain ⟨entry, -, rfl⟩ := List.mem_map.1 he
  rw [other]
  exact Bool.false_ne_true

/-- A check visits a node once if it asks for the node's kind, and not otherwise. -/
theorem countP_visits (i k : Nat) : (w.calls t.root).countP (Event.isVisit i k) =
    if (t.handle? k).any fun h => w.asks i h.node.kind then 1 else 0 := by
  refine countP_calls (fun h => ?_) (fun _ => rfl) fun _ => rfl
  rw [List.countP_append, visitsOf, leavesOf, countP_once (.visit · h) fun _ => rfl,
    countP_never (.leave · h) fun _ => rfl, Nat.add_zero]

/-- A check leaves a node once if it asks for the node's kind, and not otherwise. -/
theorem countP_leaves (i k : Nat) : (w.calls t.root).countP (Event.isLeave i k) =
    if (t.handle? k).any fun h => w.asks i h.node.kind then 1 else 0 := by
  refine countP_calls (fun h => ?_) (fun _ => rfl) fun _ => rfl
  rw [List.countP_append, visitsOf, leavesOf, countP_once (.leave · h) fun _ => rfl,
    countP_never (.visit · h) fun _ => rfl, Nat.zero_add]

/-! ## Nesting -/

theorem Nested.append {es fs : List Event} (hes : w.Nested es) (hfs : w.Nested fs) :
    w.Nested (es ++ fs) := by
  induction hes with
  | nil => exact hfs
  | node inner _ _ ih =>
      rw [List.append_assoc]
      exact .node inner ih

mutual

theorem nested_callsAt (number : Nat) : ∀ n : Node, w.Nested (w.callsAt number n)
  | .mk kind span text children => by
      rw [callsAt_eq, ← List.append_nil (_ ++ w.leavesOf _)]
      exact .node (nested_callsBelow (number + 1) children) .nil

theorem nested_callsBelow (number : Nat) : ∀ ns : List Node, w.Nested (w.callsBelow number ns)
  | [] => .nil
  | n :: ns => by
      rw [callsBelow]
      exact (nested_callsAt number n).append (nested_callsBelow (number + n.size) ns)

end

/-- **The calls of a walk are those of the recursion on the tree.**  Every check of the list is told
that the walk begins; a node is visited by the checks that asked for its kind, in the order of the
list, and left by them in the same order after the nodes below it; every check is told that the walk
is finished.  So a node is visited and left once for each entry that asked for its kind, and what
happens in between belongs to whole nodes. -/
theorem walk_calls {checks : List Check} {w : Walker} (built : build checks = .ok w)
    (t : SourceTree) (accepts : ∀ c ∈ checks, c.Accepts t) :
    (w.walk t).failure = none ∧
    (w.walk t).events.toList = (List.range checks.length).map .begin ++ w.callsAt 0 t.root ++
      (List.range checks.length).map .finish ∧
    (∀ kind, (w.interested kind).map Prod.snd =
      checks.filter fun c => c.effectiveTokens.contains kind) ∧
    (∀ i k, let once := if (t.handle? k).any fun h => w.asks i h.node.kind then 1 else 0
      (w.walk t).events.toList.countP (Event.isVisit i k) = once ∧
      (w.walk t).events.toList.countP (Event.isLeave i k) = once) ∧
    w.Nested (w.callsAt 0 t.root) := by
  obtain rfl := build_eq_ok built
  rw [walk_of_accepts accepts]
  refine ⟨rfl, rfl, map_snd_interested, fun i k => ⟨?_, ?_⟩, nested_callsAt 0 t.root⟩
  · exact countP_visits i k
  · exact countP_leaves i k

/-- A check that is listed twice is called twice. -/
theorem walk_calls_of_check_listed_twice :
    let c : Check :=
      { name := "members", defaults := ["member"], acceptable := ["member"], required := []
        visit := fun _ _ => {} }
    let inner : Node := .mk "member" default none []
    let outer : Node := .mk "member" default none [inner]
    let t := SourceTree.ofRoot (.mk "program" default none [outer, inner]) "A.java"
    ∃ w, build [c, c] = .ok w ∧ (∀ c' ∈ [c, c], c'.Accepts t) ∧ (w.walk t).events.toList =
      [.begin 0, .begin 1,
        .visit 0 ⟨outer, some 1⟩, .visit 1 ⟨outer, some 1⟩,
        .visit 0 ⟨inner, some 2⟩, .visit 1 ⟨inner, some 2⟩,
        .leave 0 ⟨inner, some 2⟩, .leave 1 ⟨inner, some 2⟩,
        .leave 0 ⟨outer, some 1⟩, .leave 1 ⟨outer, some 1⟩,
        .visit 0 ⟨inner, some 3⟩, .visit 1 ⟨inner, some 3⟩,
        .leave 0 ⟨inner, some 3⟩, .leave 1 ⟨inner, some 3⟩,
        .finish 0, .finish 1] := by
  intro c inner outer t
  have fits : ∀ c' ∈ [c, c], c'.tokenError? = none := by
    intro c' hc
    obtain rfl : c' = c := by simpa using hc
    rfl
  have accepts : ∀ c' ∈ [c, c], c'.Accepts t := by
    intro c' hc k h _ _
    obtain rfl : c' = c := by simpa using hc
    rfl
  have built := build_of_fits fits
  exact ⟨_, built, accepts, (walk_calls built t accepts).2.1.trans rfl⟩

end Walker

end ModifierLint
