/-
# Registering checks

Checks are objects.  The list that a walker is made of may name one of them twice, and a check that
is listed may be given other tokens later.  A `Dispatcher` keeps what the objects are, which of them
are listed, and under each kind the ones that were registered for it.  It is built in one loop over
the list: the tokens of a check are validated, then the check is registered under each of its kinds
in ascending order, then it is the next one's turn.

The loop comes to a filter of the list (`Dispatcher.checksFor_register`).  What a dispatcher does is
what the walker of the same checks does, and neither walking nor setting tokens takes it away from
that (`Dispatcher.Serves.use`), since tokens are not looked at a second time.
-/
import Mathlib.Data.String.Basic
import ModifierLint.Proofs.Keyed
import ModifierLint.Proofs.Walk.Acceptance

namespace ModifierLint

/-! ## Tokens that fit -/

/-- The names of what has a property, each once and in ascending order. -/
structure Ascending (has : String → Prop) (names : List String) : Prop where
  members : ∀ name, name ∈ names ↔ has name
  order : names.Pairwise (· < ·)

theorem ascending_sortedNames (names : List String) :
    Ascending (· ∈ names) (sortedNames names) := by
  have perm : (sortedNames names).Perm names.eraseDups := List.mergeSort_perm _ _
  refine ⟨fun name => perm.mem_iff.trans List.mem_eraseDups, ?_⟩
  have sorted : (sortedNames names).Pairwise (· ≤ ·) := by
    refine (List.pairwise_mergeSort ?_ ?_ _).imp of_decide_eq_true
    · intro a b c ab bc
      exact decide_eq_true (le_trans (of_decide_eq_true ab) (of_decide_eq_true bc))
    · intro a b
      simpa using le_total a b
  have distinct : (sortedNames names).Pairwise (· ≠ ·) := perm.nodup_iff.2 (nodup_eraseDups names)
  exact (sorted.and distinct).imp fun both => lt_of_le_of_ne both.1 both.2

namespace Check

/-- A check whose tokens fit asks for acceptable kinds only, and for all required ones. -/
structure Fits (c : Check) : Prop where
  acceptable : ∀ kind ∈ c.effectiveTokens, kind ∈ c.acceptable
  required : ∀ kind ∈ c.required, kind ∈ c.effectiveTokens

/-- What is to be said about a check whose tokens do not fit: the kinds that it does not accept, or,
if it accepts them all, the required kinds that are missing. -/
inductive Complaint (c : Check) : TokenError → Prop
  | unsupported {names : List String} : names ≠ [] →
      Ascending (fun kind => kind ∈ c.effectiveTokens ∧ kind ∉ c.acceptable) names →
      Complaint c (.unsupported c.name names)
  | missing {names : List String} : (∀ kind ∈ c.effectiveTokens, kind ∈ c.acceptable) →
      names ≠ [] → Ascending (fun kind => kind ∈ c.required ∧ kind ∉ c.effectiveTokens) names →
      Complaint c (.missing c.name names)

variable {c : Check}

theorem fits_iff : c.Fits ↔ c.tokenError? = none := by
  rw [tokenError?_eq_none]
  exact ⟨fun fits => ⟨fits.acceptable, fits.required⟩, fun both => ⟨both.1, both.2⟩⟩

/-- The names of a list that another one lacks. -/
theorem ascending_lacking (names others : List String) :
    Ascending (fun name => name ∈ names ∧ name ∉ others)
      (sortedNames (names.filter fun name => !others.contains name)) := by
  refine ⟨fun name => ?_, (ascending_sortedNames _).order⟩
  rw [(ascending_sortedNames _).members]
  simp

theorem sortedNames_ne_nil {names : List String} (some_ : names ≠ []) : sortedNames names ≠ [] := by
  obtain ⟨name, member⟩ := List.exists_mem_of_ne_nil names some_
  exact List.ne_nil_of_mem (((ascending_sortedNames names).members name).2 member)

theorem complaint_of_tokenError? {e : TokenError} (found : c.tokenError? = some e) :
    c.Complaint e := by
  simp only [tokenError?] at found
  split at found
  · next some_ =>
      cases found
      refine .unsupported (sortedNames_ne_nil ?_) (ascending_lacking _ _)
      simpa using some_
  · next none_ =>
      split at found
      · next some_ =>
          cases found
          refine .missing ?_ (sortedNames_ne_nil ?_) (ascending_lacking _ _)
          · simpa using none_
          · simpa using some_
      · cases found

end Check

/-! ## Step by step -/

/-- A walker as it is kept: the objects, the numbers of those that are listed, and under each kind
the numbers of those that were registered for it. -/
structure Dispatcher where
  checks : Nat → Check
  listed : List Nat
  registered : List (String × List Nat)

namespace Dispatcher

/-- What is registered under a kind.  Asking for a kind writes nothing. -/
def registeredFor (registered : List (String × List Nat)) (kind : String) : List Nat :=
  (Keyed.find? (· == kind) registered).getD []

/-- Registers a check under a kind, after those that are there. -/
def add (i : Nat) (registered : List (String × List Nat)) (kind : String) :
    List (String × List Nat) :=
  Keyed.put (· == ·) kind (registeredFor registered kind ++ [i]) registered

/-- Validates and registers the checks of a list, one after the other. -/
def register (checks : Nat → Check) (registered : List (String × List Nat)) :
    List Nat → Except TokenError (List (String × List Nat))
  | [] => .ok registered
  | i :: rest =>
    match (checks i).tokenError? with
    | some e => .error e
    | none =>
      let kinds := sortedNames (checks i).effectiveTokens
      register checks (kinds.foldl (add i) registered) rest

/-- The dispatcher of the listed checks, or the complaint that came first. -/
def build (checks : Nat → Check) (listed : List Nat) : Except TokenError Dispatcher :=
  (register checks [] listed).map fun registered => ⟨checks, listed, registered⟩

/-- The checks that were registered for a kind. -/
def checksFor (d : Dispatcher) (kind : String) : List Nat :=
  registeredFor d.registered kind

/-- Steps of a program that uses a dispatcher. -/
abbrev Using := StateM Dispatcher

/-- Makes one call to each of some checks, in order, where none of the calls fails. -/
def tellAll (t : SourceTree) (event : Nat → Event) (found : Check → List Finding) :
    List Nat → Walk → Using Walk
  | [], walk => return walk
  | i :: rest, walk => do
    let c := (← get).checks i
    tellAll t event found rest { walk with
      events := walk.events.push (event i)
      reported := walk.reported ++ (found c).map (c.diagnose t) }

/-- Calls the visits of a node in order, up to the first that fails. -/
def visitAll (t : SourceTree) (h : Handle) : List Nat → Walk → Using Walk
  | [], walk => return walk
  | i :: rest, walk => do
    let c := (← get).checks i
    let v := c.visit t h
    let walk : Walk := { walk with
      events := walk.events.push (.visit i h)
      reported := walk.reported ++ c.diagnostics t v
      failure := v.failure }
    if v.failure.isSome then return walk else visitAll t h rest walk

/-- Works off a stack of tasks, asking at each node what is registered for its kind. -/
def run (t : SourceTree) (number : Nat) (walk : Walk) : List Task → Using Walk
  | [] => return walk
  | .leave h :: rest => do
    let walk ← tellAll t (.leave · h) (·.leaves t h) ((← get).checksFor h.node.kind) walk
    run t number walk rest
  | .enter n :: rest => do
    let h : Handle := ⟨n, some number⟩
    let walk ← visitAll t h ((← get).checksFor n.kind) walk
    if walk.failure.isSome then return walk
    else run t (number + 1) walk (n.children.map .enter ++ .leave h :: rest)
termination_by tasks => Task.costs tasks
decreasing_by
  · simp [Task.costs, Task.cost]
  · simp only [Task.costs_append, Task.costs_enter, Task.costs, Task.cost, Node.size_eq n]; omega

/-- Walks a tree. -/
def walk (t : SourceTree) : Using Walk := do
  let listed := (← get).listed
  let walk ← tellAll t .begin (·.begins t) listed {}
  let walk ← run t 0 walk [.enter t.root]
  if walk.failure.isSome then return walk
  else tellAll t .finish (·.finishes t) listed walk

/-- Gives a check other tokens. -/
def setTokens (i : Nat) (tokens : List String) : Using Unit :=
  modify fun d =>
    { d with checks := Function.update d.checks i { d.checks i with tokens := some tokens } }

/-- What is done with a dispatcher. -/
inductive Use
  | walk (t : SourceTree)
  | setTokens (i : Nat) (tokens : List String)

/-- The dispatcher after a use. -/
def use (d : Dispatcher) : Use → Dispatcher
  | .walk t => ((walk t).run d).2
  | .setTokens i tokens => ((setTokens i tokens).run d).2

/-- The dispatcher after uses. -/
def after (d : Dispatcher) (uses : List Use) : Dispatcher :=
  uses.foldl use d

/-! ## Registration is a filter -/

theorem registeredFor_add (i : Nat) (registered : List (String × List Nat)) (kind asked : String) :
    registeredFor (add i registered kind) asked =
      registeredFor registered asked ++ if kind = asked then [i] else [] := by
  rw [add, registeredFor, Keyed.find?_put (fun _ => beq_iff_eq) (fun _ => beq_iff_eq)]
  by_cases same : kind = asked
  · subst same
    simp
  · simp [same, registeredFor]

/-- A check is registered once under each of its kinds. -/
theorem registeredFor_foldl_add (i : Nat) (asked : String) {kinds : List String}
    (once : kinds.Nodup) : ∀ registered : List (String × List Nat),
    registeredFor (kinds.foldl (add i) registered) asked =
      registeredFor registered asked ++ if asked ∈ kinds then [i] else [] := by
  induction kinds with
  | nil => simp
  | cons kind rest ih =>
      intro registered
      obtain ⟨fresh, rest_once⟩ := List.nodup_cons.1 once
      rw [List.foldl_cons, ih rest_once, registeredFor_add]
      by_cases same : kind = asked
      · subst same
        simp [fresh]
      · have other : ¬asked = kind := fun equal => same equal.symm
        simp [same, other]

variable {checks : Nat → Check} {listed : List Nat} {registered : List (String × List Nat)}

theorem registeredFor_sorted (c : Check) (i : Nat) (registered : List (String × List Nat))
    (kind : String) :
    registeredFor ((sortedNames c.effectiveTokens).foldl (add i) registered) kind =
      registeredFor registered kind ++ if c.effectiveTokens.contains kind then [i] else [] := by
  have names := ascending_sortedNames c.effectiveTokens
  rw [registeredFor_foldl_add i kind (names.order.imp ne_of_lt)]
  simp [names.members kind]

/-- What the loop registers under a kind comes after what was there: the checks that ask for it, as
they are listed. -/
theorem checksFor_register : ∀ {listed : List Nat} {registered made : List (String × List Nat)},
    register checks registered listed = .ok made → ∀ kind,
      registeredFor made kind = registeredFor registered kind ++
        listed.filter fun i => (checks i).effectiveTokens.contains kind
  | [], registered, made, built, kind => by
      cases built
      rw [List.filter_nil, List.append_nil]
  | i :: rest, registered, made, built, kind => by
      rw [register] at built
      split at built
      · cases built
      · rw [checksFor_register built kind, registeredFor_sorted, List.append_assoc,
          List.filter_cons]
        split
        · rw [List.singleton_append]
        · rw [List.nil_append]

/-- A loop that goes to the end has found every check of the list fit. -/
theorem fits_of_register : ∀ {listed : List Nat} {registered made : List (String × List Nat)},
    register checks registered listed = .ok made → ∀ i ∈ listed, (checks i).Fits
  | [], _, _, _, i, member => by cases member
  | i :: rest, registered, made, built, j, member => by
      rw [register] at built
      split at built
      · cases built
      · next fits =>
          rcases List.mem_cons.1 member with rfl | later
          · exact Check.fits_iff.2 fits
          · exact fits_of_register built j later

/-- The loop goes to the end of a list of checks that fit. -/
theorem exists_register_of_fits : ∀ {listed : List Nat}, (∀ i ∈ listed, (checks i).Fits) →
    ∀ registered, ∃ made, register checks registered listed = .ok made
  | [], _, registered => ⟨registered, rfl⟩
  | i :: rest, fits, registered => by
      have here := Check.fits_iff.1 (fits i List.mem_cons_self)
      simp only [register, here]
      exact exists_register_of_fits (fun j hj => fits j (List.mem_cons_of_mem _ hj)) _

/-- The loop ends at the first check that does not fit, with the complaint about it. -/
theorem register_of_misfit {i : Nat} {rest : List Nat} {e : TokenError}
    (complains : (checks i).tokenError? = some e) : ∀ {before : List Nat},
    (∀ j ∈ before, (checks j).Fits) → ∀ registered,
      register checks registered (before ++ i :: rest) = .error e
  | [], _, registered => by simp only [List.nil_append, register, complains]
  | j :: before, fit, registered => by
      have here := Check.fits_iff.1 (fit j List.mem_cons_self)
      simp only [List.cons_append, register, here]
      exact register_of_misfit complains (fun k hk => fit k (List.mem_cons_of_mem _ hk)) _

end Dispatcher

/-! ## The walker that a dispatcher stands for -/

/-- Checks that find the same at every call and report it alike. -/
structure Check.Alike (c other : Check) : Prop where
  name : other.name = c.name
  severity : other.severity = c.severity
  visit : other.visit = c.visit
  begins : other.begins = c.begins
  leaves : other.leaves = c.leaves
  finishes : other.finishes = c.finishes

/-- The call with the check at the place called by its number. -/
def Event.named (listed : List Nat) : Event → Event
  | .begin place => .begin (listed.getD place 0)
  | .visit place h => .visit (listed.getD place 0) h
  | .leave place h => .leave (listed.getD place 0) h
  | .finish place => .finish (listed.getD place 0)

/-- The walk with the checks called by their numbers. -/
def Walk.named (listed : List Nat) (walk : Walk) : Walk :=
  { walk with events := walk.events.map (Event.named listed) }

theorem Check.Alike.diagnose {c other : Check} (alike : c.Alike other) :
    other.diagnose = c.diagnose := by
  funext t f
  rw [Check.diagnose, Check.diagnose, alike.name, alike.severity]

theorem Check.Alike.diagnostics {c other : Check} (alike : c.Alike other) :
    other.diagnostics = c.diagnostics := by
  funext t v
  rw [Check.diagnostics, Check.diagnostics, alike.diagnose]

@[simp] theorem Walk.failure_named (listed : List Nat) (walk : Walk) :
    (walk.named listed).failure = walk.failure := rfl

theorem Walk.named_push (listed : List Nat) (walk : Walk) (e : Event)
    (reported : Array Diagnostic) (failure : Option VisitError) :
    (Walk.mk (walk.events.push e) reported failure).named listed =
      ⟨(walk.named listed).events.push (e.named listed), reported, failure⟩ := by
  simp only [named, Array.map_push]

namespace Dispatcher

/-- A dispatcher of the listed checks calls those that the walker calls.  Their tokens may have been
set anew. -/
structure Serves (w : Walker) (listed : List Nat) (d : Dispatcher) : Prop where
  lists : d.listed = listed
  length : w.checks.length = listed.length
  asked : ∀ kind, d.checksFor kind = (w.interested kind).map fun (place, _) => listed.getD place 0
  alike : ∀ (place : Nat) (c : Check), w.checks[place]? = some c →
    c.Alike (d.checks (listed.getD place 0))

variable {checks : Nat → Check} {listed : List Nat} {w : Walker} {d : Dispatcher} {t : SourceTree}

theorem Serves.map_listed (serves : Serves w listed d) :
    w.listed.map (fun (place, _) => listed.getD place 0) = listed := by
  rw [Walker.map_listed fun place => listed.getD place 0, serves.length]
  refine List.ext_getElem (by simp) fun place here there => ?_
  simp [there]

/-- A call that does not fail is made to the same checks, and they find the same. -/
theorem Serves.tellAll (serves : Serves w listed d) {event : Nat → Event}
    {found : Check → List Finding}
    (renamed : ∀ place, (event place).named listed = event (listed.getD place 0))
    (same : ∀ c other : Check, c.Alike other → found other = found c) :
    ∀ {asked : List (Nat × Check)}, (∀ place c, (place, c) ∈ asked → w.checks[place]? = some c) →
      ∀ walk : Walk, (tellAll t event found (asked.map fun (place, _) => listed.getD place 0)
        (walk.named listed)).run d =
          pure ((Walker.tellAll t event found asked walk).named listed, d)
  | [], _, walk => rfl
  | (place, c) :: asked, known, walk => by
      have here := serves.alike place c (known place c List.mem_cons_self)
      have rest := serves.tellAll renamed same
        fun p c' hc => known p c' (List.mem_cons_of_mem _ hc)
      simp only [List.map_cons, Dispatcher.tellAll, StateT.run_bind, StateT.run_get, pure_bind,
        here.diagnose, same c _ here, Walker.tellAll]
      rw [← rest, Walk.named_push, renamed]
      rfl

theorem Serves.visitAll (serves : Serves w listed d) (h : Handle) :
    ∀ {asked : List (Nat × Check)}, (∀ place c, (place, c) ∈ asked → w.checks[place]? = some c) →
      ∀ walk : Walk, (visitAll t h (asked.map fun (place, _) => listed.getD place 0)
        (walk.named listed)).run d = pure ((Walker.visitAll t h asked walk).named listed, d)
  | [], _, walk => rfl
  | (place, c) :: asked, known, walk => by
      have here := serves.alike place c (known place c List.mem_cons_self)
      have rest := serves.visitAll h fun p c' hc => known p c' (List.mem_cons_of_mem _ hc)
      simp only [List.map_cons, Dispatcher.visitAll, StateT.run_bind, StateT.run_get, pure_bind,
        here.visit, here.diagnostics, Walker.visitAll]
      split
      · rw [Walk.named_push]
        rfl
      · rw [← rest, Walk.named_push]
        rfl

/-- The loop makes the walker's calls and leaves the dispatcher as it is. -/
theorem Serves.run (serves : Serves w listed d) (number : Nat) (walk : Walk) (tasks : List Task) :
    (run t number (walk.named listed) tasks).run d =
      pure ((w.run t number walk tasks).named listed, d) := by
  have visited (n : Node) (h : Handle) (walk : Walk) :
      (Dispatcher.visitAll t h (d.checksFor n.kind) (walk.named listed)).run d =
        pure ((Walker.visitAll t h (w.interested n.kind) walk).named listed, d) := by
    rw [serves.asked]
    exact serves.visitAll h (fun place c member => (Walker.mem_interested.1 member).1) walk
  fun_induction Walker.run w t number walk tasks with
  | case1 number walk =>
      rw [Dispatcher.run]
      rfl
  | case2 number walk h rest ih =>
      have left : (Dispatcher.tellAll t (.leave · h) (·.leaves t h) (d.checksFor h.node.kind)
          (walk.named listed)).run d = pure ((Walker.tellAll t (.leave · h) (·.leaves t h)
            (w.interested h.node.kind) walk).named listed, d) := by
        rw [serves.asked]
        exact serves.tellAll (fun _ => rfl) (fun c other alike => by rw [alike.leaves])
          (fun place c member => (Walker.mem_interested.1 member).1) walk
      rw [Dispatcher.run, StateT.run_bind, StateT.run_get, pure_bind, StateT.run_bind, left,
        pure_bind, ih]
  | case3 number walk n rest h after failed =>
      rw [Dispatcher.run, StateT.run_bind, StateT.run_get, pure_bind, StateT.run_bind, visited,
        pure_bind, Walk.failure_named, if_pos failed]
      rfl
  | case4 number walk n rest h after unfailed ih =>
      rw [Dispatcher.run, StateT.run_bind, StateT.run_get, pure_bind, StateT.run_bind, visited,
        pure_bind, Walk.failure_named, if_neg unfailed, ih]

/-- A dispatcher walks as its walker does, and a walk leaves it as it is. -/
theorem Serves.walk (serves : Serves w listed d) (t : SourceTree) :
    (walk t).run d = pure ((w.walk t).named listed, d) := by
  have told (event : Nat → Event) (found : Check → List Finding)
      (renamed : ∀ place, (event place).named listed = event (listed.getD place 0))
      (same : ∀ c other : Check, c.Alike other → found other = found c) (walk : Walk) :
      (Dispatcher.tellAll t event found listed (walk.named listed)).run d =
        pure ((Walker.tellAll t event found w.listed walk).named listed, d) := by
    have all := serves.tellAll (t := t) renamed same (fun _ _ => Walker.mem_listed.1) walk
    rwa [serves.map_listed] at all
  have start : ({} : Walk).named listed = {} := by simp [Walk.named]
  have begun := told .begin (·.begins t) (fun _ => rfl)
    (fun c other alike => by rw [alike.begins]) {}
  rw [start] at begun
  rw [Dispatcher.walk, StateT.run_bind, StateT.run_get, pure_bind, StateT.run_bind, serves.lists,
    begun, pure_bind, StateT.run_bind, serves.run, pure_bind, Walk.failure_named, Walker.walk]
  generalize w.run t 0 _ [.enter t.root] = done
  dsimp only
  split
  · rfl
  · exact told .finish (·.finishes t) (fun _ => rfl)
      (fun c other alike => by rw [alike.finishes]) done

theorem Serves.setTokens (serves : Serves w listed d) (i : Nat) (tokens : List String) :
    Serves w listed (d.use (.setTokens i tokens)) := by
  refine ⟨serves.lists, serves.length, serves.asked, fun place c there => ?_⟩
  have before := serves.alike place c there
  change c.Alike (Function.update d.checks i _ (listed.getD place 0))
  by_cases here : listed.getD place 0 = i
  · rw [← here, Function.update_self]
    exact ⟨before.name, before.severity, before.visit, before.begins, before.leaves,
      before.finishes⟩
  · rw [Function.update_of_ne here]
    exact before

/-- No use takes a dispatcher away from its walker. -/
theorem Serves.use (serves : Serves w listed d) : ∀ u : Use, Serves w listed (d.use u)
  | .walk t => by
      have unchanged : d.use (.walk t) = d := congrArg Prod.snd (serves.walk t)
      rw [unchanged]
      exact serves
  | .setTokens i tokens => serves.setTokens i tokens

theorem Serves.after (serves : Serves w listed d) (uses : List Use) :
    Serves w listed (d.after uses) := by
  induction uses generalizing d with
  | nil => exact serves
  | cons u rest ih => exact ih (serves.use u)

/-! ## What is built -/

/-- The numbers of the checks that a walker calls for a kind. -/
theorem map_interested (same : w.checks = listed.map checks) (kind : String) :
    (w.interested kind).map (fun (place, _) => listed.getD place 0) =
      listed.filter fun i => (checks i).effectiveTokens.contains kind := by
  have numbered : ∀ entry ∈ listed.zipIdx, listed.getD entry.2 0 = entry.1 := by
    intro entry member
    rw [List.getD_eq_getElem?_getD, List.mem_zipIdx_iff_getElem?.1 member, Option.getD_some]
  have filtered : (w.interested kind).map (fun (place, _) => listed.getD place 0) =
      (listed.zipIdx.filter fun entry => (checks entry.1).effectiveTokens.contains kind).map
        fun entry => listed.getD entry.2 0 := by
    rw [Walker.interested, same, List.zipIdx_map, List.filter_map, List.map_map, List.map_map]
    rfl
  rw [filtered,
    List.map_congr_left fun entry member => numbered entry (List.mem_of_mem_filter member)]
  have split : (fun entry : Nat × Nat => (checks entry.1).effectiveTokens.contains kind) =
      (fun i => (checks i).effectiveTokens.contains kind) ∘ Prod.fst := rfl
  rw [split, ← List.filter_map, List.zipIdx_map_fst]

theorem build_eq_ok (built : build checks listed = .ok d) :
    d.checks = checks ∧ d.listed = listed ∧ register checks [] listed = .ok d.registered := by
  unfold build at built
  cases made : register checks [] listed with
  | error e =>
      rw [made] at built
      cases built
  | ok registered =>
      rw [made] at built
      cases built
      exact ⟨rfl, rfl, rfl⟩

theorem checksFor_build (built : build checks listed = .ok d) (kind : String) :
    d.checksFor kind = listed.filter fun i => (checks i).effectiveTokens.contains kind :=
  checksFor_register (build_eq_ok built).2.2 kind

/-- A dispatcher that was built serves the walker of its checks. -/
theorem serves_of_build (built : build checks listed = .ok d)
    (same : w.checks = listed.map checks) : Serves w listed d := by
  obtain ⟨objects, lists, -⟩ := build_eq_ok built
  refine ⟨lists, by rw [same, List.length_map], fun kind => ?_, fun place c there => ?_⟩
  · rw [map_interested same, checksFor_build built]
  · rw [same, List.getElem?_map] at there
    obtain ⟨i, number, rfl⟩ := Option.map_eq_some_iff.1 there
    rw [objects, List.getD_eq_getElem?_getD, number, Option.getD_some]
    exact ⟨rfl, rfl, rfl, rfl, rfl, rfl⟩

theorem fits_of_build (built : build checks listed = .ok d) : ∀ i ∈ listed, (checks i).Fits :=
  fits_of_register (build_eq_ok built).2.2

theorem build_of_fits (fits : ∀ i ∈ listed, (checks i).Fits) :
    ∃ d, build checks listed = .ok d := by
  obtain ⟨registered, made⟩ := exists_register_of_fits fits []
  exact ⟨_, congrArg (Except.map _) made⟩

/-- The first check that does not fit is complained about, and nothing is built. -/
theorem build_of_misfit {before rest : List Nat} {i : Nat}
    (fit : ∀ j ∈ before, (checks j).Fits) (misfit : ¬(checks i).Fits) :
    ∃ e, build checks (before ++ i :: rest) = .error e ∧ (checks i).Complaint e ∧
      Walker.build ((before ++ i :: rest).map checks) = .error e := by
  obtain ⟨e, complains⟩ := Option.ne_none_iff_exists'.1 (mt Check.fits_iff.2 misfit)
  refine ⟨e, ?_, Check.complaint_of_tokenError? complains, Walker.build_of_misfit ?_⟩
  · exact congrArg (Except.map _) (register_of_misfit complains fit [])
  · have quiet : (before.map checks).findSome? Check.tokenError? = none := by
      refine List.findSome?_eq_none_iff.2 fun c member => ?_
      obtain ⟨j, there, rfl⟩ := List.mem_map.1 member
      exact Check.fits_iff.1 (fit j there)
    rw [List.map_append, List.map_cons, List.findSome?_append, quiet, List.findSome?_cons,
      complains, Option.none_or]

/-- **Registration is a filter, once and for all.**  A dispatcher is built exactly if the tokens of
every listed check fit; otherwise the first check whose tokens do not fit is complained about.  What
is called for a kind are the listed checks that asked for it, in the order of the list and as often
as they are listed, and no walk and no tokens that are set afterwards change this.  It is what the
walker of the checks calls. -/
theorem registration_lasts (checks : Nat → Check) (listed : List Nat) :
    ((∃ d, build checks listed = .ok d) ↔ ∀ i ∈ listed, (checks i).Fits) ∧
    (∀ before i rest, listed = before ++ i :: rest → (∀ j ∈ before, (checks j).Fits) →
      ¬(checks i).Fits → ∃ e, build checks listed = .error e ∧ (checks i).Complaint e ∧
        Walker.build (listed.map checks) = .error e) ∧
    ∀ d, build checks listed = .ok d → ∃ w, Walker.build (listed.map checks) = .ok w ∧
      ∀ uses : List Use,
        (∀ kind, (d.after uses).checksFor kind =
            listed.filter fun i => (checks i).effectiveTokens.contains kind) ∧
        (∀ kind, ((d.after uses).checksFor kind).map checks = w.checksFor kind) ∧
        ∀ t, (walk t).run (d.after uses) = ((w.walk t).named listed, d.after uses) := by
  refine ⟨⟨fun ⟨d, built⟩ => fits_of_build built, build_of_fits⟩, ?_, fun d built => ?_⟩
  · rintro before i rest rfl fit misfit
    exact build_of_misfit fit misfit
  · have fit : ∀ c ∈ listed.map checks, c.tokenError? = none := by
      intro c member
      obtain ⟨i, there, rfl⟩ := List.mem_map.1 member
      exact Check.fits_iff.1 (fits_of_build built i there)
    refine ⟨_, Walker.build_of_fits fit, fun uses => ?_⟩
    have serves : Serves ⟨listed.map checks, fit⟩ listed (d.after uses) :=
      (serves_of_build built rfl).after uses
    have filter (kind : String) : (d.after uses).checksFor kind =
        listed.filter fun i => (checks i).effectiveTokens.contains kind := by
      rw [serves.asked, map_interested rfl]
    refine ⟨filter, fun kind => ?_, serves.walk⟩
    rw [filter, Walker.checksFor, List.filter_map]
    rfl

/-- One object is listed twice and one has been given no tokens at all; the objects are given other
tokens in between.  The first is called twice still, the other never. -/
theorem registration_lasts_of_object_listed_twice :
    let checks : Nat → Check := fun i =>
      { name := "members", tokens := if i = 0 then none else some []
        defaults := ["member", "class"], acceptable := ["class", "member"], required := []
        visit := fun _ _ => {} }
    ∃ d, build checks [0, 1, 0] = .ok d ∧ ∀ t : SourceTree,
      (d.after [.setTokens 0 [], .walk t, .setTokens 1 ["member"]]).checksFor "member" =
        [0, 0] := by
  intro checks
  have quiet : ∀ i ∈ [0, 1, 0], (checks i).tokenError? = none := by decide
  obtain ⟨built, -, kept⟩ := registration_lasts checks [0, 1, 0]
  have fits : ∀ i ∈ [0, 1, 0], (checks i).Fits := fun i member => Check.fits_iff.2 (quiet i member)
  obtain ⟨d, made⟩ := built.2 fits
  obtain ⟨w, -, uses⟩ := kept d made
  exact ⟨d, made, fun t => ((uses _).1 "member").trans (by decide)⟩

end Dispatcher

end ModifierLint
