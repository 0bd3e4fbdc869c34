/-
# Blocks that add to the context of a logger

A program may log, derive loggers from others, open blocks over loggers, fail, and catch failures.
Blocks change a context where it is and put a copy of it aside, so what a call sees depends on
when contexts were copied and which logger refers to which of them.  `LogProgram.run` says so step
by step, on a `LoggerPool`.

`LogProgram.meaning` is what one would like to say instead: every logger has the context it was made
with and the fields of the open blocks over it, a block has an effect on its body alone, and
nothing is put aside or restored.  Both come to the same for every program in which no block is
entered again before it is left (`LogProgram.run_follows`).  What a call sees and writes is then read
off its scope (`LogProgram.run_sees`).

The proof keeps two things in view.  `Represents` says that every logger stands as its scope has it
and that no two loggers share a context.  `Keeps` says what a program leaves alone: contexts that no
logger refers to, and the copies of open blocks, which are such contexts.
-/
import Mathlib.Data.List.Forall2
import Mathlib.Data.List.Nodup
import ModifierLint.Log.Pool
import ModifierLint.Proofs.Log.Lines

namespace ModifierLint

theorem getElem?_concat_of_ne {α : Type} {l : List α} {a : α} {j : Nat}
    (other : j ≠ l.length) : (l ++ [a])[j]? = l[j]? := by
  rcases Nat.lt_or_gt_of_ne other with before | behind
  · exact List.getElem?_append_left before
  · have absent : l[j]? = none := List.getElem?_eq_none (Nat.le_of_lt behind)
    rw [absent, List.getElem?_eq_none_iff, List.length_append]
    exact behind

/-! ## Programs -/

/-- What a call to the log is given. -/
structure LogCall where
  level : Level
  message : String
  values : List Value := []
  extra : Fields := []
  error : Option ReportedError := none

/-- A program that logs.  Loggers are numbered in the order in which they are made. -/
inductive LogProgram
  | done
  | log (i : Nat) (call : LogCall)
  /-- Makes a logger with more context than another one. -/
  | derive (i : Nat) (context : Fields)
  | raise
  /-- Catches a failure of the body. -/
  | attempt (body : LogProgram)
  /-- A block over a logger, which is left however the body ends. -/
  | block (block i : Nat) (context : Fields) (body : LogProgram)
  | seq (first second : LogProgram)

namespace LogProgram

/-- Blocks are not entered again before they are left, `active` being those that have been entered,
and no mapping has a key twice. -/
def WellNested (active : List Nat) : LogProgram → Prop
  | done | raise => True
  | log _ call => (Keyed.keys call.extra).Nodup
  | derive _ context => (Keyed.keys context).Nodup
  | attempt body => body.WellNested active
  | block b _ context body =>
    b ∉ active ∧ (Keyed.keys context).Nodup ∧ body.WellNested (b :: active)
  | seq first second => first.WellNested active ∧ second.WellNested active

/-- Why a program ends early. -/
inductive Interruption
  | fault (f : LogFault)
  | noLogger (i : Nat)
  | raised
  deriving Repr, DecidableEq

/-- A step that is refused ends the program. -/
def outcomeOf {α : Type} : Except LogFault α → Except Interruption Unit
  | .ok _ => .ok ()
  | .error f => .error (.fault f)

/-! ## Running -/

/-- The fields that a call saw, and what it came to. -/
structure Seen where
  fields : Fields
  entry : Except LogFault (Option LogEntry)

/-- The loggers, and what calls have seen so far. -/
structure Bench where
  pool : LoggerPool
  seen : List Seen := []

/-- One logger, and nothing seen yet. -/
def Bench.start (l : Logger) : Bench where
  pool := LoggerPool.add {} l

/-- A call through a logger. -/
def see (log : Log) (l : Logger) (call : LogCall) : Seen where
  fields := l.fieldsOf call.extra
  entry := log.entry l call.level call.message call.values call.extra call.error

/-- Runs a program. -/
def run (log : Log) : LogProgram → Bench → Except Interruption Unit × Bench
  | done, s => (.ok (), s)
  | .log i call, s =>
    match s.pool.logger? i with
    | none => (.error (.noLogger i), s)
    | some l =>
      let seen := see log l call
      (outcomeOf seen.entry, { s with seen := s.seen ++ [seen] })
  | derive i context, s =>
    match s.pool.logger? i with
    | none => (.error (.noLogger i), s)
    | some l =>
      match l.derive context with
      | .error f => (.error (.fault f), s)
      | .ok derived => (.ok (), { s with pool := s.pool.add derived })
  | raise, s => (.error .raised, s)
  | attempt body, s => (.ok (), (body.run log s).2)
  | block b i context body, s =>
    match s.pool.logger? i with
    | none => (.error (.noLogger i), s)
    | some _ =>
      match s.pool.enter b i context with
      | .error f => (.error (.fault f), s)
      | .ok inside =>
        let (outcome, after) := body.run log { s with pool := inside }
        (outcome, { after with pool := after.pool.leave b i })
  | seq first second, s =>
    match first.run log s with
    | (.ok (), between) => second.run log between
    | (.error e, between) => (.error e, between)

/-! ## What programs mean -/

/-- A logger as it was made, and the fields of the open blocks over it, outermost first. -/
structure Scope where
  made : Logger
  blocks : List Fields := []

namespace Scope

/-- What the logger was made with, and the open blocks from the outermost to the innermost. -/
def layers (s : Scope) : List Fields :=
  s.made.context :: s.blocks

/-- The logger inside its blocks. -/
def now (s : Scope) : Logger :=
  s.blocks.foldl Logger.withContext s.made

/-- The scope inside one more block. -/
def inside (s : Scope) (context : Fields) : Scope :=
  { s with blocks := s.blocks ++ [context] }

end Scope

/-- A call in a scope. -/
structure Told where
  scope : Scope
  call : LogCall

/-- The mappings whose fields a call sees: those of its scope, and what the call brings itself. -/
def Told.layers (t : Told) : List Fields :=
  t.scope.layers ++ [t.call.extra]

/-- How a program ends, the loggers that it makes, and the calls in it. -/
structure Meaning where
  outcome : Except Interruption Unit
  made : List Logger := []
  told : List Told := []

/-- What a program means where loggers have scopes.  The scope of a block is that of its body. -/
def meaning (log : Log) : LogProgram → List Scope → Meaning
  | done, _ => { outcome := .ok () }
  | .log i call, scopes =>
    match scopes[i]? with
    | none => { outcome := .error (.noLogger i) }
    | some s => { outcome := outcomeOf (see log s.now call).entry, told := [⟨s, call⟩] }
  | derive i context, scopes =>
    match scopes[i]? with
    | none => { outcome := .error (.noLogger i) }
    | some s =>
      match s.now.derive context with
      | .error f => { outcome := .error (.fault f) }
      | .ok derived => { outcome := .ok (), made := [derived] }
  | raise, _ => { outcome := .error .raised }
  | attempt body, scopes => { body.meaning log scopes with outcome := .ok () }
  | block _ i context body, scopes =>
    match scopes[i]? with
    | none => { outcome := .error (.noLogger i) }
    | some s =>
      match s.now.enter context with
      | .error f => { outcome := .error (.fault f) }
      | .ok _ => body.meaning log (scopes.set i (s.inside context))
  | seq first second, scopes =>
    let before := first.meaning log scopes
    match before.outcome with
    | .error _ => before
    | .ok () =>
      let after := second.meaning log (scopes ++ before.made.map ({ made := · }))
      { outcome := after.outcome, made := before.made ++ after.made,
        told := before.told ++ after.told }

end LogProgram

/-! ## Loggers and their contexts -/

namespace LoggerPool

variable {pool : LoggerPool} {i number : Nat} {l : Logger}

/-- The numbers of the contexts that loggers refer to. -/
def owned (pool : LoggerPool) : List Nat :=
  pool.loggers.map Prod.snd

theorem logger?_eq_some : pool.logger? i = some l ↔
    ∃ number, pool.loggers[i]? = some (l.name, number) ∧
      pool.contexts[number]? = some l.context := by
  unfold logger?
  rw [Option.bind_eq_some_iff]
  constructor
  · rintro ⟨⟨name, number⟩, there, context⟩
    obtain ⟨context, found, rfl⟩ := Option.map_eq_some_iff.1 context
    exact ⟨number, there, found⟩
  · rintro ⟨number, there, found⟩
    exact ⟨(l.name, number), there, Option.map_eq_some_iff.2 ⟨l.context, found, rfl⟩⟩

/-- A logger stands as before if it refers to the same context and this has not changed. -/
theorem logger?_congr {pool' : LoggerPool} (refers : pool'.loggers[i]? = pool.loggers[i]?)
    (same : ∀ name number, pool.loggers[i]? = some (name, number) →
      pool'.contexts[number]? = pool.contexts[number]?) : pool'.logger? i = pool.logger? i := by
  unfold logger?
  rw [refers]
  cases here : pool.loggers[i]? with
  | none => rfl
  | some entry =>
      rw [Option.bind_some, Option.bind_some]
      dsimp only
      rw [same entry.1 entry.2 here]

/-- Loggers that refer to different contexts are told apart by them. -/
theorem number_ne {j number' : Nat} {name name' : String} (apart : pool.owned.Nodup) (other : i ≠ j)
    (here : pool.loggers[i]? = some (name, number))
    (there : pool.loggers[j]? = some (name', number')) : number ≠ number' := by
  rintro rfl
  have mine : pool.owned[i]? = some number := by rw [owned, List.getElem?_map, here]; rfl
  have theirs : pool.owned[j]? = some number := by rw [owned, List.getElem?_map, there]; rfl
  have within := (List.getElem?_eq_some_iff.1 mine).1
  exact other ((List.getElem?_inj within apart).1 (mine.trans theirs.symm))

theorem mem_owned {name : String} (here : pool.loggers[i]? = some (name, number)) :
    number ∈ pool.owned :=
  List.mem_map_of_mem (List.mem_of_getElem? here)

/-- Every logger stands as its scope has it, and no two loggers share a context. -/
structure Represents (pool : LoggerPool) (scopes : List LogProgram.Scope) : Prop where
  size : pool.loggers.length = scopes.length
  now : ∀ i, pool.logger? i = scopes[i]?.map (·.now)
  apart : pool.owned.Nodup

/-- What a program leaves alone, `active` being the blocks that have been entered: contexts that no
logger refers to stay as they are and nobody comes to refer to them, and blocks keep their copies. -/
structure Keeps (active : List Nat) (pool pool' : LoggerPool) : Prop where
  loose : ∀ number context, number ∉ pool.owned → pool.contexts[number]? = some context →
    number ∉ pool'.owned ∧ pool'.contexts[number]? = some context
  saved : ∀ b ∈ active, Keyed.find? (· == b) pool'.saved = Keyed.find? (· == b) pool.saved

theorem Keeps.refl (active : List Nat) (pool : LoggerPool) : Keeps active pool pool :=
  ⟨fun _ _ loose there => ⟨loose, there⟩, fun _ _ => rfl⟩

/-- What is kept for more blocks is kept for fewer. -/
theorem Keeps.of_cons {active : List Nat} {b : Nat} {pool pool' : LoggerPool}
    (keeps : Keeps (b :: active) pool pool') : Keeps active pool pool' :=
  ⟨keeps.loose, fun b' member => keeps.saved b' (List.mem_cons_of_mem b member)⟩

theorem Keeps.trans {active : List Nat} {pool pool' pool'' : LoggerPool}
    (first : Keeps active pool pool') (second : Keeps active pool' pool'') :
    Keeps active pool pool'' := by
  constructor
  · intro number context loose there
    obtain ⟨loose', there'⟩ := first.loose number context loose there
    exact second.loose number context loose' there'
  · intro b member
    exact (second.saved b member).trans (first.saved b member)

namespace Represents

variable {scopes : List LogProgram.Scope} {s : LogProgram.Scope}

theorem logger? (represents : pool.Represents scopes) (there : scopes[i]? = some s) :
    pool.logger? i = some s.now := by
  rw [represents.now, there, Option.map_some]

/-- Loggers refer to contexts that are there. -/
theorem lt (represents : pool.Represents scopes) (member : number ∈ pool.owned) :
    number < pool.contexts.length := by
  obtain ⟨⟨name, _⟩, there, rfl⟩ := List.mem_map.1 member
  obtain ⟨i, inside, here⟩ := List.getElem_of_mem there
  have known : i < scopes.length := represents.size ▸ inside
  obtain ⟨number, refers, context⟩ :=
    logger?_eq_some.1 (represents.logger? (List.getElem?_eq_getElem known))
  rw [List.getElem?_eq_getElem inside, here] at refers
  cases refers
  exact (List.getElem?_eq_some_iff.1 context).1

/-- A logger that is made has a context of its own. -/
theorem add (represents : pool.Represents scopes) (l : Logger) :
    (pool.add l).Represents (scopes ++ [{ made := l }]) := by
  have owned : (pool.add l).owned = pool.owned ++ [pool.contexts.length] := List.map_append
  refine ⟨?_, fun j => ?_, ?_⟩
  · rw [LoggerPool.add, List.length_append, List.length_append, represents.size]
    rfl
  · by_cases new : j = scopes.length
    · subst new
      rw [List.getElem?_concat_length, Option.map_some]
      refine logger?_eq_some.2 ⟨pool.contexts.length, ?_, List.getElem?_concat_length⟩
      rw [← represents.size]
      exact List.getElem?_concat_length
    · rw [getElem?_concat_of_ne new, ← represents.now]
      refine logger?_congr (getElem?_concat_of_ne (represents.size ▸ new)) ?_
      intro name number refers
      exact List.getElem?_append_left (represents.lt (mem_owned refers))
  · rw [owned]
    refine List.nodup_append.2 ⟨represents.apart, List.nodup_singleton _, ?_⟩
    intro a member b new
    rw [List.mem_singleton.1 new]
    exact Nat.ne_of_lt (represents.lt member)

end Represents

theorem keeps_add (active : List Nat) (l : Logger) : Keeps active pool (pool.add l) := by
  have owned : (pool.add l).owned = pool.owned ++ [pool.contexts.length] := List.map_append
  refine ⟨fun number context loose there => ?_, fun _ _ => rfl⟩
  have inside := (List.getElem?_eq_some_iff.1 there).1
  refine ⟨?_, (List.getElem?_append_left inside).trans there⟩
  rw [owned, List.mem_append, List.mem_singleton, not_or]
  exact ⟨loose, Nat.ne_of_lt inside⟩

/-! ## Entering and leaving -/

/-- The pool inside a block: the copy stands under a new number, and the context that the logger
refers to is written over. -/
def opened (pool : LoggerPool) (b number : Nat) (inside outside : Fields) : LoggerPool :=
  { pool with
    contexts := pool.contexts.set number inside ++ [outside]
    saved := Keyed.put (· == ·) b pool.contexts.length pool.saved }

/-- The pool in which a logger refers to another context. -/
def referring (pool : LoggerPool) (i : Nat) (name : String) (number : Nat) : LoggerPool :=
  { pool with loggers := pool.loggers.set i (name, number) }

theorem enter_eq {b : Nat} {fields : Fields} (here : pool.loggers[i]? = some (l.name, number))
    (there : pool.logger? i = some l) : pool.enter b i fields =
      (l.enter fields).map fun inside => pool.opened b number inside.context l.context := by
  unfold enter
  rw [here, there]
  dsimp only
  cases l.enter fields with
  | error f => rfl
  | ok inside => rfl

theorem leave_eq {b copy : Nat} {name : String} (here : pool.loggers[i]? = some (name, number))
    (saved : Keyed.find? (· == b) pool.saved = some copy) :
    pool.leave b i = pool.referring i name copy := by
  unfold leave
  rw [here, saved]
  rfl

section

variable {b : Nat} {inside outside : Fields}

/-- The copy of a block. -/
theorem getElem?_opened_length :
    (pool.opened b number inside outside).contexts[pool.contexts.length]? = some outside := by
  have length : (pool.contexts.set number inside).length = pool.contexts.length :=
    List.length_set
  rw [← length]
  exact List.getElem?_concat_length

/-- Contexts that were there before stay, but for the one that is written over. -/
theorem getElem?_opened {other : Nat} (apart : number ≠ other)
    (within : other < pool.contexts.length) :
    (pool.opened b number inside outside).contexts[other]? = pool.contexts[other]? := by
  have length : (pool.contexts.set number inside).length = pool.contexts.length :=
    List.length_set
  refine (List.getElem?_append_left (length ▸ within)).trans ?_
  exact List.getElem?_set_ne apart

/-- The context that is written over. -/
theorem getElem?_opened_self (within : number < pool.contexts.length) :
    (pool.opened b number inside outside).contexts[number]? = some inside := by
  have length : (pool.contexts.set number inside).length = pool.contexts.length :=
    List.length_set
  refine (List.getElem?_append_left (length ▸ within)).trans ?_
  exact List.getElem?_set_self within

theorem saved_opened (b' : Nat) :
    Keyed.find? (· == b') (pool.opened b number inside outside).saved =
      if b = b' then some pool.contexts.length else Keyed.find? (· == b') pool.saved := by
  have found : Keyed.find? (· == b') (Keyed.put (· == ·) b pool.contexts.length pool.saved) =
      if b == b' then some pool.contexts.length else Keyed.find? (· == b') pool.saved :=
    Keyed.find?_put (fun _ => beq_iff_eq) (fun _ => beq_iff_eq) _ _
  simp only [beq_iff_eq] at found
  exact found

theorem keeps_opened {active : List Nat} (mine : number ∈ pool.owned) (fresh : b ∉ active) :
    Keeps active pool (pool.opened b number inside outside) := by
  refine ⟨fun other context loose there => ⟨loose, ?_⟩, fun b' member => ?_⟩
  · have within := (List.getElem?_eq_some_iff.1 there).1
    have apart : number ≠ other := by
      rintro rfl
      exact loose mine
    rw [getElem?_opened apart within, there]
  · have other : b ≠ b' := fun equal => fresh (equal ▸ member)
    rw [saved_opened, if_neg other]

end

variable {scopes more : List LogProgram.Scope} {s s' : LogProgram.Scope} {name : String}

/-- Writing a logger's context over puts the logger into another scope, and no other logger. -/
theorem Represents.opened (represents : pool.Represents scopes) (there : scopes[i]? = some s)
    (here : pool.loggers[i]? = some (name, number)) {inside : Fields}
    (now : s'.now = { name, context := inside }) (b : Nat) (outside : Fields) :
    (pool.opened b number inside outside).Represents (scopes.set i s') := by
  have within : i < scopes.length := (List.getElem?_eq_some_iff.1 there).1
  refine ⟨represents.size.trans List.length_set.symm, fun j => ?_, represents.apart⟩
  by_cases same : i = j
  · subst same
    rw [List.getElem?_set_self within, Option.map_some, now]
    refine logger?_eq_some.2 ⟨number, here, getElem?_opened_self (represents.lt ?_)⟩
    exact List.mem_map_of_mem (List.mem_of_getElem? here)
  · rw [List.getElem?_set_ne same, ← represents.now]
    refine logger?_congr rfl fun name' number' refers => ?_
    exact getElem?_opened (number_ne represents.apart same here refers)
      (represents.lt (mem_owned refers))

/-- A logger that comes to refer to a loose context is in the scope that has this context, and all
others are where they were. -/
theorem Represents.referring (represents : pool.Represents (scopes.set i s' ++ more))
    (there : scopes[i]? = some s) (loose : number ∉ pool.owned)
    (context : pool.contexts[number]? = some s.now.context) :
    (pool.referring i s.now.name number).Represents (scopes ++ more) := by
  have within : i < scopes.length := (List.getElem?_eq_some_iff.1 there).1
  have size : pool.loggers.length = scopes.length + more.length := by
    rw [represents.size, List.length_append, List.length_set]
  have inside : i < pool.loggers.length := by omega
  refine ⟨?_, fun j => ?_, ?_⟩
  · rw [LoggerPool.referring, List.length_set, size, List.length_append]
  · by_cases same : i = j
    · subst same
      rw [List.getElem?_append_left within, there, Option.map_some]
      exact logger?_eq_some.2 ⟨number, List.getElem?_set_self inside, context⟩
    · have unchanged : (scopes.set i s' ++ more)[j]? = (scopes ++ more)[j]? := by
        rw [List.getElem?_append, List.getElem?_append, List.length_set, List.getElem?_set_ne same]
      rw [← unchanged, ← represents.now]
      exact logger?_congr (List.getElem?_set_ne same) fun _ _ _ => rfl
  · have owned : (pool.referring i s.now.name number).owned = pool.owned.set i number :=
      List.map_set
    rw [owned]
    exact represents.apart.set loose

theorem keeps_referring {active : List Nat} {before : LoggerPool}
    (keeps : Keeps active before pool) (new : ∀ context, before.contexts[number]? ≠ some context) :
    Keeps active before (pool.referring i name number) := by
  refine ⟨fun other context loose there => ?_, keeps.saved⟩
  obtain ⟨loose', there'⟩ := keeps.loose other context loose there
  refine ⟨fun member => ?_, there'⟩
  have owned : (pool.referring i name number).owned = pool.owned.set i number := List.map_set
  rw [owned] at member
  rcases List.mem_or_eq_of_mem_set member with old | rfl
  · exact loose' old
  · exact new context there

end LoggerPool

/-! ## Programs come to what they mean -/

namespace LogProgram

open LoggerPool

theorem Scope.now_inside (s : Scope) (context : Fields) :
    (s.inside context).now = s.now.withContext context := by
  rw [now, inside, List.foldl_append]
  rfl

/-- A logger that is made with names refused has the context written over. -/
theorem eq_of_refuseNames {l l' : Logger} {arguments : List String} {context : Fields}
    (made : (do Logger.refuseNames arguments context; return l.withContext context) =
      (.ok l' : Except LogFault Logger)) : l' = l.withContext context := by
  cases refused : Logger.refuseNames arguments context with
  | error f =>
      rw [refused] at made
      cases made
  | ok _ =>
      rw [refused] at made
      exact (Except.ok.inj made).symm

theorem derive_eq_ok {l derived : Logger} {context : Fields}
    (made : l.derive context = .ok derived) : derived = l.withContext context :=
  eq_of_refuseNames made

theorem enter_eq_ok {l inside : Logger} {context : Fields} (entered : l.enter context = .ok inside) :
    inside = l.withContext context :=
  eq_of_refuseNames entered

/-- What a call in a scope sees. -/
def Told.seen (log : Log) (t : Told) : Seen :=
  see log t.scope.now t.call

/-- A run ends as the program means, what its calls saw is what they see in their scopes, and the
loggers stand as before but for those that were made. -/
structure Follows (log : Log) (active : List Nat) (scopes : List Scope) (s : Bench) (m : Meaning)
    (r : Except Interruption Unit × Bench) : Prop where
  outcome : r.1 = m.outcome
  seen : r.2.seen = s.seen ++ m.told.map (·.seen log)
  represents : r.2.pool.Represents (scopes ++ m.made.map ({ made := · }))
  keeps : Keeps active s.pool r.2.pool

section

variable {log : Log} {active : List Nat} {scopes : List Scope} {s : Bench}

/-- A step that changes nothing. -/
theorem follows_stop (represents : s.pool.Represents scopes) (outcome : Except Interruption Unit) :
    Follows log active scopes s { outcome } (outcome, s) := by
  refine ⟨rfl, ?_, ?_, .refl _ _⟩
  · rw [List.map_nil, List.append_nil]
  · rw [List.map_nil, List.append_nil]
    exact represents

/-- Leaving a block puts the logger back into the scope that it had in front of the block. -/
theorem Follows.leave {b i number : Nat} {scope : Scope} {context : Fields} {m : Meaning}
    {outcome : Except Interruption Unit} {after : Bench}
    (inner : Follows log (b :: active) (scopes.set i (scope.inside context))
      ⟨s.pool.opened b number (scope.now.withContext context).context scope.now.context, s.seen⟩ m
      (outcome, after))
    (represents : s.pool.Represents scopes) (there : scopes[i]? = some scope)
    (mine : number ∈ s.pool.owned) (fresh : b ∉ active) :
    Follows log active scopes s m (outcome, { after with pool := after.pool.leave b i }) := by
  have within : i < scopes.length := (List.getElem?_eq_some_iff.1 there).1
  have new : s.pool.contexts.length ∉ s.pool.owned := fun member =>
    Nat.lt_irrefl _ (represents.lt member)
  -- the copy is still there, and nobody refers to it
  obtain ⟨loose, copy⟩ := inner.keeps.loose _ _ new getElem?_opened_length
  have saved := inner.keeps.saved b List.mem_cons_self
  rw [saved_opened, if_pos rfl] at saved
  have self : (scopes.set i (scope.inside context) ++ m.made.map ({ made := · }))[i]? =
      some (scope.inside context) := by
    rw [List.getElem?_append_left (by rw [List.length_set]; exact within),
      List.getElem?_set_self within]
  obtain ⟨_, refers, -⟩ := logger?_eq_some.1 (inner.represents.logger? self)
  rw [scope.now_inside] at refers
  have left := leave_eq refers saved
  refine ⟨inner.outcome, inner.seen, ?_, ?_⟩
  · rw [left]
    exact inner.represents.referring there loose copy
  · rw [left]
    refine keeps_referring ((keeps_opened mine fresh).trans inner.keeps.of_cons) ?_
    intro context same
    exact absurd (List.getElem?_eq_some_iff.1 same).1 (Nat.lt_irrefl _)

/-- **Blocks have the effect of scopes.** -/
theorem run_follows (log : Log) (p : LogProgram) : ∀ {active : List Nat} {scopes : List Scope}
    {s : Bench}, p.WellNested active → s.pool.Represents scopes →
      Follows log active scopes s (p.meaning log scopes) (p.run log s) := by
  induction p with
  | done =>
      intro active scopes s _ represents
      exact follows_stop represents _
  | raise =>
      intro active scopes s _ represents
      exact follows_stop represents _
  | log i call =>
      intro active scopes s _ represents
      rw [run, meaning, represents.now]
      cases scopes[i]? with
      | none => exact follows_stop represents _
      | some scope =>
          refine ⟨rfl, rfl, ?_, .refl _ _⟩
          rw [List.map_nil, List.append_nil]
          exact represents
  | derive i context =>
      intro active scopes s _ represents
      rw [run, meaning, represents.now]
      cases scopes[i]? with
      | none => exact follows_stop represents _
      | some scope =>
          dsimp only [Option.map_some]
          cases scope.now.derive context with
          | error f => exact follows_stop represents _
          | ok derived =>
              refine ⟨rfl, ?_, represents.add derived, keeps_add active derived⟩
              rw [List.map_nil, List.append_nil]
  | attempt body ih =>
      intro active scopes s nested represents
      have inner := ih nested represents
      exact ⟨rfl, inner.seen, inner.represents, inner.keeps⟩
  | block b i context body ih =>
      intro active scopes s nested represents
      obtain ⟨fresh, -, nested⟩ := nested
      rw [run, meaning, represents.now]
      cases there : scopes[i]? with
      | none => exact follows_stop represents _
      | some scope =>
          have logger := represents.logger? there
          obtain ⟨number, here, -⟩ := logger?_eq_some.1 logger
          have mine := mem_owned here
          dsimp only [Option.map_some]
          rw [enter_eq here logger]
          cases entered : scope.now.enter context with
          | error f => exact follows_stop represents _
          | ok inside =>
              obtain rfl := enter_eq_ok entered
              have opened :=
                represents.opened there here (scope.now_inside context) b scope.now.context
              exact (ih (s := ⟨_, s.seen⟩) nested opened).leave represents there mine fresh
  | seq first second ih ih' =>
      intro active scopes s nested represents
      have before := ih nested.1 represents
      rw [run, meaning]
      generalize first.run log s = r at before ⊢
      generalize first.meaning log scopes = m at before ⊢
      obtain ⟨outcome, between⟩ := r
      obtain ⟨_, made, told⟩ := m
      obtain rfl : outcome = _ := before.outcome
      cases outcome with
      | error e => exact before
      | ok _ =>
          have after := ih' nested.2 before.represents
          refine ⟨after.outcome, ?_, ?_, before.keeps.trans after.keeps⟩
          · rw [List.map_append, ← List.append_assoc]
            exact after.seen.trans (congrArg (· ++ _) before.seen)
          · rw [List.map_append, ← List.append_assoc]
            exact after.represents

end

/-! ## What calls see -/

/-- No layer has a field twice. -/
def Sound (layers : List Fields) : Prop :=
  ∀ layer ∈ layers, (Keyed.keys layer).Nodup

theorem Sound.concat {layers : List Fields} {layer : Fields} (sound : Sound layers)
    (nodup : (Keyed.keys layer).Nodup) : Sound (layers ++ [layer]) :=
  List.forall_mem_append.2 ⟨sound, List.forall_mem_singleton.2 nodup⟩

namespace Scope

variable {s : Scope}

theorem name_now (s : Scope) : s.now.name = s.made.name := by
  unfold now
  induction s.blocks using List.reverseRecOn with
  | nil => rfl
  | append_singleton blocks context ih =>
      rw [List.foldl_append]
      exact ih

theorem context_now (s : Scope) :
    s.now.context = s.blocks.foldl Fields.merge s.made.context := by
  unfold now
  induction s.blocks using List.reverseRecOn with
  | nil => rfl
  | append_singleton blocks context ih =>
      rw [List.foldl_append, List.foldl_append, ← ih]
      rfl

end Scope

theorem nodup_merge {fields : Fields} (nodup : (Keyed.keys fields).Nodup) (added : Fields) :
    (Keyed.keys (fields.merge added)).Nodup :=
  Keyed.nodup_putAll (fun _ _ => beq_iff_eq) nodup added

theorem nodup_foldl_merge {base : Fields} (nodup : (Keyed.keys base).Nodup) (rest : List Fields) :
    (Keyed.keys (rest.foldl Fields.merge base)).Nodup := by
  induction rest using List.reverseRecOn with
  | nil => exact nodup
  | append_singleton rest layer ih =>
      rw [List.foldl_append]
      exact nodup_merge ih layer

/-- Of layers that are merged, the last one with a field counts. -/
theorem get?_foldl_merge (base : Fields) (name : String) : ∀ {rest : List Fields}, Sound rest →
    (rest.foldl Fields.merge base).get? name =
      (base :: rest).reverse.findSome? (·.get? name) := by
  intro rest
  induction rest using List.reverseRecOn with
  | nil =>
      intro _
      rw [List.reverse_singleton, List.findSome?_singleton]
      rfl
  | append_singleton rest layer ih =>
      intro sound
      obtain ⟨before, last⟩ := List.forall_mem_append.1 sound
      have nodup : (Keyed.keys layer).Nodup := last layer (List.mem_singleton_self layer)
      have names (k : String) : (k == name) = true ↔ k = name := beq_iff_eq
      have merged := Keyed.find?_putAll (fun _ _ => beq_iff_eq) names
        (rest.foldl Fields.merge base) layer
      rw [Keyed.find?_reverse names nodup] at merged
      rw [List.foldl_append, ← List.cons_append, List.reverse_append]
      rw [List.findSome?_append, ← ih before, List.reverse_singleton, List.findSome?_singleton]
      exact merged

theorem sound_layers {s : Scope} (sound : Sound s.layers) : (Keyed.keys s.now.context).Nodup := by
  rw [s.context_now]
  exact nodup_foldl_merge (sound _ List.mem_cons_self) s.blocks

/-- Well-nested programs bring no layer in that has a field twice. -/
theorem sound_meaning (log : Log) (p : LogProgram) : ∀ {active : List Nat} {scopes : List Scope},
    p.WellNested active → (∀ s ∈ scopes, Sound s.layers) →
      (∀ t ∈ (p.meaning log scopes).told, Sound t.layers) ∧
        ∀ l ∈ (p.meaning log scopes).made, (Keyed.keys l.context).Nodup := by
  induction p with
  | done => exact fun _ _ => ⟨nofun, nofun⟩
  | raise => exact fun _ _ => ⟨nofun, nofun⟩
  | log i call =>
      intro active scopes nodup sound
      rw [meaning]
      cases there : scopes[i]? with
      | none => exact ⟨nofun, nofun⟩
      | some s =>
          refine ⟨fun t told => ?_, nofun⟩
          obtain rfl := List.mem_singleton.1 told
          exact (sound s (List.mem_of_getElem? there)).concat nodup
  | derive i context =>
      intro active scopes _ sound
      rw [meaning]
      cases there : scopes[i]? with
      | none => exact ⟨nofun, nofun⟩
      | some s =>
          dsimp only
          cases made : s.now.derive context with
          | error f => exact ⟨nofun, nofun⟩
          | ok l =>
              refine ⟨nofun, fun l' member => ?_⟩
              obtain rfl := List.mem_singleton.1 member
              rw [derive_eq_ok made]
              exact nodup_merge (sound_layers (sound s (List.mem_of_getElem? there))) context
  | attempt body ih => exact ih
  | block b i context body ih =>
      intro active scopes nested sound
      obtain ⟨-, nodup, nested⟩ := nested
      rw [meaning]
      cases there : scopes[i]? with
      | none => exact ⟨nofun, nofun⟩
      | some s =>
          dsimp only
          cases s.now.enter context with
          | error f => exact ⟨nofun, nofun⟩
          | ok _ =>
              refine ih nested fun s' member => ?_
              rcases List.mem_or_eq_of_mem_set member with before | rfl
              · exact sound s' before
              · exact (sound s (List.mem_of_getElem? there)).concat nodup
  | seq first second ih ih' =>
      intro active scopes nested sound
      obtain ⟨told, made⟩ := ih nested.1 sound
      rw [meaning]
      dsimp only
      split
      · exact ⟨told, made⟩
      · have scoped' : ∀ s ∈ scopes ++ (first.meaning log scopes).made.map ({ made := · }),
            Sound s.layers := by
          refine List.forall_mem_append.2 ⟨sound, List.forall_mem_map.2 fun l member => ?_⟩
          exact List.forall_mem_singleton.2 (made l member)
        obtain ⟨told', made'⟩ := ih' nested.2 scoped'
        exact ⟨List.forall_mem_append.2 ⟨told, told'⟩, List.forall_mem_append.2 ⟨made, made'⟩⟩

/-! ## What calls write -/

/-- No field has a name that every entry uses itself. -/
def Accepted (fields : Fields) : Prop :=
  ∀ name ∈ Keyed.keys fields, name ∉ LogEntry.takenFields

section

variable {log : Log} {l : Logger} {call : LogCall}

theorem Accepted.find?_eq_none {fields : Fields} (accepted : Accepted fields) :
    (Keyed.keys fields).find? LogEntry.takenFields.contains = none := by
  rw [List.find?_eq_none]
  intro name member taken
  exact accepted name member (List.contains_iff_mem.1 taken)

/-- A call is refused only for the names of its fields. -/
theorem Accepted.entry_eq_ok (accepted : Accepted (l.fieldsOf call.extra)) :
    ∃ written, (see log l call).entry = .ok written := by
  simp only [see, Log.entry, accepted.find?_eq_none]
  split
  · exact ⟨_, rfl⟩
  · split
    · exact ⟨_, rfl⟩
    · exact ⟨_, rfl⟩

/-- A call that is heard, whose fields are accepted and have JSON texts and whose message can be
filled in writes an entry. -/
theorem Accepted.entry_eq_some {message : String} (accepted : Accepted (l.fieldsOf call.extra))
    (nodup : (Keyed.keys (l.fieldsOf call.extra)).Nodup)
    (texts : LogEntry.HaveTexts (l.fieldsOf call.extra))
    (heard : log.hearing l.name ≤ call.level.rank) (writes : log.writes call.level = true)
    (shown : LogEntry.hidingField ∉ Keyed.keys (l.fieldsOf call.extra))
    (filled : Interpolation.interpolate call.message call.values = some message) :
    (see log l call).entry =
      .ok (some ⟨l.name, call.level, message, l.fieldsOf call.extra, call.error⟩) := by
  have hidden : Keyed.has (· == LogEntry.hidingField) (l.fieldsOf call.extra) = false := by
    rw [Keyed.has, Option.isSome_eq_false_iff, Option.isNone_iff_eq_none]
    exact Fields.get?_eq_none (List.Sublist.refl _) shown
  have writable : LogEntry.isWritable
      ⟨l.name, call.level, message, l.fieldsOf call.extra, call.error⟩ = true :=
    (LogEntry.isWritable_iff nodup).2 texts
  simp only [see, Log.entry]
  rw [if_neg (Nat.not_lt.2 heard), accepted.find?_eq_none, writes, hidden, filled, Option.map_some,
    Option.filter_some, if_pos writable]
  rfl

/-- What is written has the fields of the call and can be written. -/
theorem of_entry_eq_some {e : LogEntry} (written : (see log l call).entry = .ok (some e)) :
    e.logger = l.name ∧ e.level = call.level ∧ e.fields = l.fieldsOf call.extra ∧
      e.isWritable = true := by
  simp only [see, Log.entry] at written
  split at written
  · cases written
  · split at written
    · cases written
    · split at written
      · rw [Except.ok.injEq, Option.filter_eq_some_iff] at written
        obtain ⟨filled, writable⟩ := written
        obtain ⟨message, -, rfl⟩ := Option.map_eq_some_iff.1 filled
        exact ⟨rfl, rfl, rfl, writable⟩
      · cases written

end

/-! ## The contexts of a whole program -/

/-- What a call sees and what it writes. -/
structure Sees (log : Log) (t : Told) (seen : Seen) : Prop where
  /-- A field has the value of the last layer that has it: the call comes behind the blocks, and an
  inner block behind an outer one. -/
  merged : ∀ name, seen.fields.get? name = t.layers.reverse.findSome? (·.get? name)
  /-- No field is there twice. -/
  once : (Keyed.keys seen.fields).Nodup
  /-- Nothing but names that are taken stops a call. -/
  accepted : Accepted seen.fields → ∃ written, seen.entry = .ok written
  /-- The fields stand in the line of the entry, and it is written only if they have texts. -/
  written : ∀ e, seen.entry = .ok (some e) → e.logger = t.scope.made.name ∧ e.level = t.call.level ∧
    LogEntry.HaveTexts seen.fields ∧
    ∀ time trace source, LogEntry.Places seen.fields (e.line time trace source)
  /-- A call that is heard writes an entry, if its fields have texts, its message can be filled in
  and no field hides it. -/
  heard : ∀ message, log.hearing t.scope.made.name ≤ t.call.level.rank →
    log.writes t.call.level = true → Accepted seen.fields → LogEntry.HaveTexts seen.fields →
    LogEntry.hidingField ∉ Keyed.keys seen.fields →
    Interpolation.interpolate t.call.message t.call.values = some message →
    ∃ e, seen.entry = .ok (some e) ∧ e.message = message

theorem sees_seen (log : Log) {t : Told} (sound : Sound t.layers) : Sees log t (t.seen log) := by
  have layers : Sound t.scope.layers := (List.forall_mem_append.1 sound).1
  have rest : Sound (t.scope.blocks ++ [t.call.extra]) := (List.forall_mem_cons.1 sound).2
  have nodup : (Keyed.keys (t.seen log).fields).Nodup := nodup_merge (sound_layers layers) _
  have fields : (t.seen log).fields =
      (t.scope.blocks ++ [t.call.extra]).foldl Fields.merge t.scope.made.context := by
    rw [List.foldl_append, ← t.scope.context_now]
    rfl
  refine ⟨fun name => ?_, nodup, fun accepted => accepted.entry_eq_ok, fun e written => ?_, ?_⟩
  · rw [fields, get?_foldl_merge _ name rest]
    rfl
  · obtain ⟨logger, level, same, writable⟩ := of_entry_eq_some written
    rw [LogEntry.isWritable_iff (same ▸ nodup), same] at writable
    refine ⟨logger.trans t.scope.name_now, level, writable, fun time trace source => ?_⟩
    have places := LogEntry.places_line (e := e) (same ▸ nodup) time trace source
    rw [same] at places
    exact places
  · intro message heard writes accepted texts shown filled
    rw [← t.scope.name_now] at heard
    exact ⟨_, accepted.entry_eq_some nodup texts heard writes shown filled, rfl⟩

theorem represents_start (l : Logger) : (Bench.start l).pool.Represents [{ made := l }] := by
  have nothing : LoggerPool.Represents {} [] := ⟨rfl, fun _ => rfl, List.nodup_nil⟩
  exact nothing.add l

/-- **Calls see the context of their logger, then the blocks around them, then their own fields.**
After the program the logger has the context that it had before, and loggers that were derived have
the context that they were made with. -/
theorem run_sees (log : Log) (l : Logger) (p : LogProgram) (nodup : (Keyed.keys l.context).Nodup)
    (nested : p.WellNested []) :
    let m := p.meaning log [{ made := l }]
    let r := p.run log (.start l)
    r.1 = m.outcome ∧ List.Forall₂ (Sees log) m.told r.2.seen ∧ r.2.pool.logger? 0 = some l ∧
      ∀ j, r.2.pool.logger? (j + 1) = m.made[j]? := by
  intro m r
  have follows : Follows log [] [{ made := l }] (.start l) m r :=
    run_follows log p nested (represents_start l)
  have sound : ∀ s ∈ [{ made := l : Scope }], Sound s.layers :=
    List.forall_mem_singleton.2 (List.forall_mem_singleton.2 nodup)
  refine ⟨follows.outcome, ?_, follows.represents.now 0, fun j => ?_⟩
  · have seen : r.2.seen = m.told.map (·.seen log) := follows.seen
    rw [seen, List.forall₂_map_right_iff, List.forall₂_same]
    exact fun t told => sees_seen log ((sound_meaning log p nested sound).1 t told)
  · rw [follows.represents.now, List.singleton_append, List.getElem?_cons_succ, List.getElem?_map,
      Option.map_map]
    exact Option.map_id'

/-- A logger for one phase. -/
def phaseLogger : Logger where
  name := "modcheck.t"
  context := [("phase", .str "load")]

/-- A block in a block that fails when a logger has been derived inside, then a call through the
outer logger and one through the derived logger. -/
def interruptedBlocks : LogProgram :=
  .seq
    (.attempt (.block 0 0 [("phase", .str "parse"), ("run", .int 1)]
      (.block 1 0 [("phase", .str "check"), ("file_path", .str "A.java")]
        (.seq (.derive 0 [("language", .str "java")])
          (.seq (.log 0 { level := .info, message := "inside", extra := [("run", .int 2)] })
            .raise)))))
    (.seq (.log 0 { level := .info, message := "after" })
      (.log 1 { level := .info, message := "derived" }))

theorem run_sees_interruptedBlocks :
    (Keyed.keys phaseLogger.context).Nodup ∧ interruptedBlocks.WellNested [] ∧
      (let m := interruptedBlocks.meaning ⟨some 20⟩ [{ made := phaseLogger }]
       let r := interruptedBlocks.run ⟨some 20⟩ (.start phaseLogger)
       r.1 = m.outcome ∧ List.Forall₂ (Sees ⟨some 20⟩) m.told r.2.seen ∧
        r.2.pool.logger? 0 = some phaseLogger ∧ ∀ j, r.2.pool.logger? (j + 1) = m.made[j]?) := by
  have nodup : (Keyed.keys phaseLogger.context).Nodup := by decide
  have nested : interruptedBlocks.WellNested [] := by
    simp [interruptedBlocks, WellNested, Keyed.keys]
  exact ⟨nodup, nested, run_sees ⟨some 20⟩ phaseLogger interruptedBlocks nodup nested⟩

/-- A call with a silent field. -/
def silentCall : LogCall where
  level := .info
  message := "m"
  extra := [("taskName", .str "v")]

/-- The call sees the silent field and its name is accepted, but the line of the entry that is
written does not have it. -/
theorem silentCall_shows :
    let p := LogProgram.log 0 silentCall
    let r := p.run ⟨some 20⟩ (.start ⟨"modcheck.t", []⟩)
    p.WellNested [] ∧ r.1 = .ok () ∧ ∃ seen e, r.2.seen = [seen] ∧ Accepted seen.fields ∧
      seen.fields.get? "taskName" = some (.str "v") ∧ seen.entry = .ok (some e) ∧
        ∀ time trace source, Keyed.keys (e.line time trace source) =
          ["timestamp", "level", "logger", "message", "source"] := by
  have accepted : Accepted [("taskName", .str "v")] := by
    unfold Accepted
    decide
  have texts : LogEntry.HaveTexts [("taskName", .str "v")] :=
    List.forall_mem_singleton.2 fun _ => rfl
  have heard : Log.hearing ⟨some 20⟩ "modcheck.t" ≤ silentCall.level.rank := by decide +kernel
  have written : (see ⟨some 20⟩ ⟨"modcheck.t", []⟩ silentCall).entry =
      .ok (some ⟨"modcheck.t", .info, "m", [("taskName", .str "v")], none⟩) :=
    Accepted.entry_eq_some accepted (List.nodup_singleton _) texts heard rfl (by decide) rfl
  exact ⟨List.nodup_singleton _, congrArg outcomeOf written, _, _, rfl, accepted, rfl, written,
    fun _ _ _ => rfl⟩

end LogProgram

end ModifierLint
