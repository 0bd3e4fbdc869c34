/-
# What a step answers

Steps write records, attempts may fail, and steps of a session also change it.  What has been
written before never matters to any of this.  `Logged.Answers step a` says so of one step and its
answer: whatever the log holds, the answer is `a`.  `Attempt.Answers` and `Session.Answers` are the
same for attempts and for steps of a session.

There is one rule for each way of putting steps together, so that the answer of a step is found by
following its text.

A step of which less is known may come to something else if the log holds something else.
`Session.Ends` says that a property holds of whatever a step comes to.
-/
import ModifierLint.Analyzer.Basic

namespace ModifierLint

/-- Whatever has been written before, the step answers `a`. -/
def Logged.Answers {α : Type} (step : Logged α) (a : α) : Prop :=
  ∀ records, (step.run records).1 = a

/-- Whatever has been written before, the attempt comes to `r`. -/
def Attempt.Answers {ε α : Type} (step : Attempt ε α) (r : Except ε α) : Prop :=
  Logged.Answers step.run r

/-- Whatever has been written before, the step comes to `r` and turns the session `s` into `s'`. -/
def Session.Answers {ε α : Type} (step : SessionM ε α) (s : Session) (r : Except ε α)
    (s' : Session) : Prop :=
  Logged.Answers (step.run.run s) (r, s')

namespace Logged.Answers

variable {α β : Type} {step : Logged α} {a b : α}

/-- A step has one answer. -/
theorem unique (h : step.Answers a) (h' : step.Answers b) : a = b := by
  rw [← h #[], h' #[]]

/-- The records of a step do not bear on its result. -/
theorem collect_eq (h : step.Answers a) : (Logged.collect step).1 = a :=
  h #[]

theorem pure (a : α) : Answers (Pure.pure a) a :=
  fun _ => rfl

theorem bind {next : α → Logged β} {b : β} (first : step.Answers a) (then_ : (next a).Answers b) :
    Answers (step >>= next) b := by
  intro records
  show ((next (step.run records).1).run (step.run records).2).1 = b
  rw [first records]
  exact then_ _

theorem write (r : Record) : (Logged.write r).Answers () :=
  fun _ => rfl

theorem say (level : Level) (message : String) : (Logged.say level message).Answers () :=
  fun _ => rfl

end Logged.Answers

namespace Attempt.Answers

variable {ε δ α β : Type} {step : Attempt ε α} {a : α} {e : ε}

theorem pure (a : α) : Answers (Pure.pure a : Attempt ε α) (.ok a) :=
  fun _ => rfl

theorem throw (e : ε) : Answers (throw e : Attempt ε α) (.error e) :=
  fun _ => rfl

theorem lift {step : Logged α} (h : step.Answers a) :
    Answers (liftM step : Attempt ε α) (.ok a) := by
  intro records
  show Except.ok (step.run records).1 = Except.ok a
  rw [h records]

theorem say (level : Level) (message : String) :
    Answers (liftM (Logged.say level message) : Attempt ε Unit) (.ok ()) :=
  lift (Logged.Answers.say level message)

theorem bind {next : α → Attempt ε β} {r : Except ε β} (first : Answers step (.ok a))
    (then_ : Answers (next a) r) : Answers (step >>= next) r := by
  rw [Answers, ExceptT.run_bind]
  exact Logged.Answers.bind first then_

theorem bind_error {next : α → Attempt ε β} (first : Answers step (.error e)) :
    Answers (step >>= next) (.error e) := by
  rw [Answers, ExceptT.run_bind]
  exact Logged.Answers.bind first (Logged.Answers.pure _)

theorem adapt {f : ε → δ} {r : Except ε α} (h : Answers step r) :
    Answers (step.adapt f) (r.mapError f) := by
  intro records
  show ((step.run.run records).1).mapError f = r.mapError f
  rw [h records]

/-- Saying something of each element of a list. -/
theorem each (l : List α) {say : α → Logged Unit} (said : ∀ x, (say x).Answers ()) :
    Answers (forIn l PUnit.unit fun x _ => do
      liftM (say x)
      Pure.pure (ForInStep.yield PUnit.unit) : Attempt ε PUnit) (.ok PUnit.unit) := by
  induction l with
  | nil => exact pure PUnit.unit
  | cons x rest ih =>
      rw [List.forIn_cons, bind_assoc]
      refine bind (lift (said x)) ?_
      rw [pure_bind]
      exact ih

end Attempt.Answers

namespace Session.Answers

variable {ε δ α β : Type} {step : SessionM ε α} {s s' s'' : Session} {a : α} {e : ε}

theorem pure (a : α) : Answers (Pure.pure a : SessionM ε α) s (.ok a) s :=
  fun _ => rfl

theorem throw (e : ε) : Answers (throw e : SessionM ε α) s (.error e) s :=
  fun _ => rfl

theorem get : Answers (getThe Session : SessionM ε Session) s (.ok s) s :=
  fun _ => rfl

theorem modify (f : Session → Session) :
    Answers (modifyThe Session f : SessionM ε PUnit) s (.ok ()) (f s) :=
  fun _ => rfl

theorem bind {next : α → SessionM ε β} {r : Except ε β} (first : Answers step s (.ok a) s')
    (then_ : Answers (next a) s' r s'') : Answers (step >>= next) s r s'' := by
  rw [Answers, ExceptT.run_bind, StateT.run_bind]
  exact Logged.Answers.bind first then_

theorem bind_error {next : α → SessionM ε β} (first : Answers step s (.error e) s') :
    Answers (step >>= next) s (.error e) s' := by
  rw [Answers, ExceptT.run_bind, StateT.run_bind]
  exact Logged.Answers.bind first (Logged.Answers.pure _)

theorem map {f : α → β} (h : Answers step s (.ok a) s') :
    Answers (f <$> step) s (.ok (f a)) s' := by
  rw [map_eq_pure_bind]
  exact bind h (pure _)

theorem log {step : Logged α} (h : step.Answers a) :
    Answers (Session.log step : SessionM ε α) s (.ok a) s := by
  intro records
  show (Except.ok (step.run records).1, s) = (Except.ok a, s)
  rw [h records]

/-- A step may be run to its end, failure included. -/
theorem run {r : Except ε α} (h : Answers step s r s') :
    Answers (ExceptT.lift step.run : SessionM δ (Except ε α)) s (.ok r) s' := by
  rw [Answers, ExceptT.run_lift, StateT.run_map]
  intro records
  show ((fun p : Except ε α × Session => (Except.ok p.1, p.2)) ((step.run.run s).run records).1) = _
  rw [h records]

theorem adapt {f : ε → δ} {r : Except ε α} (h : Answers step s r s') :
    Answers (step.adapt f) s (r.mapError f) s' := by
  rw [Answers, ExceptT.run_adapt, StateT.run_map]
  intro records
  show ((fun p : Except ε α × Session => (p.1.mapError f, p.2))
    ((step.run.run s).run records).1) = _
  rw [h records]

theorem attempt {f : δ → ε} {step : Attempt δ α} {r : Except δ α}
    (h : Attempt.Answers step r) :
    Answers (Session.attempt f step) s (r.mapError f) s := by
  cases r with
  | ok a => exact bind (log h) (pure a)
  | error e => exact bind (log h) (throw (f e))

end Session.Answers

/-- Whatever has been written before, the property holds of what the step comes to and of the
session that it leaves. -/
def Session.Ends {ε α : Type} (step : SessionM ε α) (s : Session)
    (holds : Except ε α → Session → Prop) : Prop :=
  ∀ records, holds ((step.run.run s).run records).1.1 ((step.run.run s).run records).1.2

namespace Session.Ends

variable {ε δ α β : Type} {step : SessionM ε α} {s s' : Session}

theorem of_answers {holds : Except ε α → Session → Prop} {r : Except ε α}
    (h : Answers step s r s') (here : holds r s') : Ends step s holds := by
  intro records
  rw [h records]
  exact here

theorem bind {next : α → SessionM ε β} {between : Except ε α → Session → Prop}
    {holds : Except ε β → Session → Prop} (first : Ends step s between)
    (then_ : ∀ a s', between (.ok a) s' → Ends (next a) s' holds)
    (failed : ∀ e s', between (.error e) s' → holds (.error e) s') :
    Ends (step >>= next) s holds := by
  intro records
  have here := first records
  rw [ExceptT.run_bind, StateT.run_bind, StateT.run_bind]
  generalize (step.run.run s).run records = outcome at here ⊢
  obtain ⟨⟨r, s'⟩, records'⟩ := outcome
  cases r with
  | error e => exact failed e s' here
  | ok a => exact then_ a s' here records'

theorem bind_answers {next : α → SessionM ε β} {holds : Except ε β → Session → Prop} {a : α}
    (first : Answers step s (.ok a) s') (then_ : Ends (next a) s' holds) :
    Ends (step >>= next) s holds := by
  have there : Ends step s fun r t => r = .ok a ∧ t = s' := of_answers first ⟨rfl, rfl⟩
  refine bind there ?_ ?_
  · rintro _ _ ⟨⟨⟩, rfl⟩
    exact then_
  · rintro _ _ ⟨⟨⟩, -⟩

theorem adapt {f : ε → δ} {holds : Except δ α → Session → Prop}
    (h : Ends step s fun r s' => holds (r.mapError f) s') : Ends (step.adapt f) s holds := by
  intro records
  rw [ExceptT.run_adapt, StateT.run_map, StateT.run_map]
  exact h records

/-- An attempt leaves the session alone, and what it answers it can come to. -/
theorem attempt (f : δ → ε) (step : Attempt δ α) :
    Ends (Session.attempt f step) s fun r s' =>
      s' = s ∧ ∀ a, r = .ok a → ∃ records, (step.run.run records).1 = .ok a := by
  intro records
  generalize outcome : step.run.run records = answer
  obtain ⟨r, records'⟩ := answer
  have logged : ((Session.log step.run : SessionM ε (Except δ α)).run.run s).run records =
      ((.ok r, s), records') := by
    show ((Except.ok (step.run.run records).1, s), (step.run.run records).2) = _
    rw [outcome]
  have settled : ((Session.attempt f step).run.run s).run records =
      ((r.mapError f, s), records') := by
    rw [Session.attempt, ExceptT.run_bind, StateT.run_bind, StateT.run_bind, logged]
    cases r with
    | ok a => rfl
    | error e => rfl
  rw [settled]
  refine ⟨rfl, fun a answered => ⟨records, ?_⟩⟩
  rw [outcome]
  cases r with
  | ok a' =>
      cases answered
      rfl
  | error e => cases answered

end Session.Ends

end ModifierLint
