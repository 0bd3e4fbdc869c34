/-
# Loggers that refer to their contexts

A logger refers to its context, and blocks change contexts where they are.  A block over a logger
puts a copy of the context aside and writes its fields into the context itself; when the block is
left, the copy takes the place of the context.  A logger that is derived from another refers to a
context of its own.

A `LoggerPool` holds all contexts that there ever were, by their numbers, and for each logger the
number of its context.
-/
import ModifierLint.Log.Logger

namespace ModifierLint

/-- Loggers with the contexts that they refer to. -/
structure LoggerPool where
  /-- All contexts that there ever were. -/
  contexts : List Fields := []
  /-- The name of each logger and the number of its context. -/
  loggers : List (String × Nat) := []
  /-- The number of the context that a block has put aside. -/
  saved : List (Nat × Nat) := []
  deriving Inhabited

namespace LoggerPool

/-- The logger as it is now. -/
def logger? (pool : LoggerPool) (i : Nat) : Option Logger :=
  pool.loggers[i]?.bind fun (name, number) =>
    pool.contexts[number]?.map fun context => { name, context }

/-- Adds a logger, with a context of its own. -/
def add (pool : LoggerPool) (l : Logger) : LoggerPool :=
  { pool with
    contexts := pool.contexts ++ [l.context]
    loggers := pool.loggers ++ [(l.name, pool.contexts.length)] }

/-- Enters a block over a logger: a copy of the context is put aside, and the fields of the block
are written into the context. -/
def enter (pool : LoggerPool) (block i : Nat) (fields : Fields) : Except LogFault LoggerPool := do
  match pool.loggers[i]?, pool.logger? i with
  | some (_, number), some l =>
    let inside ← l.enter fields
    return { pool with
      contexts := pool.contexts.set number inside.context ++ [l.context]
      saved := Keyed.put (· == ·) block pool.contexts.length pool.saved }
  | _, _ => return pool

/-- Leaves a block over a logger: the copy takes the place of the context. -/
def leave (pool : LoggerPool) (block i : Nat) : LoggerPool :=
  match pool.loggers[i]?, Keyed.find? (· == block) pool.saved with
  | some (name, _), some number => { pool with loggers := pool.loggers.set i (name, number) }
  | _, _ => pool

end LoggerPool

end ModifierLint
