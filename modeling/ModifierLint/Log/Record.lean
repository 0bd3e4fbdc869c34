/-
# Log records

A record is what a step of the program has to say: a level, a message and named fields.  Steps that
write records are computations over the records written so far; an attempt that fails keeps what
was written before.
-/
import ModifierLint.Value

namespace ModifierLint

/-- How urgent a record is. -/
inductive Level
  | debug
  | info
  | warning
  | error
  | critical
  deriving Repr, DecidableEq, Inhabited

namespace Level

/-- The name of a level. -/
def name : Level → String
  | debug => "DEBUG"
  | info => "INFO"
  | warning => "WARNING"
  | error => "ERROR"
  | critical => "CRITICAL"

/-- Levels are ordered by rank. -/
def rank : Level → Nat
  | debug => 10
  | info => 20
  | warning => 30
  | error => 40
  | critical => 50

end Level

/-- A message to the log. -/
structure Record where
  level : Level
  message : String
  fields : List (String × Value) := []
  deriving Inhabited

/-- Computations that write records. -/
abbrev Logged := StateM (Array Record)

/-- Computations that write records and may fail. -/
abbrev Attempt (ε : Type) := ExceptT ε Logged

namespace Logged

/-- Writes a record. -/
def write (r : Record) : Logged Unit :=
  modify (·.push r)

/-- Writes a message without fields. -/
def say (level : Level) (message : String) : Logged Unit :=
  write { level, message }

/-- The result and the records. -/
def collect {α : Type} (step : Logged α) : α × List Record :=
  let (a, records) := step.run #[]
  (a, records.toList)

end Logged

end ModifierLint
