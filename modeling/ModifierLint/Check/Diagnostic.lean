/-
# Diagnostics

A diagnostic is one violation: where it is, which message describes it, which check found it and
how severe it is.  Diagnostics are shown by file path (by code points), line and column.
-/

namespace ModifierLint

/-- How severe a violation is. -/
inductive Severity
  | info
  | warning
  | error
  deriving Repr, DecidableEq, Inhabited

namespace Severity

/-- The name of a severity. -/
def name : Severity → String
  | info => "info"
  | warning => "warning"
  | error => "error"

/-- All severities, the mildest first. -/
def all : List Severity := [info, warning, error]

/-- The severity of a name. -/
def ofName? (s : String) : Option Severity :=
  all.find? (·.name == s)

theorem ofName?_name (s : Severity) : ofName? s.name = some s := by
  cases s <;> decide

end Severity

/-- A violation reported by a check. -/
structure Diagnostic where
  filePath : String
  line : Int
  column : Int
  messageKey : String
  args : List String := []
  checkName : String
  severity : Severity := .error
  deriving Repr, DecidableEq, Inhabited

/-- The order by file path, line and column. -/
def Diagnostic.le (a b : Diagnostic) : Bool :=
  if a.filePath = b.filePath then
    if a.line = b.line then a.column ≤ b.column else a.line < b.line
  else a.filePath < b.filePath

end ModifierLint
