/-
# The collector

The collector keeps every diagnostic in the order of its report.  `Collector.diagnostics` shows
them by position; diagnostics at one position stay in the order of their reports.  The two
renderings, lines of text and a JSON document, have one entry per diagnostic in that order.  They
fail if a message cannot be formatted, or if a position has more digits than texts may have of it.
-/
import ModifierLint.Check.Diagnostic
import ModifierLint.Message.Bundle
import ModifierLint.Json

namespace ModifierLint

/-- The diagnostics reported so far, and the templates to render them with. -/
structure Collector where
  bundle : Bundle := {}
  reported : Array Diagnostic := #[]
  deriving Inhabited

namespace Collector

/-- Adds a diagnostic. -/
def report (c : Collector) (d : Diagnostic) : Collector :=
  { c with reported := c.reported.push d }

/-- Adds diagnostics in order. -/
def reportAll (c : Collector) (ds : List Diagnostic) : Collector :=
  { c with reported := c.reported ++ ds.toArray }

@[simp] theorem reportAll_nil (c : Collector) : c.reportAll [] = c := by
  simp [reportAll]

@[simp] theorem reportAll_append (c : Collector) (ds es : List Diagnostic) :
    c.reportAll (ds ++ es) = (c.reportAll ds).reportAll es := by
  simp [reportAll, Array.append_assoc]

@[simp] theorem reported_reportAll (c : Collector) (ds : List Diagnostic) :
    (c.reportAll ds).reported.toList = c.reported.toList ++ ds := by
  simp [reportAll]

/-- The number of reports. -/
def size (c : Collector) : Nat :=
  c.reported.size

/-- The diagnostics by position. -/
def diagnostics (c : Collector) : List Diagnostic :=
  c.reported.toList.mergeSort Diagnostic.le

/-- How many diagnostics have the severity. -/
def count (c : Collector) (s : Severity) : Nat :=
  c.diagnostics.countP (·.severity = s)

/-- The number of diagnostics by severity. -/
def counts (c : Collector) : List (Severity × Nat) :=
  Severity.all.map fun s => (s, c.count s)

/-- The message of a diagnostic. -/
def message (c : Collector) (d : Diagnostic) : Attempt Template.Fault String :=
  c.bundle.format d.messageKey d.args

/-- Why diagnostics cannot be rendered. -/
inductive Fault
  /-- A message cannot be formatted. -/
  | message (f : Template.Fault)
  /-- A line or a column has too many digits. -/
  | digits
  deriving Repr, DecidableEq

/-- The text of the fault. -/
def Fault.text : Fault → String
  | message f => f.message
  | digits => Text.tooManyDigits

/-- One line per diagnostic: place, severity, message and check. -/
def line (d : Diagnostic) (message : String) : String :=
  d.filePath ++ ":" ++ Text.ofInt d.line ++ ":" ++ Text.ofInt d.column ++ ": [" ++
    d.severity.name ++ "] " ++ message ++ " [" ++ d.checkName ++ "]"

end Collector

/-- Whether the place of a diagnostic can be written. -/
def Diagnostic.isWritable (d : Diagnostic) : Bool :=
  Text.isWritable d.line && Text.isWritable d.column

/-- The line of a diagnostic; its place is written before the message that stands behind it. -/
def Collector.written (c : Collector) (d : Diagnostic) : Attempt Collector.Fault String :=
  if d.isWritable then do return line d (← (c.message d).adapt .message)
  else throw .digits

/-- The diagnostics as lines of text. -/
def Collector.plain (c : Collector) : Attempt Collector.Fault (List String) :=
  c.diagnostics.mapM c.written

/-- The fields of a diagnostic. -/
def Diagnostic.fields (d : Diagnostic) : List (String × Value) :=
  [("file_path", .str d.filePath),
   ("line", .int d.line),
   ("column", .int d.column),
   ("message_key", .str d.messageKey),
   ("args", .texts d.args),
   ("check_name", .str d.checkName),
   ("severity", .str d.severity.name)]

namespace Collector

/-- The diagnostics with their messages as values. -/
def records (c : Collector) : Attempt Template.Fault (List Value) :=
  c.diagnostics.mapM fun d => do
    let message ← c.message d
    return .record (d.fields ++ [("message", .str message)])

/-- The diagnostics as a JSON document; it is written when all messages are formatted. -/
def json (c : Collector) : Attempt Fault String := do
  let records ← c.records.adapt .message
  match Json.write (.block 2) (.list records) with
  | .ok text => return text
  -- the names of the fields are texts
  | .error _ => throw .digits

end Collector

end ModifierLint
