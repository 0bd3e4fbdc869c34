/-
# Analysis configurations

An analysis configuration says for each check whether it runs, how severe its findings are, which
kinds of nodes it sees and which options it is given.  Every part has a default, and a check that is
not mentioned is configured by the defaults alone.
-/
import ModifierLint.Schema.Read
import ModifierLint.Config.Error

namespace ModifierLint

/-- The configuration of one check. -/
structure CheckConfig where
  enabled : Bool := true
  severity : Severity := .error
  tokens : Option (List String) := none
  options : List (String × Value) := []
  deriving Inhabited

/-- Configurations by check name. -/
structure AnalysisConfig where
  checks : List (String × CheckConfig) := []
  deriving Inhabited

/-- A severity by its name. -/
def Schema.severity (v : Value) : Checked Severity :=
  let named? : Option Severity :=
    match text? v with
    | some (.ok s) => Severity.ofName? s
    | _ => none
  match named? with
  | some severity => pure severity
  | none => Checked.complain (.notOneOf (Severity.all.map (·.name)))

namespace CheckConfig

/-- The fields of a check's configuration. -/
def fields : List String := ["enabled", "severity", "tokens", "options"]

/-- Decodes the configuration of a check. -/
def read : Value → Schema.Checked CheckConfig :=
  Schema.record "CheckConfig" fun entries =>
    (fun enabled severity tokens options _ => { enabled, severity, tokens, options })
      <$> Schema.optional entries "enabled" true Schema.bool
      <*> Schema.optional entries "severity" .error Schema.severity
      <*> Schema.optional entries "tokens" none (Schema.nullable (Schema.list Schema.string))
      <*> Schema.optional entries "options" [] (Schema.dict pure)
      <*> Schema.noExtras fields entries

/-- The configuration of a check as a document. -/
def toValue (c : CheckConfig) : Value :=
  .record
    [("enabled", .bool c.enabled),
     ("severity", .str c.severity.name),
     ("tokens", c.tokens.elim .null .texts),
     ("options", .record c.options)]

end CheckConfig

namespace AnalysisConfig

/-- Decodes an analysis configuration. -/
def read : Value → Schema.Checked AnalysisConfig :=
  Schema.record "AnalysisConfig" fun entries =>
    (fun checks _ => { checks })
      <$> Schema.optional entries "checks" [] (Schema.dict CheckConfig.read)
      <*> Schema.noExtras ["checks"] entries

/-- Where a configuration comes from if nothing else is known. -/
def unnamedSource : String := "<config>"

/-- The configuration that a document describes; an empty document describes the defaults. -/
def parse (document : Value) (source : String) : Except ConfigError AnalysisConfig :=
  let document := if document.isTruthy then document else .map []
  match read document with
  | .valid config => .ok config
  | .invalid issues => .error (.invalidConfig source issues)

/-- The configuration of a check. -/
def forCheck (config : AnalysisConfig) (name : String) : CheckConfig :=
  (Keyed.find? (· == name) config.checks).getD {}

/-- Whether the configuration mentions the check. -/
def mentions (config : AnalysisConfig) (name : String) : Bool :=
  Keyed.has (· == name) config.checks

/-- An analysis configuration as a document. -/
def toValue (config : AnalysisConfig) : Value :=
  .record [("checks", .record (config.checks.map fun (name, c) => (name, c.toValue)))]

end AnalysisConfig

end ModifierLint
