/-
# Configuration errors

Whatever is wrong with the settings, a configuration file, the checks that it names or the options
that it gives them is one kind of error with one text.
-/
import ModifierLint.Schema.Checked
import ModifierLint.Check.Basic

namespace ModifierLint

/-- A configuration that cannot be used. -/
inductive ConfigError
  | invalidSettings (issues : List Schema.Issue)
  | invalidConfig (source : String) (issues : List Schema.Issue)
  | invalidOptions (check : String) (issues : List Schema.Issue)
  | noOptions (check : String)
  | tokens (e : TokenError)
  | unknownChecks (unknown available : List String)
  | fileNotFound (path : String)
  | fileMalformed (path : String)
  | fileNotMapping (path : String)
  | pluginNotFound (path : String)
  | pluginMalformed (path : String)
  | pluginNotMapping (path : String)
  | pluginIncomplete (field path : String)
  deriving Repr, DecidableEq

namespace ConfigError

/-- The text of the error. -/
def message : ConfigError → String
  | invalidSettings _ => "Invalid settings"
  | invalidConfig source _ => "Invalid analysis configuration in " ++ source
  | invalidOptions check _ => "Invalid options for check '" ++ check ++ "'"
  | noOptions check => "Check '" ++ check ++ "' does not accept options"
  | tokens e => e.message
  | unknownChecks unknown available =>
    "Unknown checks in configuration: " ++ Text.Quoted.list unknown ++ ". Available checks: " ++
      Text.Quoted.list available
  | fileNotFound path => "Configuration file not found: " ++ path
  | fileMalformed path => "Failed to parse configuration " ++ path
  | fileNotMapping path => "Configuration " ++ path ++ " must be a mapping"
  | pluginNotFound path => "Plugin configuration not found: " ++ path
  | pluginMalformed path => "Failed to parse plugin configuration " ++ path
  | pluginNotMapping path => "Plugin configuration " ++ path ++ " must be a mapping"
  | pluginIncomplete field path => "Missing required field '" ++ field ++ "' in " ++ path

/-- The complaints behind the error. -/
def issues : ConfigError → List Schema.Issue
  | invalidSettings issues | invalidConfig _ issues | invalidOptions _ issues => issues
  | _ => []

end ConfigError

end ModifierLint
