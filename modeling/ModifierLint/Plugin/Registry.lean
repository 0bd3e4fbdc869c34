/-
# The registry

The registry knows the plugin of every language and the language of every file extension.  A
language that is registered again keeps its place; an extension belongs to the language that claimed
it last.

Registering stores the plugin first, then claims its extensions one by one, and says in the end what
they are.  If one of them cannot be claimed, or if the last remark cannot be written, what was done
before stays done.
-/
import ModifierLint.Plugin.Basic
import ModifierLint.Message.Bundle
import ModifierLint.Files.Path

namespace ModifierLint

/-- The plugins by language and the languages by extension. -/
structure Registry where
  plugins : List (String × Plugin) := []
  extensions : List (Value × String) := []

/-- Why a plugin cannot be registered. -/
inductive RegistrationFault
  /-- The extensions are no sequence, or one of them cannot be a key. -/
  | shape
  /-- What is to be said about the extensions has a number with too many digits. -/
  | digits
  deriving Repr, DecidableEq

namespace Registry

/-- The plugin of a language. -/
def plugin? (r : Registry) (language : String) : Option Plugin :=
  Keyed.find? (· == language) r.plugins

/-- The language of an extension. -/
def language? (r : Registry) (extension : Value) : Option String :=
  Value.lookup? r.extensions extension

/-- The registered languages. -/
def languages (r : Registry) : List String :=
  Keyed.keys r.plugins

/-- The extensions that some language claims. -/
def supported (r : Registry) : List Value :=
  Keyed.keys r.extensions

/-- Claims an extension for a language. -/
def claim (r : Registry) (language : String) (extension : Value) : Logged Registry := do
  match r.language? extension with
  | some owner =>
    Logged.say .warning ("Extension '" ++ extension.text ++ "' already mapped to '" ++ owner ++
      "', overwriting with '" ++ language ++ "'")
  | none => pure ()
  return { r with extensions := Value.insert extension language r.extensions }

/-- Why an extension cannot be claimed: an extension that some language has already must have a text
for the warning. -/
def refusal? (r : Registry) (extension : Value) : Option RegistrationFault :=
  if !extension.isHashable then some .shape
  else if (r.language? extension).isSome && !extension.isWritable then some .digits
  else none

/-- Claims extensions in order, up to the first that cannot be claimed; the answer says why it
cannot. -/
def claimAll (r : Registry) (language : String) :
    List Value → Logged (Registry × Option RegistrationFault)
  | [] => return (r, none)
  | extension :: rest =>
    match r.refusal? extension with
    | some fault => return (r, some fault)
    | none => do claimAll (← r.claim language extension) language rest

/-- Says which extensions a plugin was registered with, or why that cannot be said. -/
def announce (p : Plugin) : Logged (Option RegistrationFault) := do
  if !p.extensions.isWritable then return some .digits
  Logged.say .info ("Registered plugin for language '" ++ p.language ++ "' with extensions: " ++
    p.extensions.text)
  return none

/-- Claims the extensions of a plugin and announces them. -/
def claimDeclared (r : Registry) (p : Plugin) : Logged (Registry × Option RegistrationFault) := do
  match p.extensions.elements? with
  | none => return (r, some .shape)
  | some extensions =>
    match ← r.claimAll p.language extensions with
    | (r, some fault) => return (r, some fault)
    | (r, none) => return (r, ← announce p)

/-- Registers a plugin; the answer says why it could not be registered, if it could not. -/
def register (r : Registry) (p : Plugin) : Logged (Registry × Option RegistrationFault) := do
  if (r.plugin? p.language).isSome then
    Logged.say .warning
      ("Plugin for language '" ++ p.language ++ "' already registered, overwriting")
  claimDeclared { r with plugins := Keyed.put (· == ·) p.language p r.plugins } p

/-- Gives up an extension if it belongs to the language. -/
def release (r : Registry) (language : String) (extension : Value) : Registry :=
  if r.language? extension = some language then
    { r with extensions := Value.erase extension r.extensions }
  else r

/-- Gives up extensions in order, up to the first value that cannot be one. -/
def releaseAll (r : Registry) (language : String) : List Value → Registry × Bool
  | [] => (r, true)
  | extension :: rest =>
    if extension.isHashable then releaseAll (r.release language extension) language rest
    else (r, false)

/-- The outcome of removing a language. -/
inductive Removal
  | removed
  | absent
  /-- The extensions of the plugin cannot be given up. -/
  | failed
  deriving Repr, DecidableEq

/-- Removes the plugin of a language and the extensions that it declares and the language has. -/
def unregister (r : Registry) (language : String) : Logged (Registry × Removal) := do
  match r.plugin? language with
  | none => return (r, .absent)
  | some p =>
    match p.extensions.elements? with
    | none => return (r, .failed)
    | some extensions =>
      match r.releaseAll language extensions with
      | (r, false) => return (r, .failed)
      | (r, true) =>
        Logged.say .info ("Unregistered plugin for language '" ++ language ++ "'")
        return ({ r with plugins := Keyed.remove (· == language) r.plugins }, .removed)

/-- The plugin for a file, by the extension of its path; a language without a name has no files. -/
def pluginForFile (r : Registry) (filePath : String) : Logged (Option Plugin) := do
  let extension := (Path.ofString filePath).suffix
  match r.language? (.str extension) with
  | some language =>
    if language.isEmpty then missing extension else return r.plugin? language
  | none => missing extension
where
  /-- Says that no language has the extension. -/
  missing (extension : String) : Logged (Option Plugin) := do
    Logged.say .debug ("No plugin found for file extension '" ++ extension ++ "' (file: " ++
      filePath ++ ")")
    return none

/-- The templates of all plugins, those of later languages over those of earlier ones. -/
def messages (r : Registry) : Logged Bundle :=
  r.plugins.foldlM (fun b (_, p) => b.update p.messages) {}

/-- The checks that some plugin provides. -/
def availableChecks (r : Registry) : List String :=
  r.plugins.flatMap fun (_, p) => p.availableChecks

/-- Every configured check must be provided by some plugin. -/
def validate (r : Registry) (config : AnalysisConfig) : Except ConfigError Unit :=
  let known := r.availableChecks
  let unknown := (Keyed.keys config.checks).filter fun name => !known.contains name
  if unknown.isEmpty then .ok ()
  else .error (.unknownChecks (sortedNames unknown) (sortedNames known))

end Registry

end ModifierLint
