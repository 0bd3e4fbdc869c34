/-
# The plugin for Java

What the plugin offers follows from its manifest.  The bundled manifest handles `.java` files and
runs the check for implied static modifiers by default.
-/
import ModifierLint.Java.ImpliedStatic
import ModifierLint.Plugin.Manifest
import ModifierLint.Plugin.Registry

namespace ModifierLint.Java

/-- The plugin for Java with its manifest. -/
structure JavaPlugin where
  manifest : Manifest

namespace JavaPlugin

/-- The name of the language. -/
def language : String := "java"

/-- The bundled manifest. -/
def bundledManifest : Manifest :=
  ⟨[(.str "name", .str language),
    (.str "version", .str "1.0.0"),
    (.str "description", .str "Checks of Java sources"),
    (.str "file_extensions", .texts [".java"]),
    (.str "checks", .texts [ImpliedStatic.name]),
    (.str "messages", .record
      [(ImpliedStatic.messageKey, .str "Implied modifier '\x7b0\x7d' should be explicit.")])]⟩

/-- Says that the plugin is ready. -/
def ready (manifest : Manifest) : Logged JavaPlugin := do
  Logged.say .info "Java plugin initialized successfully"
  return ⟨manifest⟩

/-- The plugin with the bundled manifest. -/
def bundled : Logged JavaPlugin := do
  bundledManifest.announce Manifest.fileName
  ready bundledManifest

/-- The plugin with the manifest in a directory. -/
def load (read : DocumentReader) (files : FileStore) (directory : Path) :
    Attempt LoadFailure JavaPlugin := do
  let manifest ← Manifest.load read files directory
  ready manifest

/-- The declared file extensions. -/
def extensions (p : JavaPlugin) : Value :=
  (p.manifest.field? "file_extensions").getD (.texts [".java"])

/-- The declared message templates. -/
def messages (p : JavaPlugin) : Except Value.NoMapping (List (Value × Value)) :=
  ((p.manifest.field? "messages").getD (.map [])).toEntries

/-- The checks that there are. -/
def availableChecks : List String := [ImpliedStatic.name]

/-- The checks that run unless a configuration says otherwise, if they are a sequence. -/
def defaultChecks (p : JavaPlugin) : Option (List Value) :=
  match p.manifest.field? "checks" with
  | none => some (availableChecks.map .str)
  | some v => v.elements?

/-- The check, if it is enabled: it runs by default or because a configuration mentions it. -/
def enabledCheck (config : AnalysisConfig) (isDefault : Bool) :
    Attempt ConfigError (Option ImpliedStatic) := do
  if !isDefault && !config.mentions ImpliedStatic.name then return none
  let checkConfig := config.forCheck ImpliedStatic.name
  if !checkConfig.enabled then
    Logged.say .info ("Check '" ++ ImpliedStatic.name ++ "' disabled by configuration")
    return none
  match ImpliedStatic.ofConfig checkConfig with
  | .ok c => return some c
  | .error e => throw e

/-- The checks that run under a configuration. -/
def createChecks (p : JavaPlugin) (config : AnalysisConfig) :
    Attempt SetupFailure (List ImpliedStatic) := do
  match p.defaultChecks with
  | none => throw .shape
  | some defaults =>
    if defaults.any fun v => !v.isHashable then throw .shape
    let isDefault := defaults.any (Value.sameKey · (.str ImpliedStatic.name))
    let checks := (← (enabledCheck config isDefault).adapt .config).toList
    Logged.say .debug ("Created " ++ Nat.repr checks.length ++ " Java checks: " ++
      Text.Quoted.list (checks.map fun _ => ImpliedStatic.name))
    return checks

/-- The templates that are texts under text keys. -/
def templates (p : JavaPlugin) : List (String × String) :=
  match p.messages with
  | .ok entries => entries.filterMap fun
    | (.str key, .str template) => some (key, template)
    | _ => none
  | .error _ => []

/-- Makes a text into a tree. -/
def parse (grammar : Grammar) (filePath content : String) : Attempt ParseError Node := do
  match parseSource grammar filePath content with
  | .error e => throw e
  | .ok n =>
    Logged.say .debug ("Successfully parsed Java file: " ++ filePath)
    return n

/-- The plugin as the registry knows it. -/
def toPlugin (p : JavaPlugin) : Plugin where
  identity := "JavaPlugin"
  language := language
  extensions := p.extensions
  messages := p.templates
  availableChecks := availableChecks
  parse := parse
  createChecks := fun config => do
    return (← p.createChecks config).map ImpliedStatic.toCheck

end JavaPlugin

/-- The registry with the bundled plugin. -/
def defaultRegistry : Logged Registry := do
  let p ← JavaPlugin.bundled
  return (← Registry.register {} p.toPlugin).1

end ModifierLint.Java
