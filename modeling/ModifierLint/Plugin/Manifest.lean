/-
# Plugin manifests

A plugin describes itself in a document next to it: its name, its version, the file extensions that
it handles, and optionally the checks that run by default and its message templates.  Only the
presence of the first three is required here; what they hold shows when they are used.
-/
import ModifierLint.Config.Load
import ModifierLint.Log.Record

namespace ModifierLint

/-- The entries of a plugin's description of itself. -/
structure Manifest where
  entries : List (Value × Value)
  deriving Inhabited

namespace Manifest

/-- The name of the document. -/
def fileName : String := "config.yaml"

/-- The fields that a manifest must have. -/
def requiredFields : List String := ["name", "version", "file_extensions"]

/-- The value of a field. -/
def field? (m : Manifest) (name : String) : Option Value :=
  Value.get? m.entries name

/-- The value of a field in a text. -/
def fieldText (m : Manifest) (name : String) : String :=
  ((m.field? name).map Value.text).getD ""

/-- Says that a manifest was loaded. -/
def announce (m : Manifest) (path : String) : Logged Unit :=
  Logged.say .info ("Loaded plugin configuration " ++ m.fieldText "name" ++ " v" ++
    m.fieldText "version" ++ " from " ++ path)

/-- Whether the name and the version have texts. -/
def isNameable (m : Manifest) : Bool :=
  ["name", "version"].all fun field => (m.field? field).all Value.isWritable

/-- Loads the manifest in a directory. -/
def load (read : DocumentReader) (files : FileStore) (directory : Path) :
    Attempt LoadFailure Manifest := do
  let path := directory.append fileName
  let name := path.toString
  let isThere ← ExceptT.mk (pure ((files.isThere path).mapError .opening))
  if !isThere then throw (.config (.pluginNotFound name))
  match loadDocument read files path (.pluginMalformed name) with
  | .error (.config e) =>
    Logged.say .error e.message
    throw (.config e)
  | .error e => throw e
  | .ok (.map entries) =>
    let m : Manifest := ⟨entries⟩
    match requiredFields.find? fun field => (m.field? field).isNone with
    | some field => throw (.config (.pluginIncomplete field name))
    | none =>
      if !m.isNameable then throw .unnameable
      m.announce name
      return m
  | .ok _ => throw (.config (.pluginNotMapping name))

end Manifest

end ModifierLint
