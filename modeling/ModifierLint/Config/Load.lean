/-
# Loading documents

Configuration files are YAML documents that hold a mapping.  `AnalysisConfig.load` reads an analysis
configuration; without a path, the defaults apply.

The reader that makes a text into a value is given from outside (`DocumentReader`), as grammars are.
It is told where the text ends that could be decoded, because it may stop before it gets there.
-/
import ModifierLint.Config.Analysis
import ModifierLint.Files.Store

namespace ModifierLint

/-- What can be wrong with a document. -/
inductive DocumentFault
  /-- The text is not YAML, or not YAML that configurations may use. -/
  | malformed
  /-- The reader came to octets that are no text. -/
  | undecodable (e : Text.Utf8.Invalid)
  /-- The reader fails in another way, of a kind and with a text of its own. -/
  | other (kind message : String)
  deriving Repr, DecidableEq

/-- The text of the fault. -/
def DocumentFault.message : DocumentFault → String
  | .malformed => "malformed document"
  | .undecodable e => e.message
  | .other _ message => message

/-- What makes a text, and what is wrong behind it, into a value. -/
abbrev DocumentReader := List Char → Option Text.Utf8.Invalid → Except DocumentFault Value

/-- Why a document cannot be loaded. -/
inductive LoadFailure
  | config (e : ConfigError)
  /-- The file cannot be opened. -/
  | opening (e : FileFailure)
  /-- The document is faulty in another way than its form. -/
  | document (f : DocumentFault)
  /-- The name or the version of a plugin has a number with too many digits. -/
  | unnameable
  deriving Repr, DecidableEq

/-- The value of a document, where `malformed` is the complaint about a text that is not YAML. -/
def loadDocument (read : DocumentReader) (files : FileStore) (path : Path)
    (malformed : ConfigError) : Except LoadFailure Value :=
  match files.readDocument path with
  | .error e => .error (.opening e)
  | .ok (text, invalid) =>
    match read text invalid with
    | .ok v => .ok v
    | .error .malformed => .error (.config malformed)
    | .error f => .error (.document f)

/-- Loads an analysis configuration. -/
def AnalysisConfig.load (read : DocumentReader) (files : FileStore) :
    Option Path → Except LoadFailure AnalysisConfig
  | none => .ok {}
  | some path => do
    let name := path.toString
    let isThere ← (files.isThere path).mapError .opening
    if !isThere then .error (.config (.fileNotFound name))
    let document ← loadDocument read files path (.fileMalformed name)
    match document with
    | .null | .map _ =>
      match AnalysisConfig.parse document name with
      | .ok config => .ok config
      | .error e => .error (.config e)
    | _ => .error (.config (.fileNotMapping name))

end ModifierLint
