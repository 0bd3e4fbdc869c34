/-
# The reader of documents

`Yaml.read` is the reader that the program gives to whoever loads documents.
-/
import ModifierLint.Config.Load
import ModifierLint.Yaml.Document

namespace ModifierLint.Yaml

/-- What a fault is to those who only know that the reader failed. -/
def Fault.toDocumentFault (f : Fault) : DocumentFault :=
  match f with
  | .malformed | .unclosed => .malformed
  | .unreadable e => .undecodable e
  | .notBool _ => .other "KeyError" f.message
  | .notTimestamp => .other "AttributeError" f.message
  | .notText => .other "TypeError" f.message
  | .emptyNumber => .other "IndexError" f.message
  | .tooManyParts => .other "OverflowError" f.message
  | .endless => .other "RecursionError" f.message
  | .codePoint | .notInteger _ _ | .tooManyDigits _ | .notFloat _ | .dateRange _ =>
    .other "ValueError" f.message

/-- Reads a document. -/
def read : DocumentReader := fun text invalid =>
  (Document.parse { text, fault := invalid.map .unreadable }).mapError Fault.toDocumentFault

end ModifierLint.Yaml
