/-
# Language plugins

A plugin knows one language: which files are written in it, how a text becomes a tree, which checks
there are and how to set them up.  The grammar that turns a text into a concrete tree is given from
outside.
-/
import ModifierLint.Config.Analysis
import ModifierLint.Java.Abstraction
import ModifierLint.Log.Record

namespace ModifierLint

/-- Why checks cannot be set up. -/
inductive SetupFailure
  | config (e : ConfigError)
  /-- A field of the manifest is not a sequence. -/
  | shape
  deriving Repr, DecidableEq

/-- A plugin for a language. -/
structure Plugin where
  /-- Plugins for one language are told apart by their identity. -/
  identity : String
  language : String
  /-- The extensions as declared; a text stands for its characters. -/
  extensions : Value
  messages : List (String × String) := []
  availableChecks : List String := []
  parse : Java.Grammar → String → String → Attempt Java.ParseError Node
  createChecks : AnalysisConfig → Attempt SetupFailure (List Check)

end ModifierLint
