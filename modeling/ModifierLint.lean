import ModifierLint.Analyzer.Basic
import ModifierLint.Analyzer.Report
import ModifierLint.Calendar
import ModifierLint.Check.Basic
import ModifierLint.Check.Collector
import ModifierLint.Check.Diagnostic
import ModifierLint.Check.Walker
import ModifierLint.CommandLine.Arguments
import ModifierLint.CommandLine.Run
import ModifierLint.Config.Analysis
import ModifierLint.Config.EnvFile
import ModifierLint.Config.Error
import ModifierLint.Config.Load
import ModifierLint.Config.Settings
import ModifierLint.Files.Path
import ModifierLint.Files.Store
import ModifierLint.Java.Abstraction
import ModifierLint.Java.Cst
import ModifierLint.Java.Grammar
import ModifierLint.Java.ImpliedStatic
import ModifierLint.Java.Plugin
import ModifierLint.Java.Rule
import ModifierLint.Java.Scope
import ModifierLint.Java.Token
import ModifierLint.Java.Vocabulary
import ModifierLint.Json
import ModifierLint.Keyed
import ModifierLint.Log.Interpolation
import ModifierLint.Log.Logger
import ModifierLint.Log.Pool
import ModifierLint.Log.Record
import ModifierLint.Main
import ModifierLint.Message.Attribute
import ModifierLint.Message.Bundle
import ModifierLint.Message.Template
import ModifierLint.Number.Binary64
import ModifierLint.Number.Decimal
import ModifierLint.Number.Shortest
import ModifierLint.Plugin.Basic
import ModifierLint.Plugin.Manifest
import ModifierLint.Plugin.Registry
import ModifierLint.Proofs.Analyzer.Alone
import ModifierLint.Proofs.Analyzer.Clean
import ModifierLint.Proofs.Analyzer.Collection
import ModifierLint.Proofs.Analyzer.Interleaving
import ModifierLint.Proofs.Analyzer.Refusal
import ModifierLint.Proofs.Analyzer.Sources
import ModifierLint.Proofs.Analyzer.Tasks
import ModifierLint.Proofs.Analyzer.Together
import ModifierLint.Proofs.Check.Document
import ModifierLint.Proofs.Check.Order
import ModifierLint.Proofs.Check.Views
import ModifierLint.Proofs.CommandLine.Choices
import ModifierLint.Proofs.CommandLine.Defaults
import ModifierLint.Proofs.CommandLine.ExitCode
import ModifierLint.Proofs.CommandLine.Rendering
import ModifierLint.Proofs.Config.Loading
import ModifierLint.Proofs.Config.NormalForm
import ModifierLint.Proofs.Files.Path
import ModifierLint.Proofs.Files.Store
import ModifierLint.Proofs.FirstOccurrences
import ModifierLint.Proofs.Java.Bodies
import ModifierLint.Proofs.Java.Configured
import ModifierLint.Proofs.Java.Conversion
import ModifierLint.Proofs.Java.Culprit
import ModifierLint.Proofs.Java.Enclosing
import ModifierLint.Proofs.Java.Inheritance
import ModifierLint.Proofs.Java.Machine
import ModifierLint.Proofs.Java.Misfits
import ModifierLint.Proofs.Java.Options
import ModifierLint.Proofs.Java.Ordering
import ModifierLint.Proofs.Java.Places
import ModifierLint.Proofs.Java.Positions
import ModifierLint.Proofs.Java.Repair
import ModifierLint.Proofs.Java.Setup
import ModifierLint.Proofs.Java.Texts
import ModifierLint.Proofs.Java.Tokens
import ModifierLint.Proofs.Java.Violations
import ModifierLint.Proofs.Java.Visits
import ModifierLint.Proofs.Json.Layout
import ModifierLint.Proofs.Json.Quotation
import ModifierLint.Proofs.Json.Reading
import ModifierLint.Proofs.Keyed
import ModifierLint.Proofs.Log.Answers
import ModifierLint.Proofs.Log.Blocks
import ModifierLint.Proofs.Log.Lines
import ModifierLint.Proofs.Message.Filling
import ModifierLint.Proofs.Message.Formatting
import ModifierLint.Proofs.Plugin.Choice
import ModifierLint.Proofs.Plugin.Failure
import ModifierLint.Proofs.Plugin.History
import ModifierLint.Proofs.Plugin.Outcome
import ModifierLint.Proofs.Plugin.Registration
import ModifierLint.Proofs.Schema.Acceptance
import ModifierLint.Proofs.Text.Digits
import ModifierLint.Proofs.Text.Encoding
import ModifierLint.Proofs.Text.Lines
import ModifierLint.Proofs.Text.Prefixes
import ModifierLint.Proofs.Text.Uppercase
import ModifierLint.Proofs.Tree.Ancestors
import ModifierLint.Proofs.Tree.Nearest
import ModifierLint.Proofs.Tree.Numbering
import ModifierLint.Proofs.Tree.Segments
import ModifierLint.Proofs.Value
import ModifierLint.Proofs.Walk.Acceptance
import ModifierLint.Proofs.Walk.Calls
import ModifierLint.Proofs.Walk.Failure
import ModifierLint.Proofs.Walk.Nesting
import ModifierLint.Proofs.Walk.Registration
import ModifierLint.Proofs.Walk.Separation
import ModifierLint.Schema.Checked
import ModifierLint.Schema.Moment
import ModifierLint.Schema.Read
import ModifierLint.Text.Blank
import ModifierLint.Text.CodeRange
import ModifierLint.Text.Decimal
import ModifierLint.Text.Identifier
import ModifierLint.Text.Lowercase
import ModifierLint.Text.Printable
import ModifierLint.Text.Quoted
import ModifierLint.Text.Uppercase
import ModifierLint.Text.Utf8
import ModifierLint.Tree.Document
import ModifierLint.Tree.Node
import ModifierLint.Tree.SourceTree
import ModifierLint.Value
import ModifierLint.Yaml.Cursor
import ModifierLint.Yaml.Document
import ModifierLint.Yaml.Meaning
import ModifierLint.Yaml.Node
import ModifierLint.Yaml.Reader
import ModifierLint.Yaml.Scalar
import ModifierLint.Yaml.Tag
import ModifierLint.Yaml.Token
