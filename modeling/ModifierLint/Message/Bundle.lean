/-
# Message bundles

A bundle maps message keys to templates, in the order in which the keys were first defined.  A
message can be shown whatever happens to its template: without one, or if an argument is missing,
the key or the bare template is followed by the arguments.
-/
import ModifierLint.Message.Template
import ModifierLint.Log.Record

namespace ModifierLint

/-- Templates by message key. -/
structure Bundle where
  templates : List (String × String) := []
  deriving Repr, DecidableEq, Inhabited

namespace Bundle

/-- The template of a key. -/
def template? (b : Bundle) (key : String) : Option String :=
  Keyed.find? (· == key) b.templates

/-- The keys in order of definition. -/
def keys (b : Bundle) : List String :=
  Keyed.keys b.templates

/-- Whether the key has a template. -/
def contains (b : Bundle) (key : String) : Bool :=
  (b.template? key).isSome

/-- Defines a template; a different one under the same key is replaced, with a warning. -/
def define (b : Bundle) (key template : String) : Logged Bundle := do
  match b.template? key with
  | some present =>
    if present ≠ template then
      Logged.say .warning ("Message '" ++ key ++ "' already defined, overwriting")
  | none => pure ()
  return ⟨Keyed.put (· == ·) key template b.templates⟩

/-- Defines templates in order. -/
def update (b : Bundle) (templates : List (String × String)) : Logged Bundle :=
  templates.foldlM (fun b (key, template) => b.define key template) b

/-- A text followed by arguments, without blanks at the ends. -/
def followedBy (text : String) (args : List String) : String :=
  Text.strip (text ++ " " ++ String.intercalate " " args)

/-- The message of a key. -/
def format (b : Bundle) (key : String) (args : List String) : Attempt Template.Fault String :=
  match b.template? key with
  | none => return followedBy key args
  | some template =>
    match Template.format template args with
    | .ok message => return message
    | .error fault =>
      if fault.isMissing then do
        Logged.say .warning ("Cannot format message '" ++ key ++ "' with " ++
          Text.Quoted.tuple args ++ ": " ++ fault.message)
        return followedBy template args
      else throw fault

end Bundle

end ModifierLint
