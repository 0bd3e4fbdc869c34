/-
# Implied static

Enums and interfaces that are declared inside a class or an enum are static whether or not they say
so.  The check asks that they say so.  Each of the two rules can be switched off.

The check is a value: setting the severity, tokens or options gives a new one.  Options are applied
all together or, if one of them is not acceptable, not at all.
-/
import ModifierLint.Java.Scope
import ModifierLint.Config.Analysis

namespace ModifierLint.Java

/-- The check for implied static modifiers. -/
structure ImpliedStatic where
  severity : Severity := .error
  tokens : Option (List String) := none
  enforceEnum : Bool := true
  enforceInterface : Bool := true
  deriving Repr, DecidableEq, Inhabited

/-- Settings for the two rules; a rule that is not named keeps its setting. -/
structure ImpliedStaticOptions where
  enforceEnum : Option Bool
  enforceInterface : Option Bool
  deriving Repr, DecidableEq

namespace ImpliedStaticOptions

/-- The public name and the field name of the option for enums. -/
def enumNames : String × String :=
  ("enforceStaticOnNestedEnum", "enforce_static_on_nested_enum")

/-- The public name and the field name of the option for interfaces. -/
def interfaceNames : String × String :=
  ("enforceStaticOnNestedInterface", "enforce_static_on_nested_interface")

/-- The name under which an option is given: its public name, or else its field name. -/
def usedName (entries : List (Value × Value)) (names : String × String) : String :=
  if (Value.get? entries names.1).isSome then names.1 else names.2

/-- An option, if it is given. -/
def option (entries : List (Value × Value)) (names : String × String) :
    Schema.Checked (Option Bool) :=
  Schema.optional entries (usedName entries names) none (some <$> Schema.strictBool ·)

/-- Decodes options. -/
def read : Value → Schema.Checked ImpliedStaticOptions :=
  Schema.record "ClassMemberImpliedModifierOptions" fun entries =>
    (fun enforceEnum enforceInterface _ => { enforceEnum, enforceInterface })
      <$> option entries enumNames
      <*> option entries interfaceNames
      <*> Schema.noExtras [usedName entries enumNames, usedName entries interfaceNames] entries

end ImpliedStaticOptions

namespace ImpliedStatic

/-- The name of the check. -/
def name : String := "ClassMemberImpliedModifier"

/-- The key of its message. -/
def messageKey : String := "class.implied.modifier"

/-- The kinds of nodes that the check is able to handle; it needs all of them. -/
def acceptable : List String :=
  [Construct.enumDeclaration.kind, Construct.interfaceDeclaration.kind]

/-- Whether the rule for a kind of declaration is on; other kinds have no rule. -/
def enforces? (c : ImpliedStatic) (kind : String) : Option Bool :=
  if kind = Construct.enumDeclaration.kind then some c.enforceEnum
  else if kind = Construct.interfaceDeclaration.kind then some c.enforceInterface
  else none

/-- Whether members of the enclosing type are static by implication. -/
def impliesStatic (enclosing : Option String) : Bool :=
  enclosing == some Construct.classDeclaration.kind ||
    enclosing == some Construct.enumDeclaration.kind

/-- Looks at a declaration. -/
def visit (c : ImpliedStatic) (t : SourceTree) (h : Handle) : Visit :=
  match enclosingKind t h with
  | .error e => { failure := some (.notInTree e) }
  | .ok enclosing =>
    if !impliesStatic enclosing then {}
    else
      match c.enforces? h.node.kind with
      | none =>
        let at_ := h.node.span
        { failure := some (.unexpectedKind name h.node.kind t.filePath at_.startLine
            (at_.startColumn + 1)) }
      | some enforce =>
        if enforce && !h.node.hasModifier Modifier.isStatic.keyword then
          { findings := [⟨h.node, messageKey, [Modifier.isStatic.keyword]⟩] }
        else {}

/-- The check, ready to run. -/
def toCheck (c : ImpliedStatic) : Check where
  name := name
  severity := c.severity
  tokens := c.tokens
  defaults := acceptable
  acceptable := acceptable
  required := acceptable
  visit := c.visit

/-- Switches the rules that are named. -/
def apply (c : ImpliedStatic) (o : ImpliedStaticOptions) : ImpliedStatic :=
  { c with
    enforceEnum := o.enforceEnum.getD c.enforceEnum
    enforceInterface := o.enforceInterface.getD c.enforceInterface }

/-- Applies the options of a configuration. -/
def configure (c : ImpliedStatic) (options : List (Value × Value)) :
    Except ConfigError ImpliedStatic :=
  if options.isEmpty then .ok c
  else
    match ImpliedStaticOptions.read (.map options) with
    | .valid o => .ok (c.apply o)
    | .invalid issues => .error (.invalidOptions name issues)

/-- The check as a configuration describes it. -/
def ofConfig (config : CheckConfig) : Except ConfigError ImpliedStatic :=
  { severity := config.severity, tokens := config.tokens : ImpliedStatic }.configure
    (config.options.map fun (k, v) => (.str k, v))

end ImpliedStatic

end ModifierLint.Java
