/-
# Checks

A check asks for the kinds of nodes it wants to see (its tokens) and looks at one node at a time.
It keeps nothing between nodes: a visit is a function of the tree and the node, and yields findings,
possibly followed by a failure.  A check may also have findings when it leaves a node, and when it
is told that a walk begins or is finished; most checks have none.

The tokens in effect are the configured ones, or the defaults if none are configured.  They must lie
within the acceptable kinds and cover the required ones.
-/
import ModifierLint.Check.Diagnostic
import ModifierLint.Tree.SourceTree
import ModifierLint.Text.Quoted

namespace ModifierLint

/-- A violation as a check sees it: the offending node, a message key and arguments. -/
structure Finding where
  node : Node
  messageKey : String
  args : List String

/-- Why a visit fails. -/
inductive VisitError
  /-- The node does not belong to the tree. -/
  | notInTree (e : NotInTree)
  /-- The check was given a kind of node that it never asked for. -/
  | unexpectedKind (check kind filePath : String) (line column : Int)
  /-- The check refuses the node in words of its own. -/
  | refused (reason : String)
  deriving Repr, DecidableEq

/-- The text of a failure. -/
def VisitError.message : VisitError → String
  | .notInTree e => e.message
  | .unexpectedKind check kind filePath line column =>
    check ++ " was dispatched " ++ kind ++ " at " ++ filePath ++ ":" ++ Text.ofInt line ++ ":" ++
      Text.ofInt column
  | .refused reason => reason

/-- What a visit yields: findings, and the failure that ended it if one did. -/
structure Visit where
  findings : List Finding := []
  failure : Option VisitError := none

/-- A check that is ready to run. -/
structure Check where
  name : String
  severity : Severity := .error
  /-- The configured tokens. -/
  tokens : Option (List String) := none
  defaults : List String
  acceptable : List String
  required : List String
  visit : SourceTree → Handle → Visit
  /-- What the check finds when a walk begins. -/
  begins : SourceTree → List Finding := fun _ => []
  /-- What the check finds when it leaves a node. -/
  leaves : SourceTree → Handle → List Finding := fun _ _ => []
  /-- What the check finds when a walk is finished. -/
  finishes : SourceTree → List Finding := fun _ => []

namespace Check

/-- The tokens in effect. -/
def effectiveTokens (c : Check) : List String :=
  c.tokens.getD c.defaults

/-- The diagnostic of a finding: it is located at the start of the node. -/
def diagnose (c : Check) (t : SourceTree) (f : Finding) : Diagnostic where
  filePath := t.filePath
  line := f.node.span.startLine
  column := f.node.span.startColumn + 1
  messageKey := f.messageKey
  args := f.args
  checkName := c.name
  severity := c.severity

/-- The diagnostics of a visit. -/
def diagnostics (c : Check) (t : SourceTree) (v : Visit) : List Diagnostic :=
  v.findings.map (c.diagnose t)

end Check

/-- The distinct texts in ascending order. -/
def sortedNames (names : List String) : List String :=
  names.eraseDups.mergeSort (fun a b => decide (a ≤ b))

/-- A check whose tokens do not fit. -/
inductive TokenError
  | unsupported (check : String) (tokens : List String)
  | missing (check : String) (tokens : List String)
  deriving Repr, DecidableEq

/-- The text of the error. -/
def TokenError.message : TokenError → String
  | .unsupported check tokens =>
    "Check '" ++ check ++ "' does not accept tokens: " ++ Text.Quoted.list tokens
  | .missing check tokens => "Check '" ++ check ++ "' requires tokens: " ++ Text.Quoted.list tokens

/-- What is wrong with the tokens in effect, if anything is. -/
def Check.tokenError? (c : Check) : Option TokenError :=
  let tokens := c.effectiveTokens
  let unsupported := tokens.filter fun t => !c.acceptable.contains t
  let missing := c.required.filter fun t => !tokens.contains t
  if !unsupported.isEmpty then some (.unsupported c.name (sortedNames unsupported))
  else if !missing.isEmpty then some (.missing c.name (sortedNames missing))
  else none

end ModifierLint
