/-
# Rules over tokens

A rule says which tokens a construct is written with.  Choice is ordered: the first alternative that
fits is taken for good, and a repetition takes as much as it can.  Rules refer to others by name,
so that constructs may hold each other.

`Rule.read` works off a list of goals, with the states to go back to in a second list; both are
data, so the depth of a file does not matter.
-/
import ModifierLint.Java.Token

namespace ModifierLint.Java

/-- Classes of tokens. -/
inductive Terminal
  /-- A word or symbol as it is written. -/
  | exact (text : String)
  /-- One that starts where the token before it ends. -/
  | glued (text : String)
  /-- A word that is a name, if it is none of the keywords that can stand in its place. -/
  | name (keywords : List String)
  | number
  | character
  /-- A whole string, or a part of one. -/
  | string (part : Lexeme)
  /-- The parenthesis before the parameters of a lambda expression. -/
  | parameters
  | anything
  deriving Repr, DecidableEq, Inhabited

namespace Terminal

/-- Whether a token is in the class. -/
def accepts : Terminal → Token → Bool
  | exact text, t => t.text == text
  | glued text, t => t.glued && t.text == text
  | name keywords, t => t.lexeme == .word && !keywords.contains t.text
  | number, t => t.lexeme == .number
  | character, t => t.lexeme == .character
  | string part, t => t.lexeme == part
  | parameters, t => t.opensParameters
  | anything, _ => true

/-- The kind of leaf that a token becomes. -/
def kind : Terminal → Token → String
  | name _, _ => Construct.identifier.kind
  | number, _ => "number_literal"
  | character, _ => "character_literal"
  | string _, _ => "string_literal"
  | _, t => t.text

/-- The leaf that a token becomes. -/
def leaf (terminal : Terminal) (t : Token) : Cst :=
  .mk (terminal.kind t) t.extent false false []

end Terminal

/-- How a construct is written, with names for other constructs. -/
inductive Rule (κ : Type) where
  | token (terminal : Terminal)
  | named (name : κ)
  | seq (rules : List (Rule κ))
  /-- The first of some rules that fits. -/
  | choice (rules : List (Rule κ))
  /-- As many times as the rule fits. -/
  | many (rule : Rule κ)
  /-- Nothing, where the rule does not fit. -/
  | absent (rule : Rule κ)
  /-- Nothing, after a token of a class. -/
  | after (terminal : Terminal)
  /-- A node around what a rule reads. -/
  | node (kind : String) (rule : Rule κ)
  /-- What a rule reads; nodes that turn out to be parts of one are those of the rule. -/
  | span (rule : Rule κ)
  /-- A node around all that was read of the innermost span. -/
  | gather (kind : String)
  deriving Inhabited

namespace Rule

variable {κ : Type}

/-- What is left to read. -/
inductive Goal (κ : Type)
  | fit (rule : Rule κ)
  /-- The latest choice is made. -/
  | settle
  /-- The latest choice is made, and there is another round. -/
  | again (rule : Rule κ)
  /-- What should be absent is there. -/
  | refuse
  /-- A node is complete; the nodes before it are given, the latest first. -/
  | close (kind : String) (before : List Cst)
  /-- A span is complete; the nodes before it are given, the latest first. -/
  | rejoin (before : List Cst)

/-- How far a reading got: what is left to do, the tokens left, the one just read, and the nodes so
far, the latest first. -/
structure State (κ : Type) where
  goals : List (Goal κ)
  rest : List Token
  last : Option Token
  built : List Cst

/-- The octets from the first of some nodes to the last, the latest first. -/
def extentOf (built : List Cst) : Extent :=
  match built.head?, built.getLast? with
  | some last, some first =>
    ⟨first.extent.startByte, last.extent.endByte, first.extent.startPoint, last.extent.endPoint⟩
  | _, _ => ⟨0, 0, ⟨0, 0⟩, ⟨0, 0⟩⟩

/-- A node around some nodes, the latest first. -/
def enclose (kind : String) (built : List Cst) : Cst :=
  .mk kind (extentOf built) false false built.reverse

/-- Whether fewer tokens are left than in another list of tokens of the same file. -/
def isFurther (rest other : List Token) : Bool :=
  match rest, other with
  | _, [] => false
  | [], _ :: _ => true
  | t :: _, u :: _ => u.extent.startByte < t.extent.startByte

/-- One step.  None: the state leads nowhere.  Otherwise the next state, and the new states to go
back to before those that there are. -/
inductive Move (κ : Type)
  | fail
  | advance (next : State κ)
  /-- The next state, and one to go back to. -/
  | fork (next back : State κ)
  /-- The state to go back to is given up. -/
  | settle (next : State κ)
  /-- The state to go back to is given up, and this one leads nowhere. -/
  | refuse

/-- What a rule makes of a state without it. -/
def start (rules : κ → Rule κ) (rule : Rule κ) (s : State κ) : Move κ :=
  match rule with
  | token terminal =>
    match s.rest with
    | [] => .fail
    | t :: rest =>
      if terminal.accepts t then
        .advance { s with rest, last := some t, built := terminal.leaf t :: s.built }
      else .fail
  | named name => .advance { s with goals := .fit (rules name) :: s.goals }
  | seq rs => .advance { s with goals := rs.map .fit ++ s.goals }
  | choice [] => .fail
  | choice [r] => .advance { s with goals := .fit r :: s.goals }
  | choice (r :: rs) =>
    .fork { s with goals := .fit r :: .settle :: s.goals }
      { s with goals := .fit (choice rs) :: s.goals }
  | many r => .fork { s with goals := .fit r :: .again r :: s.goals } s
  | absent r => .fork { s with goals := .fit r :: .refuse :: s.goals } s
  | after terminal => if s.last.any terminal.accepts then .advance s else .fail
  | node kind r =>
    .advance { s with goals := .fit r :: .close kind s.built :: s.goals, built := [] }
  | span r => .advance { s with goals := .fit r :: .rejoin s.built :: s.goals, built := [] }
  | gather kind => .advance { s with built := [enclose kind s.built] }

/-- The move that the first goal asks for. -/
def move (rules : κ → Rule κ) (goal : Goal κ) (s : State κ) : Move κ :=
  match goal with
  | .fit rule => start rules rule s
  | .settle => .settle s
  | .again rule => .settle { s with goals := .fit (many rule) :: s.goals }
  | .refuse => .refuse
  | .close kind before => .advance { s with built := enclose kind s.built :: before }
  | .rejoin before => .advance { s with built := s.built ++ before }

/-- Works off goals for a number of steps.  The result is the nodes, or the tokens from the furthest
one on that nothing fits. -/
def run (rules : κ → Rule κ) : Nat → State κ → List (State κ) → List Token →
    Except (List Token) (List Cst)
  | 0, _, _, furthest => .error furthest
  | fuel + 1, s, backs, furthest =>
    match s.goals with
    | [] => .ok s.built.reverse
    | goal :: goals =>
      match move rules goal { s with goals } with
      | .advance next => run rules fuel next backs furthest
      | .fork next back => run rules fuel next (back :: backs) furthest
      | .settle next => run rules fuel next backs.tail furthest
      | .refuse =>
        match backs.tail with
        | [] => .error furthest
        | back :: backs => run rules fuel back backs furthest
      | .fail =>
        let furthest := if isFurther s.rest furthest then s.rest else furthest
        match backs with
        | [] => .error furthest
        | back :: backs => run rules fuel back backs furthest

/-- The number of steps that a reading may take for every token. -/
def stepsPerToken : Nat := 20000

/-- Reads tokens by a rule. -/
def read (rules : κ → Rule κ) (rule : Rule κ) (tokens : List Token) :
    Except (List Token) (List Cst) :=
  run rules (stepsPerToken * (tokens.length + 1)) ⟨[.fit rule], tokens, none, []⟩ [] tokens

/-! ## Derived rules -/

/-- A word or symbol as it is written. -/
def text (s : String) : Rule κ := token (.exact s)

/-- Nothing. -/
def nothing : Rule κ := seq []

/-- What a rule reads, or nothing. -/
def opt (r : Rule κ) : Rule κ := choice [r, nothing]

/-- Some rules in order, or nothing. -/
def optSeq (rs : List (Rule κ)) : Rule κ := opt (seq rs)

/-- Nothing, where the rule fits. -/
def ahead (r : Rule κ) : Rule κ := absent (absent r)

/-- One or more times. -/
def repeated (r : Rule κ) : Rule κ := seq [r, many r]

/-- One or more times with a separator between. -/
def separated (separator : String) (r : Rule κ) : Rule κ :=
  seq [r, many (seq [text separator, r])]

/-- Any number of times with commas between. -/
def list (r : Rule κ) : Rule κ := opt (separated "," r)

/-- One of some words or symbols. -/
def anyOf (ss : List String) : Rule κ := choice (ss.map text)

/-- A node that rules read in order. -/
def form (kind : String) (rs : List (Rule κ)) : Rule κ := node kind (seq rs)

end Rule

end ModifierLint.Java
