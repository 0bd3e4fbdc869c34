/-
# Command line arguments

An argument is the name of an option, the value of one, or a path.  Names may be cut short where
no other name begins alike; the value of an option is the next argument, or is attached to the name
with an equals sign or, after the name of one letter, directly.  After two dashes all arguments are
paths.

Options are obeyed from left to right, and the first one that is wrong, or that asks for help or the
version, ends the reading.  All paths must stand together: others are not recognized.
-/
import ModifierLint.Config.Settings
import ModifierLint.Text.Uppercase

namespace ModifierLint

/-- What the command line chooses. -/
structure Arguments where
  paths : List String
  config : Option Path
  format : String
  workers : Int
  logLevel : String
  deriving Repr, DecidableEq, Inhabited

namespace Arguments

/-- The options. -/
inductive Switch
  | help
  | config
  | format
  | workers
  | logLevel
  | version
  deriving Repr, DecidableEq

namespace Switch

/-- All options. -/
def all : List Switch := [help, config, format, workers, logLevel, version]

/-- The names of an option. -/
def names : Switch → List String
  | help => ["-h", "--help"]
  | config => ["-c", "--config"]
  | format => ["-f", "--format"]
  | workers => ["-w", "--workers"]
  | logLevel => ["--log-level"]
  | version => ["--version"]

/-- Whether the option has a value. -/
def takesValue : Switch → Bool
  | help | version => false
  | _ => true

/-- The option in messages. -/
def label (s : Switch) : String :=
  String.intercalate "/" s.names

/-- All names with their options. -/
def table : List (String × Switch) :=
  all.flatMap fun s => s.names.map fun name => (name, s)

/-- The option of a name. -/
def ofName? (name : String) : Option Switch :=
  Keyed.find? (· == name) table

end Switch

/-- The output formats. -/
def formats : List String := ["plain", "json"]

/-- The thresholds of the log that may be asked for. -/
def logLevels : List String := ["DEBUG", "INFO", "WARNING", "ERROR", "CRITICAL"]

/-- What is wrong with a command line. -/
inductive UsageError
  | ambiguous (argument : String) (candidates : List String)
  | valueMissing (s : Switch)
  | valueIgnored (s : Switch) (value : String)
  | notAmong (s : Switch) (value : String) (choices : List String)
  | notInteger (s : Switch) (value : String)
  | pathsMissing
  | unrecognized (arguments : List String)
  deriving Repr, DecidableEq

/-- The text of the error. -/
def UsageError.message : UsageError → String
  | ambiguous argument candidates =>
    "ambiguous option: " ++ argument ++ " could match " ++ String.intercalate ", " candidates
  | valueMissing s => "argument " ++ s.label ++ ": expected one argument"
  | valueIgnored s value =>
    "argument " ++ s.label ++ ": ignored explicit argument " ++ Text.Quoted.text value
  | notAmong s value choices =>
    "argument " ++ s.label ++ ": invalid choice: " ++ Text.Quoted.text value ++ " (choose from " ++
      String.intercalate ", " (choices.map Text.Quoted.text) ++ ")"
  | notInteger s value =>
    "argument " ++ s.label ++ ": invalid int value: " ++ Text.Quoted.text value
  | pathsMissing => "the following arguments are required: paths"
  | unrecognized arguments => "unrecognized arguments: " ++ String.intercalate " " arguments

/-- What ends the reading of a command line early. -/
inductive Stop
  | help
  | version
  | usage (e : UsageError)
  deriving Repr, DecidableEq

/-! ## Kinds of arguments -/

/-- The kind of an argument. -/
inductive Kind
  | plain
  /-- Two dashes. -/
  | mark
  /-- An option, and the value that is attached to its name. -/
  | option (s : Switch) (isShort : Bool) (attached : Option (List Char))
  /-- It looks like an option, but there is none of the name. -/
  | unknown
  deriving Repr, DecidableEq

/-- Whether the argument is neither an option nor looks like one. -/
def Kind.isValue : Kind → Bool
  | plain | mark => true
  | _ => false

/-- The parts before and after the first equals sign. -/
def splitAtEquals (s : List Char) : List Char × Option (List Char) :=
  match s.dropWhile (· ≠ '=') with
  | [] => (s, none)
  | _ :: value => (s.takeWhile (· ≠ '='), some value)

/-- Whether the name of an option has one letter. -/
def isShort (name : String) : Bool :=
  !name.startsWith "--"

/-- The readings of an argument as the beginning of a name. -/
def candidates (argument : List Char) : List (String × Kind) :=
  match argument with
  | '-' :: '-' :: _ =>
    let (beginning, value) := splitAtEquals argument
    Switch.table.filterMap fun (name, s) =>
      if beginning.isPrefixOf name.toList then
        some (name, .option s (isShort name) value)
      else none
  | '-' :: c :: rest =>
    Switch.table.filterMap fun (name, s) =>
      if name.toList = ['-', c] then some (name, .option s true (some rest)) else none
  | _ => []

/-- Whether the character is a decimal digit of some script. -/
def isDigit (c : Char) : Bool :=
  (Text.digitValue? c).isSome

/-- Whether the argument is a negative number; a line feed may follow it. -/
def isNegativeNumber (argument : List Char) : Bool :=
  match argument with
  | '-' :: rest =>
    let whole := rest.takeWhile isDigit
    let ends (cs : List Char) : Bool := cs = [] || cs = ['\n']
    match rest.drop whole.length with
    | '.' :: fraction =>
      let digits := fraction.takeWhile isDigit
      !digits.isEmpty && ends (fraction.drop digits.length)
    | tail => !whole.isEmpty && ends tail
  | _ => false

/-- The kind of an argument before two dashes. -/
def kindOf (argument : String) : Except UsageError Kind :=
  let cs := argument.toList
  if cs.head? ≠ some '-' then .ok .plain
  else
    match Switch.ofName? argument with
    | some s => .ok (.option s (isShort argument) none)
    | none =>
      if cs.length = 1 then .ok .plain
      else
        let (name, value) := splitAtEquals cs
        match value, Switch.ofName? (String.ofList name) with
        | some v, some s => .ok (.option s (isShort argument) (some v))
        | _, _ =>
          match candidates cs with
          | [(_, kind)] => .ok kind
          | [] =>
            .ok (if isNegativeNumber cs || cs.contains ' ' then .plain else .unknown)
          | several => .error (.ambiguous argument (several.map Prod.fst))

/-- The arguments with their kinds. -/
def kinds : List String → Except UsageError (List (String × Kind))
  | [] => .ok []
  | argument :: rest =>
    if argument = "--" then .ok ((argument, .mark) :: rest.map fun a => (a, .plain))
    else do
      let kind ← kindOf argument
      return (argument, kind) :: (← kinds rest)

/-! ## Reading -/

/-- What was read so far. -/
structure Reading where
  settings : Settings
  paths : Option (List String) := none
  config : Option Path
  format : String
  workers : Int
  logLevel : Option String := none
  extras : List String := []

/-- Obeys an option. -/
def obey (r : Reading) (s : Switch) (value : String) : Except Stop Reading :=
  match s with
  | .help => .error .help
  | .version => .error .version
  | .config => .ok { r with config := some (Path.ofString value) }
  | .format =>
    if formats.contains value then .ok { r with format := value }
    else .error (.usage (.notAmong s value formats))
  | .workers =>
    match Text.integer? value with
    | some n => .ok { r with workers := n }
    | none => .error (.usage (.notInteger s value))
  | .logLevel =>
    let level := Text.uppercase value
    if logLevels.contains level then .ok { r with logLevel := some level }
    else .error (.usage (.notAmong s level logLevels))

/-- The options that an argument names: those without a value, and the last one with the value that
is attached to it, if it takes one.  An option of one letter without a value may be followed by the
letters of others. -/
def unfold (s : Switch) (found : List Switch) (isShort : Bool) (value : List Char) :
    Except UsageError (List Switch × Option (Switch × Option String)) :=
  if s.takesValue then .ok (found, some (s, some (String.ofList value)))
  else
    match isShort, value with
    | true, c :: rest =>
      match Switch.ofName? (String.ofList ['-', c]) with
      | none => .error (.valueIgnored s (String.ofList value))
      | some next =>
        if !rest.isEmpty then unfold next (found ++ [s]) true rest
        else if next.takesValue then .ok (found ++ [s], some (next, none))
        else .ok (found ++ [s, next], none)
    | _, _ => .error (.valueIgnored s (String.ofList value))
termination_by value.length

/-- Obeys options without values. -/
def obeyAll (r : Reading) : List Switch → Except Stop Reading
  | [] => .ok r
  | s :: rest => do obeyAll (← obey r s "") rest

/-- Reads the option at the front of the arguments. -/
def readOption (r : Reading) (s : Switch) (isShort : Bool) (attached : Option (List Char))
    (rest : List (String × Kind)) : Except Stop (Reading × List (String × Kind)) := do
  let named : Except UsageError (List Switch × Option (Switch × Option String)) :=
    match attached with
    | some value => unfold s [] isShort value
    | none => .ok (if s.takesValue then ([], some (s, none)) else ([s], none))
  match ← named.mapError .usage with
  | (switches, none) => return (← obeyAll r switches, rest)
  | (switches, some (last, some value)) =>
    return (← obey (← obeyAll r switches) last value, rest)
  | (switches, some (last, none)) =>
    match rest with
    | (value, .plain) :: rest => return (← obey (← obeyAll r switches) last value, rest)
    | _ => .error (.usage (.valueMissing last))

/-- Takes a run of paths: the first run gives the paths, and later ones are not recognized. -/
def readPaths (r : Reading) (run : List (String × Kind)) : Reading :=
  let texts := run.map Prod.fst
  match r.paths with
  | none =>
    if run.any (·.2 = .plain) then { r with paths := some (texts.erase "--") }
    else { r with extras := r.extras ++ texts }
  | some _ => { r with extras := r.extras ++ texts }

/-- Reads arguments from left to right.  `fuel` is at least their number. -/
def readAll (r : Reading) : Nat → List (String × Kind) → Except Stop Reading
  | _, [] => .ok r
  | 0, _ => .ok r
  | fuel + 1, (argument, kind) :: rest =>
    match kind with
    | .unknown => readAll { r with extras := r.extras ++ [argument] } fuel rest
    | .option s isShort attached => do
      let (r, rest) ← readOption r s isShort attached rest
      readAll r fuel rest
    | _ =>
      let run := (argument, kind) :: rest.takeWhile (·.2.isValue)
      readAll (readPaths r run) fuel (rest.dropWhile (·.2.isValue))

/-- Reads a command line; settings stand in for what it does not say. -/
def parse (settings : Settings) (arguments : List String) : Except Stop Arguments := do
  let kinds ← (kinds arguments).mapError .usage
  let start : Reading :=
    { settings, config := settings.configFile, format := settings.outputFormat,
      workers := settings.maxWorkers }
  let r ← readAll start kinds.length kinds
  match r.paths, r.extras with
  | none, _ => .error (.usage .pathsMissing)
  | some _, _ :: _ => .error (.usage (.unrecognized r.extras))
  | some paths, [] =>
    return {
      paths
      config := r.config
      format := r.format
      workers := r.workers
      logLevel := r.logLevel.getD (Text.uppercase settings.logLevel) }

end Arguments

end ModifierLint
