/-
# The program

The outer layer: it reads the environment and the files that the command line and the settings name
into a store, leaves the work to `run`, and writes the log, the output and the complaints.
-/
import ModifierLint.CommandLine.Run
import ModifierLint.Java.Grammar
import ModifierLint.Yaml.Reader
import Std.Time

namespace ModifierLint.Program

/-- What the program reads texts with. -/
def readers : Readers where
  settings := EnvFile.parse
  document := Yaml.read
  grammar := Java.grammar

/-- The variables whose names are given or occur in a text. -/
def readEnvironment (names : List String) (text : String) : IO (List (String × String)) := do
  let isName (c : Char) : Bool := c.isAlphanum || c == '_'
  let words := String.ofList (text.toList.map fun c => if isName c then c else ' ')
  let candidates := names ++ names.map Text.lowercase ++ (words.splitOn " ").filter (· ≠ "")
  let found ← candidates.eraseDups.mapM fun name => do
    return (← IO.getEnv name).map fun value => (name, value)
  return found.filterMap id

/-- The octets of a file, if it can be read. -/
def readOctets (path : String) : IO (Option (List UInt8)) := do
  try
    return some (← IO.FS.readBinFile path).toList
  catch _ => return none

/-- The parts under which the store knows a path: two dots undo the name in front of them. -/
def partsOf (path : Path) : List String :=
  let step (here : List String) (part : String) : List String :=
    match here with
    | inner :: outer => if part = ".." && !FileStore.leadsOut inner then outer else part :: here
    | [] => [part]
  (path.parts.foldl step (if path.root.isEmpty then [] else [path.root])).reverse

/-- What stands at a path.  Below a directory only the files with one of some endings are read,
and links to directories are not followed. -/
partial def readEntries (endings : List String) (isNamed : Bool) (path : Path)
    (entry : IO.FS.DirEntry) : IO (List (List String × FileEntry)) := do
  let isLink := (← entry.path.symlinkMetadata).type == .symlink
  if ← entry.path.isDir then
    if isLink && !isNamed then return []
    let children ← entry.path.readDir
    let below ← children.toList.mapM fun child =>
      readEntries endings false (path.append child.fileName) child
    return (partsOf path, .directory) :: below.flatten
  else if isNamed || endings.contains path.suffix then
    match ← readOctets entry.path.toString with
    | some octets => return [(partsOf path, .file octets)]
    | none => return []
  else return []

/-- The place of a path for the file system. -/
def place (path : Path) : IO.FS.DirEntry := ⟨⟨"."⟩, path.toString⟩

/-- What stands at a path that is named, if anything does, and the directories on the way. -/
def readNamed (endings : List String) (text : String) : IO (List (List String × FileEntry)) := do
  let path := Path.ofString text
  let ways : List Path :=
    (List.range path.parts.length).map fun n => { path with parts := path.parts.take n }
  let around ← ways.filterM fun way => (place way).path.isDir
  let found ← try readEntries endings true path (place path) catch _ => pure []
  return around.map (fun way => (partsOf way, .directory)) ++ found

/-- The time of an entry. -/
def currentTime : IO String := do
  let nanoseconds := (← Std.Time.Timestamp.now).toNanosecondsSinceUnixEpoch.val
  let seconds := nanoseconds / 1000000000
  let day := Std.Time.PlainDate.ofEpochDay (.ofInt (seconds / 86400))
  let ofDay := (seconds % 86400).toNat
  let moment : DateTime :=
    { date := ⟨day.year.toInt.toNat, day.month.val.toNat, day.day.val.toNat⟩
      hour := ofDay / 3600
      minute := ofDay / 60 % 60
      second := ofDay % 60
      microsecond := (nanoseconds % 1000000000 / 1000).toNat
      offset := none }
  return moment.iso "T" ++ "Z"

/-- The line of a record, if it has one. -/
def logLine (r : Record) : IO (Option String) := do
  let entry := LogEntry.ofRecord programName r
  return (Json.write .line (.record (entry.line (← currentTime) "" .null))).toOption

/-- Checks the files that the arguments name; the result is the exit code. -/
def execute (arguments : List String) : IO UInt32 := do
  let settingsFile ← readNamed [] Settings.envFile.toString
  let settingsText := match settingsFile with
    | [(_, .file octets)] =>
      match Text.Utf8.decodeMarked octets with
      | .ok cs => String.ofList cs
      | .error _ => ""
    | _ => ""
  let environment ← readEnvironment Settings.names settingsText
  let named := match Settings.load readers.settings environment (.ofEntries settingsFile) with
    | .ok settings =>
      match Arguments.parse settings arguments with
      | .ok a => a.paths ++ (a.config.map Path.toString).toList
      | .error _ => []
    | .error _ => []
  let (registry, _) := Logged.collect Java.defaultRegistry
  let endings := registry.supported.map Value.text
  let entries ← named.mapM (readNamed endings)
  match run environment (.ofEntries (settingsFile ++ entries.flatten)) readers arguments with
  | .error e =>
    IO.eprintln (programName ++ ": " ++ e.message)
    return 1
  | .ok outcome =>
    for r in outcome.records do
      if let some line ← logLine r then IO.eprintln line
    for text in outcome.output do IO.println text
    for text in outcome.complaints do IO.eprintln text
    return outcome.exitCode.toUInt32

end ModifierLint.Program

/-- The program. -/
def main (arguments : List String) : IO UInt32 :=
  ModifierLint.Program.execute arguments
