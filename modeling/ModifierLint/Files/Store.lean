/-
# Files

A store holds files and directories by their parts from the current directory.  What lies outside of
it has a root or two dots as its first part.  Looking a path up walks from part to part, so that
`a/../b` needs a directory `a`.

Everything in a store can be opened: permissions are no part of it.  A name can be too long to be
looked up, and so can a path, even if each of its parts is short; what stands below a directory may
have such a path.
-/
import ModifierLint.Files.Path
import ModifierLint.Text.Utf8
import ModifierLint.Text.Quoted

namespace ModifierLint

/-- What stands under a name. -/
inductive FileEntry
  | file (octets : List UInt8)
  | directory
  deriving Repr, DecidableEq

namespace FileStore

/-- The greatest number of octets of a part of a path. -/
def longestPart : Nat := 255

/-- The greatest number of octets of a path. -/
def longestPath : Nat := 4095

/-- Whether a part leads out of the directory that it is read in. -/
def leadsOut (part : String) : Bool :=
  part = ".." || part.startsWith "/"

/-- Whether something in a directory can have the name. -/
def isName (part : String) : Bool :=
  !(["", ".", ".."].contains part) && !(part.toList.any fun c => c = '/' || c = '\x00') &&
    part.utf8ByteSize ≤ longestPart

/-- Whether something can stand at the parts: names stand behind what leads out. -/
def isPlace (parts : List String) : Bool :=
  !(parts.dropWhile leadsOut).isEmpty && (parts.dropWhile leadsOut).all isName

/-- Whether an entry leaves no room for another: they have the same name, or it is a file above the
other. -/
def excludes (a b : List String × FileEntry) : Bool :=
  match a.2 with
  | .file _ => a.1.isPrefixOf b.1
  | .directory => a.1 = b.1

/-- Nothing stands at a wrong place if nothing is there. -/
theorem placed_nil : ∀ e ∈ ([] : List (List String × FileEntry)), isPlace e.1 = true := nofun

theorem apart_nil : ([] : List (List String × FileEntry)).Pairwise fun a b =>
    excludes a b = false ∧ excludes b a = false := .nil

end FileStore

/-- Files and directories by their parts from the current directory. -/
structure FileStore where
  entries : List (List String × FileEntry) := []
  /-- Something can stand where the entries are. -/
  placed : ∀ e ∈ entries, FileStore.isPlace e.1 = true := by
    first
    | exact FileStore.placed_nil
    | decide +kernel
  /-- No name is used twice, and there is nothing below a file. -/
  apart : entries.Pairwise fun a b =>
    FileStore.excludes a b = false ∧ FileStore.excludes b a = false := by
    first
    | exact FileStore.apart_nil
    | decide +kernel

instance : Inhabited FileStore := ⟨{}⟩

/-- Why a file cannot be opened. -/
inductive FileFailure
  | notFound (path : String)
  | isDirectory (path : String)
  | notDirectory (path : String)
  | nameTooLong (path : String)
  /-- The name holds the character NUL. -/
  | badName
  deriving Repr, DecidableEq

/-- The text of the failure. -/
def FileFailure.message : FileFailure → String
  | .notFound path => "[Errno 2] No such file or directory: " ++ Text.Quoted.text path
  | .isDirectory path => "[Errno 21] Is a directory: " ++ Text.Quoted.text path
  | .notDirectory path => "[Errno 20] Not a directory: " ++ Text.Quoted.text path
  | .nameTooLong path => "[Errno 36] File name too long: " ++ Text.Quoted.text path
  | .badName => "embedded null byte"

namespace FileStore

/-- Adds an entry, unless nothing can stand there or another entry leaves no room for it. -/
def add (s : FileStore) (e : List String × FileEntry) : FileStore :=
  if fits : isPlace e.1 = true ∧
      ∀ other ∈ s.entries, excludes other e = false ∧ excludes e other = false then
    { entries := s.entries ++ [e]
      placed := List.forall_mem_append.2 ⟨s.placed, List.forall_mem_singleton.2 fits.1⟩
      apart := List.pairwise_append.2 ⟨s.apart, List.pairwise_singleton _ _, fun other member _ same =>
        List.mem_singleton.1 same ▸ fits.2 other member⟩ }
  else s

/-- A store with entries; of entries that leave no room for each other the first counts. -/
def ofEntries (entries : List (List String × FileEntry)) : FileStore :=
  entries.foldl add {}

/-- What stands at the parts; the directories around an entry exist with it. -/
def at? (s : FileStore) (parts : List String) : Option FileEntry :=
  if parts.isEmpty then some .directory
  else
    match s.entries.lookup parts with
    | some e => some e
    | none =>
      if s.entries.any fun (name, _) => parts.isPrefixOf name then some .directory else none

/-- The result of looking a path up. -/
inductive Found
  | entry (parts : List String) (e : FileEntry)
  | missing
  /-- A part on the way is a file. -/
  | blocked
  /-- A part is longer than names can be. -/
  | tooLong
  /-- The path holds the character NUL. -/
  | unnamable

/-- Walks along the parts of a path from a directory, whose parts are given in reverse. -/
def walk (s : FileStore) (here : List String) : List String → Found
  | [] => .entry here.reverse .directory
  | part :: rest =>
    if part = ".." then
      match here with
      | inner :: outer => if leadsOut inner then walk s (part :: here) rest else walk s outer rest
      | [] => walk s [part] rest
    else if part.utf8ByteSize > longestPart then .tooLong
    else
      let here := part :: here
      match s.at? here.reverse with
      | none => .missing
      | some .directory => walk s here rest
      | some (.file octets) =>
        if rest.isEmpty then .entry here.reverse (.file octets) else .blocked

/-- Whether a path is longer than paths can be. -/
def isTooLong (p : Path) : Bool :=
  p.toString.utf8ByteSize > longestPath

/-- Looks a path up. -/
def find (s : FileStore) (p : Path) : Found :=
  if p.toString.toList.contains '\x00' then .unnamable
  else if isTooLong p then .tooLong
  else s.walk (if p.root.isEmpty then [] else [p.root]) p.parts

/-- What stands at the path, if there is something; a name that is too long cannot be looked up. -/
def entry? (s : FileStore) (p : Path) : Except FileFailure (Option FileEntry) :=
  match s.find p with
  | .entry _ e => .ok (some e)
  | .tooLong => .error (.nameTooLong p.toString)
  | _ => .ok none

/-- Whether something stands at the path. -/
def isThere (s : FileStore) (p : Path) : Except FileFailure Bool :=
  (s.entry? p).map Option.isSome

/-- Whether the path names a directory. -/
def isDirectory (s : FileStore) (p : Path) : Except FileFailure Bool :=
  (s.entry? p).map (· == some .directory)

/-- The octets of a file. -/
def read (s : FileStore) (p : Path) : Except FileFailure (List UInt8) :=
  match s.find p with
  | .entry _ (.file octets) => .ok octets
  | .entry _ .directory => .error (.isDirectory p.toString)
  | .missing => .error (.notFound p.toString)
  | .blocked => .error (.notDirectory p.toString)
  | .tooLong => .error (.nameTooLong p.toString)
  | .unnamable => .error .badName

/-- The parts of a name below a directory. -/
def partsBelow (directory name : List String) : Option (List String) :=
  if directory.isPrefixOf name then
    match name.drop directory.length with
    | [] => none
    | part :: rest => if leadsOut part then none else some (part :: rest)
  else none

/-- What stands below a directory, with the paths there, in the order of the store. -/
def entriesBelow (s : FileStore) (p : Path) : List (Path × FileEntry) :=
  match s.find p with
  | .entry parts .directory =>
    s.entries.filterMap fun (name, e) =>
      (partsBelow parts name).map fun below => ({ p with parts := p.parts ++ below }, e)
  | _ => []

/-- The paths of the files below a directory, in the order of the store.  Everything there is looked
up, so none of the paths may be too long. -/
def filesBelow (s : FileStore) (p : Path) : Except FileFailure (List Path) :=
  match (s.entriesBelow p).find? fun (path, _) => isTooLong path with
  | some (path, _) => .error (.nameTooLong path.toString)
  | none =>
    .ok ((s.entriesBelow p).filterMap fun (path, e) =>
      match e with
      | .file _ => some path
      | .directory => none)

end FileStore

/-- Why a text cannot be read from a file. -/
inductive ReadFailure
  | file (e : FileFailure)
  | decoding (e : Text.Utf8.Invalid)
  deriving Repr, DecidableEq

/-- The text of the failure. -/
def ReadFailure.message : ReadFailure → String
  | .file e => e.message
  | .decoding e => e.message

namespace FileStore

/-- The characters of a file, with line feeds as line breaks. -/
def decoded (decode : List UInt8 → Except Text.Utf8.Invalid (List Char)) (s : FileStore)
    (p : Path) : Except ReadFailure (List Char) := do
  let octets ← (s.read p).mapError .file
  let cs ← (decode octets).mapError .decoding
  return Text.Utf8.universalNewlines cs

/-- The text of a file. -/
def readText (s : FileStore) (p : Path) : Except ReadFailure String :=
  (s.decoded Text.Utf8.decode p).map String.ofList

/-- The text of a file that may begin with a mark of order. -/
def readMarkedText (s : FileStore) (p : Path) : Except ReadFailure String :=
  (s.decoded Text.Utf8.decodeMarked p).map String.ofList

/-- The number of octets of a piece of a document. -/
def pieceSize : Nat := 8192

/-- The text of a document, which is read in pieces, up to the first that is invalid. -/
def readDocument (s : FileStore) (p : Path) :
    Except FileFailure (List Char × Option Text.Utf8.Invalid) := do
  let (cs, e) := Text.Utf8.decodeChunks pieceSize (← s.read p)
  return (Text.Utf8.universalNewlines cs, e)

end FileStore

end ModifierLint
