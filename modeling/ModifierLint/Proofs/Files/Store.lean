/-
# What stands below a directory

A path can be looked up unless it or a name in it is too long (`FileStore.isDirectory_cases`).  For a
directory this goes for everything below it, too: `FileStore.InReach` says that nothing there has a
path that is too long, and then the files below are listed, each once (`filesBelow_of_inReach`,
`nodup_pathsBelow`).

A store holds names only, and nothing below a file.  So what is listed below a directory is found by
its path, and can be read (`find_below`, `read_of_mem_filesBelow`).
-/
import Mathlib.Data.List.Pairwise
import ModifierLint.Files.Store

namespace ModifierLint

/-! ## The characters of a path -/

/-- Characters of joined texts are characters of the texts or of what stands between them. -/
theorem mem_intercalate {α : Type} {gap : List α} {c : α} (other : c ∉ gap) :
    ∀ {texts : List (List α)}, c ∈ gap.intercalate texts ↔ ∃ text ∈ texts, c ∈ text
  | [] => by simp
  | [text] => by simp
  | text :: second :: texts => by
      rw [List.intercalate_cons_cons, List.mem_append, List.mem_append, mem_intercalate other]
      simp [other]

/-- The characters of a path are those of its root and of its parts, slashes and dots apart. -/
theorem Path.mem_toString {p : Path} {c : Char} (slash : c ≠ '/') (dot : c ≠ '.') :
    c ∈ p.toString.toList ↔ c ∈ p.root.toList ∨ ∃ part ∈ p.parts, c ∈ part.toList := by
  unfold toString
  split
  · next empty =>
      rw [Bool.and_eq_true, String.isEmpty_iff, List.isEmpty_iff] at empty
      rw [empty.1, empty.2]
      simp [dot]
  · have gap : c ∉ "/".toList := by simpa using slash
    rw [String.toList_append, List.mem_append, String.toList_intercalate, mem_intercalate gap]
    simp

namespace FileStore

variable {s : FileStore} {parts name below : List String} {directory p : Path} {e : FileEntry}

/-! ## Looking up -/

/-- A path can be looked up unless a name in it is too long. -/
theorem isDirectory_cases (s : FileStore) (p : Path) :
    s.find p ≠ .tooLong ∧ (∃ b, s.isDirectory p = .ok b) ∨
    s.find p = .tooLong ∧ s.isDirectory p = .error (.nameTooLong p.toString) := by
  unfold isDirectory entry?
  cases s.find p with
  | tooLong => exact .inr ⟨rfl, rfl⟩
  | entry | missing | blocked | unnamable => exact .inl ⟨nofun, _, rfl⟩

theorem isDirectory_iff :
    s.isDirectory p = .ok true ↔ ∃ parts, s.find p = .entry parts .directory := by
  unfold isDirectory entry?
  cases s.find p with
  | missing | blocked | tooLong | unnamable => exact ⟨nofun, nofun⟩
  | entry parts entry =>
      cases entry with
      | file => exact ⟨nofun, nofun⟩
      | directory => exact ⟨fun _ => ⟨parts, rfl⟩, fun _ => rfl⟩

/-! ## Entries of a store -/

/-- Entries that differ leave room for each other. -/
theorem excludes_of_ne {a b : List String × FileEntry} (here : a ∈ s.entries)
    (there : b ∈ s.entries) (other : a ≠ b) : excludes a b = false := by
  have symmetric : Std.Symm fun a b : List String × FileEntry =>
      excludes a b = false ∧ excludes b a = false := ⟨fun _ _ => And.symm⟩
  exact (s.apart.forall here there other).1

theorem excludes_same (name : List String) (e e' : FileEntry) :
    excludes (name, e) (name, e') = true := by
  cases e with
  | file octets => exact List.isPrefixOf_iff_prefix.2 (List.prefix_refl name)
  | directory => exact decide_eq_true rfl

/-- The entry of a name is found under it. -/
theorem lookup_of_mem (member : (name, e) ∈ s.entries) : s.entries.lookup name = some e := by
  obtain ⟨before, after, split⟩ := List.append_of_mem member
  have apart := s.apart
  rw [split, List.pairwise_append] at apart
  refine List.lookup_eq_some_iff.2 ⟨before, after, split, fun earlier there => ?_⟩
  have room := (apart.2.2 earlier there (name, e) List.mem_cons_self).1
  rw [bne_iff_ne]
  rintro rfl
  rw [excludes_same] at room
  cases room

/-- Above an entry there are directories. -/
theorem at?_above (member : (name, e) ∈ s.entries) (above : parts <+: name) (other : parts ≠ name) :
    s.at? parts = some .directory := by
  have inside : (s.entries.any fun entry => parts.isPrefixOf entry.1) = true :=
    List.any_eq_true.2 ⟨_, member, List.isPrefixOf_iff_prefix.2 above⟩
  unfold at?
  by_cases empty : parts.isEmpty = true
  · rw [if_pos empty]
  · rw [if_neg empty]
    cases found : s.entries.lookup parts with
    | none => exact if_pos inside
    | some e' =>
        cases e' with
        | directory => rfl
        | file octets =>
            obtain ⟨before, after, split, -⟩ := List.lookup_eq_some_iff.1 found
            have there : (parts, FileEntry.file octets) ∈ s.entries := by
              rw [split]
              exact List.mem_append_right _ List.mem_cons_self
            have room := excludes_of_ne there member fun same => other (congrArg Prod.fst same)
            exact absurd (List.isPrefixOf_iff_prefix.2 above) (Bool.eq_false_iff.1 room)

/-! ## What is below -/

/-- What is below a directory begins with a name there: nothing leads out of it. -/
def Inward (below : List String) : Prop :=
  ∃ part rest, below = part :: rest ∧ leadsOut part = false

/-- A file of the store is `below` the directory at `parts`. -/
def HasBelow (s : FileStore) (parts below : List String) : Prop :=
  Inward below ∧ ∃ octets, (parts ++ below, .file octets) ∈ s.entries

theorem partsBelow_eq_some_iff : partsBelow parts name = some below ↔
    name = parts ++ below ∧ Inward below := by
  unfold partsBelow
  by_cases starts : parts.isPrefixOf name = true
  · obtain ⟨tail, rfl⟩ := List.isPrefixOf_iff_prefix.1 starts
    rw [if_pos starts, List.drop_left, List.append_cancel_left_eq]
    cases tail with
    | nil =>
        refine ⟨nofun, ?_⟩
        rintro ⟨rfl, _, _, ⟨⟩, -⟩
    | cons part rest =>
        dsimp only
        by_cases out : leadsOut part = true
        · rw [if_pos out]
          refine ⟨nofun, ?_⟩
          rintro ⟨rfl, _, _, ⟨⟩, inward⟩
          rw [out] at inward
          cases inward
        · rw [if_neg out]
          constructor
          · rintro ⟨⟩
            exact ⟨rfl, part, rest, rfl, Bool.eq_false_iff.2 out⟩
          · rintro ⟨rfl, -⟩
            rfl
  · rw [if_neg starts]
    refine ⟨nofun, ?_⟩
    rintro ⟨rfl, -⟩
    exact absurd (List.isPrefixOf_iff_prefix.2 (List.prefix_append parts below)) starts

theorem mem_entriesBelow (lookup : s.find directory = .entry parts .directory)
    (entry : Path × FileEntry) : entry ∈ s.entriesBelow directory ↔
      ∃ below, Inward below ∧ (parts ++ below, entry.2) ∈ s.entries ∧
        entry.1 = { directory with parts := directory.parts ++ below } := by
  obtain ⟨p, e⟩ := entry
  unfold entriesBelow
  rw [lookup]
  simp only [List.mem_filterMap]
  constructor
  · rintro ⟨⟨name, e'⟩, member, named⟩
    obtain ⟨below, split, same⟩ := Option.map_eq_some_iff.1 named
    obtain ⟨rfl, inward⟩ := partsBelow_eq_some_iff.1 split
    cases same
    exact ⟨below, inward, member, rfl⟩
  · rintro ⟨below, inward, member, rfl⟩
    exact ⟨_, member, Option.map_eq_some_iff.2
      ⟨below, partsBelow_eq_some_iff.2 ⟨rfl, inward⟩, rfl⟩⟩

/-- The paths of the files below a directory, if none is too long. -/
def pathsBelow (s : FileStore) (p : Path) : List Path :=
  (s.entriesBelow p).filterMap fun (path, e) =>
    match e with
    | .file _ => some path
    | .directory => none

/-- The paths of the files below a directory. -/
theorem mem_pathsBelow (lookup : s.find directory = .entry parts .directory) :
    p ∈ s.pathsBelow directory ↔
      ∃ below, s.HasBelow parts below ∧
        p = { directory with parts := directory.parts ++ below } := by
  unfold pathsBelow
  rw [List.mem_filterMap]
  constructor
  · rintro ⟨⟨path, e⟩, member, named⟩
    obtain ⟨below, inward, there, rfl⟩ := (mem_entriesBelow lookup _).1 member
    cases e with
    | directory => cases named
    | file octets =>
        cases named
        exact ⟨below, ⟨inward, octets, there⟩, rfl⟩
  · rintro ⟨below, ⟨inward, octets, there⟩, rfl⟩
    exact ⟨(_, .file octets), (mem_entriesBelow lookup _).2 ⟨below, inward, there, rfl⟩, rfl⟩

/-- No file is listed twice. -/
theorem nodup_pathsBelow (s : FileStore) (directory : Path) : (s.pathsBelow directory).Nodup := by
  have apart : (s.entriesBelow directory).Pairwise fun a b => a.1 ≠ b.1 := by
    unfold entriesBelow
    split
    · refine List.pairwise_filterMap.2 (s.apart.imp ?_)
      rintro ⟨name, e⟩ ⟨name', e'⟩ room entry named entry' named' same
      obtain ⟨below, split, rfl⟩ := Option.map_eq_some_iff.1 named
      obtain ⟨below', split', rfl⟩ := Option.map_eq_some_iff.1 named'
      obtain rfl : below = below' := List.append_cancel_left (congrArg Path.parts same)
      rw [(partsBelow_eq_some_iff.1 split).1, (partsBelow_eq_some_iff.1 split').1,
        excludes_same] at room
      cases room.1
    · exact List.Pairwise.nil
  refine List.pairwise_filterMap.2 (apart.imp ?_)
  rintro ⟨path, e⟩ ⟨path', e'⟩ other p named p' named'
  cases e with
  | directory => cases named
  | file octets =>
      cases e' with
      | directory => cases named'
      | file octets' =>
          cases named
          cases named'
          exact other

/-! ## Listing -/

/-- The path can be looked up, and so can what stands below it. -/
structure InReach (s : FileStore) (p : Path) : Prop where
  itself : s.find p ≠ .tooLong
  below : ∀ entry ∈ s.entriesBelow p, isTooLong entry.1 = false

theorem filesBelow_of_inReach (reach : s.InReach p) : s.filesBelow p = .ok (s.pathsBelow p) := by
  have short : ((s.entriesBelow p).find? fun (path, _) => isTooLong path) = none :=
    List.find?_eq_none.2 fun entry there => Bool.eq_false_iff.1 (reach.below entry there)
  unfold filesBelow
  rw [short]
  rfl

/-- Nothing is listed if the path of something below is too long. -/
theorem filesBelow_of_tooLong {entry : Path × FileEntry} (there : entry ∈ s.entriesBelow p)
    (long : isTooLong entry.1 = true) : ∃ path, s.filesBelow p = .error (.nameTooLong path) := by
  unfold filesBelow
  cases found : (s.entriesBelow p).find? fun (path, _) => isTooLong path with
  | none => exact absurd long (List.find?_eq_none.1 found entry there)
  | some first => exact ⟨_, rfl⟩

/-- Only directories have something below them. -/
theorem isDirectory_of_mem_entriesBelow {entry : Path × FileEntry}
    (there : entry ∈ s.entriesBelow p) : s.isDirectory p = .ok true := by
  rw [isDirectory_iff]
  unfold entriesBelow at there
  split at there
  · next parts lookup => exact ⟨parts, lookup⟩
  · cases there

/-! ## Finding what is listed -/

/-- A part that does not lead up is looked up where the walk is. -/
theorem walk_of_ne {part : String} (down : part ≠ "..") (here rest : List String) :
    s.walk here (part :: rest) =
      if part.utf8ByteSize > longestPart then .tooLong
      else
        match s.at? (part :: here).reverse with
        | none => .missing
        | some .directory => s.walk (part :: here) rest
        | some (.file octets) =>
          if rest.isEmpty then .entry (part :: here).reverse (.file octets) else .blocked := by
  cases here with
  | nil =>
      rw [walk]
      exact if_neg down
  | cons inner outer =>
      rw [walk]
      exact if_neg down

/-- A walk that ends at a directory goes on from there. -/
theorem walk_append {second : List String} : ∀ {first here : List String},
    s.walk here first = .entry parts .directory →
      s.walk here (first ++ second) = s.walk parts.reverse second
  | [], here, walked => by
      rw [walk] at walked
      cases walked
      rw [List.reverse_reverse, List.nil_append]
  | part :: rest, here, walked => by
      rw [List.cons_append]
      by_cases up : part = ".."
      · cases here with
        | nil =>
            rw [walk, if_pos up] at walked ⊢
            exact walk_append walked
        | cons inner outer =>
            rw [walk, if_pos up] at walked ⊢
            split at walked
            · next out =>
                rw [if_pos out]
                exact walk_append walked
            · next out =>
                rw [if_neg out]
                exact walk_append walked
      · rw [walk_of_ne up] at walked ⊢
        split at walked
        · cases walked
        · next short =>
            rw [if_neg short]
            cases stands : s.at? (part :: here).reverse with
            | none =>
                rw [stands] at walked
                cases walked
            | some e =>
                rw [stands] at walked
                cases e with
                | directory => exact walk_append walked
                | file octets =>
                    dsimp only at walked
                    split at walked
                    · cases walked
                    · cases walked

/-- Names lead from a directory down to the file that they name. -/
theorem walk_below {octets : List UInt8} (member : (name, .file octets) ∈ s.entries) :
    ∀ {below here : List String}, (∀ part ∈ below, isName part = true) → below ≠ [] →
      here.reverse ++ below = name → s.walk here below = .entry name (.file octets)
  | [], _, _, some_, _ => absurd rfl some_
  | part :: rest, here, names, _, whole => by
      obtain ⟨called, others⟩ := List.forall_mem_cons.1 names
      simp only [isName, Bool.and_eq_true, Bool.not_eq_true', decide_eq_true_iff] at called
      have inward : part ≠ ".." := by
        rintro rfl
        exact absurd called.1.1 (by decide)
      have next : (part :: here).reverse ++ rest = name := by
        rw [List.reverse_cons, List.append_assoc]
        exact whole
      rw [walk_of_ne inward, if_neg (Nat.not_lt.2 called.2)]
      cases rest with
      | nil =>
          rw [List.append_nil] at next
          have stands : s.at? (part :: here).reverse = some (.file octets) := by
            unfold at?
            rw [if_neg (by simp), next, lookup_of_mem member]
          rw [stands, next]
          rfl
      | cons second rest =>
          have above : (part :: here).reverse <+: name := ⟨second :: rest, next⟩
          have other : (part :: here).reverse ≠ name := by
            intro same
            rw [← next, List.self_eq_append_right] at same
            cases same
          rw [at?_above member above other]
          exact walk_below member others (List.cons_ne_nil _ _) next

/-- What is below a directory consists of names. -/
theorem isName_of_below (inward : Inward below) (member : (parts ++ below, e) ∈ s.entries) :
    ∀ part ∈ below, isName part = true := by
  obtain ⟨first, rest, rfl, stays⟩ := inward
  have placed := s.placed _ member
  simp only [isPlace, Bool.and_eq_true] at placed
  have named := placed.2
  rw [List.dropWhile_append, List.dropWhile_cons_of_neg (by rw [stays]; exact Bool.false_ne_true)]
    at named
  intro part there
  split at named
  · exact List.all_eq_true.1 named part there
  · exact List.all_eq_true.1 named part (List.mem_append_right _ there)

/-- A file below a directory is found by its path. -/
theorem find_below {octets : List UInt8} (lookup : s.find directory = .entry parts .directory)
    (inward : Inward below) (member : (parts ++ below, .file octets) ∈ s.entries)
    (short : isTooLong { directory with parts := directory.parts ++ below } = false) :
    s.find { directory with parts := directory.parts ++ below } =
      .entry (parts ++ below) (.file octets) := by
  have names := isName_of_below inward member
  have some_ : below ≠ [] := by
    obtain ⟨first, rest, rfl, -⟩ := inward
    exact List.cons_ne_nil _ _
  unfold find at lookup ⊢
  split at lookup
  · cases lookup
  · next printable =>
      split at lookup
      · cases lookup
      · have named : ¬({ directory with parts := directory.parts ++ below } :
            Path).toString.toList.contains '\x00' = true := by
          rw [List.contains_iff_mem, Path.mem_toString (by decide) (by decide)] at printable ⊢
          rintro (root | ⟨part, there, nul⟩)
          · exact printable (.inl root)
          · rcases List.mem_append.1 there with old | new
            · exact printable (.inr ⟨part, old, nul⟩)
            · have called := names part new
              simp only [isName, Bool.and_eq_true, Bool.not_eq_true'] at called
              have free := List.any_eq_false.1 called.1.2 _ nul
              simp at free
        rw [if_neg named, if_neg (Bool.eq_false_iff.1 short)]
        dsimp only
        rw [walk_append lookup]
        exact walk_below member names some_ (by rw [List.reverse_reverse])

/-- What is listed below a directory can be read. -/
theorem read_of_mem_filesBelow {paths : List Path} (listed : s.filesBelow directory = .ok paths)
    (there : p ∈ paths) : ∃ octets, s.read p = .ok octets := by
  unfold filesBelow at listed
  cases long : (s.entriesBelow directory).find? fun (path, _) => isTooLong path with
  | some first =>
      rw [long] at listed
      cases listed
  | none =>
      rw [long] at listed
      cases listed
      obtain ⟨entry, member, -⟩ := List.mem_filterMap.1 there
      obtain ⟨parts, lookup⟩ := isDirectory_iff.1 (isDirectory_of_mem_entriesBelow member)
      obtain ⟨below, ⟨inward, octets, stored⟩, rfl⟩ := (mem_pathsBelow lookup).1 there
      have short := List.find?_eq_none.1 long _
        ((mem_entriesBelow lookup (_, .file octets)).2 ⟨below, inward, stored, rfl⟩)
      refine ⟨octets, ?_⟩
      rw [read, find_below lookup inward stored (Bool.eq_false_iff.2 short)]

end FileStore

end ModifierLint
