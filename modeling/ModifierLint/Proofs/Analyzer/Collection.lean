/-
# Collecting files

An argument that is a directory stands for the files below it that some plugin handles, in order,
and any other argument for itself, whether there is a file or not (`Analyzer.Expands`).  What is
collected are the first occurrences of what the arguments stand for, so the order of the arguments
decides on the order of the files only, and an argument that stands for nothing new adds nothing.

All this needs is that the arguments can be looked up, and what is below them.  A name that is longer
than names can be cannot, and then no file is collected (`Analyzer.collectFiles_expansions`).
-/
import Mathlib.Data.List.Forall2
import ModifierLint.Proofs.Check.Order
import ModifierLint.Proofs.CommandLine.ExitCode
import ModifierLint.Proofs.FirstOccurrences

namespace ModifierLint

/-! ## The order of paths -/

namespace Path

theorem partsLe_total : ∀ as bs : List String, (partsLe as bs || partsLe bs as) = true
  | [], _ => rfl
  | _ :: _, [] => rfl
  | a :: as, b :: bs => by
      unfold partsLe
      by_cases same : a = b
      · rw [if_pos same, if_pos same.symm]
        exact partsLe_total as bs
      · rw [if_neg same, if_neg (Ne.symm same)]
        simpa using lt_or_gt_of_ne same

theorem partsLe_trans : ∀ as bs cs : List String, partsLe as bs = true → partsLe bs cs = true →
    partsLe as cs = true
  | [], _, _, _, _ => by
      unfold partsLe
      rfl
  | _ :: _, [], _, first, _ => by cases first
  | _ :: _, _ :: _, [], _, second => by cases second
  | a :: as, b :: bs, c :: cs, first, second => by
      unfold partsLe at first second ⊢
      by_cases ab : a = b
      · subst ab
        rw [if_pos rfl] at first
        by_cases bc : a = c
        · rw [if_pos bc] at second ⊢
          exact partsLe_trans as bs cs first second
        · rw [if_neg bc] at second ⊢
          exact second
      · rw [if_neg ab] at first
        by_cases bc : b = c
        · subst bc
          rw [if_neg ab]
          exact first
        · rw [if_neg bc] at second
          have less := lt_trans (of_decide_eq_true first) (of_decide_eq_true second)
          rw [if_neg less.ne]
          exact decide_eq_true less

/-- Paths are compared part by part. -/
theorem weakOrder : WeakOrder Path.le :=
  ⟨fun _ _ _ => partsLe_trans _ _ _, fun _ _ => partsLe_total _ _⟩

end Path

namespace Analyzer

/-! ## Expansions -/

/-- What an argument stands for: a directory for the files below it that some plugin handles, in
order, and anything else for itself. -/
inductive Expands (a : Analyzer) (files : FileStore) (text : String) : List Path → Prop
  | itself (lookup : ∀ parts, files.find (.ofString text) ≠ .entry parts .directory) :
      Expands a files text [.ofString text]
  | below {parts : List String} {l : List Path}
      (lookup : files.find (.ofString text) = .entry parts .directory)
      (members : ∀ p, p ∈ l ↔ .str p.suffix ∈ a.registry.supported ∧
        ∃ below, files.HasBelow parts below ∧
          p = { Path.ofString text with parts := (Path.ofString text).parts ++ below })
      (sorted : l.Pairwise fun p q => p.le q = true)
      (once : l.Nodup) : Expands a files text l

variable {a : Analyzer} {files : FileStore} {paths : List String} {text : String}

theorem listing_expands (a : Analyzer) (files : FileStore) (text : String) :
    a.Expands files text (a.listing files text) := by
  unfold listing
  by_cases directory : files.isDirectory (.ofString text) = .ok true
  · obtain ⟨parts, lookup⟩ := FileStore.isDirectory_iff.1 directory
    rw [if_pos directory]
    refine .below lookup (fun p => ?_)
      (List.pairwise_mergeSort Path.weakOrder.trans Path.weakOrder.total _) ?_
    · have handled : a.registry.supported.any (Value.sameKey · (.str p.suffix)) = true ↔
          .str p.suffix ∈ a.registry.supported := by
        simp [List.any_eq_true, Value.sameKey_str]
      rw [List.mem_mergeSort, List.mem_filter, handled, FileStore.mem_pathsBelow lookup, and_comm]
    · exact (List.mergeSort_perm _ _).nodup_iff.2 ((files.nodup_pathsBelow _).filter _)
  · rw [if_neg directory]
    exact .itself fun parts lookup => directory (FileStore.isDirectory_iff.2 ⟨parts, lookup⟩)

/-- The expansions of an argument hold the same files. -/
theorem Expands.mem_iff {l l' : List Path} (expands : a.Expands files text l)
    (expands' : a.Expands files text l') (p : Path) : p ∈ l ↔ p ∈ l' := by
  cases expands with
  | itself lookup =>
      cases expands' with
      | itself => rfl
      | below lookup' => exact absurd lookup' (lookup _)
  | below lookup members =>
      cases expands' with
      | itself lookup' => exact absurd lookup (lookup' _)
      | below lookup' members' =>
          cases lookup.symm.trans lookup'
          rw [members, members']

/-! ## Collections -/

/-- Some argument stands for the file. -/
theorem mem_collection {p : Path} :
    p ∈ (paths.map (a.listing files)).flatten.eraseDups ↔
      ∃ text ∈ paths, p ∈ a.listing files text := by
  rw [List.mem_eraseDups, ← List.flatMap_def, List.mem_flatMap]

/-- The order of the arguments bears on the order of the files only. -/
theorem collectFiles_perm {r : List Path} {paths' : List String}
    (reach : ∀ text ∈ paths, files.InReach (.ofString text))
    (collected : a.collectFiles files paths = .ok r) (same : paths'.Perm paths) :
    ∃ r', a.collectFiles files paths' = .ok r' ∧ r'.Perm r := by
  rw [collectFiles_of_inReach reach] at collected
  cases collected
  refine ⟨_, collectFiles_of_inReach fun text member => reach text (same.mem_iff.1 member), ?_⟩
  refine (List.perm_ext_iff_of_nodup (nodup_eraseDups _) (nodup_eraseDups _)).2 fun p => ?_
  rw [mem_collection, mem_collection]
  simp only [same.mem_iff]

/-- An argument that stands for nothing new adds nothing. -/
theorem collectFiles_of_covered {r l : List Path}
    (reach : ∀ text ∈ paths, files.InReach (.ofString text))
    (collected : a.collectFiles files paths = .ok r) (reach' : files.InReach (.ofString text))
    (expands : a.Expands files text l) (covered : l ⊆ r) :
    a.collectFiles files (paths ++ [text]) = .ok r := by
  rw [collectFiles_of_inReach reach] at collected
  cases collected
  have all : ∀ t ∈ paths ++ [text], files.InReach (.ofString t) := by
    rw [List.forall_mem_append, List.forall_mem_singleton]
    exact ⟨reach, reach'⟩
  have nothing : a.listing files text ⊆ (paths.map (a.listing files)).flatten := by
    intro p member
    have old := covered (((listing_expands a files text).mem_iff expands p).1 member)
    exact List.mem_eraseDups.1 old
  rw [collectFiles_of_inReach all, List.map_append, List.flatten_append]
  simp only [List.map_cons, List.map_nil, List.flatten_cons, List.flatten_nil, List.append_nil]
  rw [eraseDups_append_of_subset nothing]

/-- **What is collected are the first occurrences of what the arguments stand for**, if they and what
is below them can be looked up: permuting them permutes the files, and one that stands for nothing
new adds nothing.  Nothing is collected if something there has a name that is too long. -/
theorem collectFiles_expansions (a : Analyzer) (files : FileStore) (paths : List String) :
    ((∀ text ∈ paths, files.InReach (.ofString text)) →
      ∃ lists r, List.Forall₂ (a.Expands files) paths lists ∧
        a.collectFiles files paths = .ok r ∧ FirstOccurrences lists.flatten r ∧
        (∀ paths', paths'.Perm paths →
          ∃ r', a.collectFiles files paths' = .ok r' ∧ r'.Perm r) ∧
        ∀ text l, files.InReach (.ofString text) → a.Expands files text l → l ⊆ r →
          a.collectFiles files (paths ++ [text]) = .ok r) ∧
    ((∃ text ∈ paths, ¬ files.InReach (.ofString text)) →
      ∃ path, a.collectFiles files paths = .error (.nameTooLong path)) := by
  refine ⟨fun reach => ?_, (a.collectFiles_cases files paths).2⟩
  have collected := collectFiles_of_inReach (a := a) reach
  refine ⟨_, _, ?_, collected, firstOccurrences_eraseDups _,
    fun _ same => collectFiles_perm reach collected same,
    fun _ _ reach' expands covered =>
      collectFiles_of_covered reach collected reach' expands covered⟩
  exact List.forall₂_map_right_iff.2 <| List.forall₂_same.2 fun text _ =>
    listing_expands a files text

/-- A directory that is named twice is collected once. -/
theorem collectFiles_expansions_of_directory :
    let a : Analyzer := ⟨.bundled, {}, 4, fun _ => none, []⟩
    let files : FileStore := { entries := [(["src", "A.java"], .file [])] }
    ∃ r, a.collectFiles files ["src"] = .ok r ∧ a.collectFiles files ["src", "src"] = .ok r := by
  intro a files
  have lookup : files.InReach (.ofString "src") := by
    have below : files.entriesBelow ⟨"", ["src"]⟩ = [(⟨"", ["src", "A.java"]⟩, .file [])] := by
      decide +kernel
    rw [Path.ofString_of_plain (by decide) (by decide) (by decide)]
    refine ⟨nofun, ?_⟩
    rw [below, List.forall_mem_singleton]
    decide
  have reach : ∀ text ∈ ["src"], files.InReach (.ofString text) := List.forall_mem_singleton.2 lookup
  obtain ⟨lists, r, expansions, collected, occurrences, -, again⟩ :=
    (collectFiles_expansions a files ["src"]).1 reach
  obtain ⟨l, rest, expands, none, rfl⟩ := List.forall₂_cons_left_iff.1 expansions
  cases none
  refine ⟨r, collected, again "src" l lookup expands fun p member => ?_⟩
  exact (occurrences.members p).2 (List.mem_append_left _ member)

/-- A file that is not there, with a name of 256 letters, stands for itself but is not collected. -/
theorem longName_uncollected :
    let a : Analyzer := ⟨.bundled, {}, 4, fun _ => none, []⟩
    let text := Invocation.longName 256
    a.Expands {} text [.ofString text] ∧
      (∃ path, a.collectFiles {} [text] = .error (.nameTooLong path)) ∧
      ¬∀ (a : Analyzer) (files : FileStore) (paths : List String),
        ∃ lists r, List.Forall₂ (a.Expands files) paths lists ∧
          a.collectFiles files paths = .ok r ∧ FirstOccurrences lists.flatten r := by
  intro a text
  have long : FileStore.find {} (.ofString text) = .tooLong := by
    refine FileStore.find_of_longName {} (Invocation.not_mem_longName (by decide))
      (Invocation.not_mem_longName (by decide)) ?_
    rw [Invocation.utf8ByteSize_longName]
    decide
  obtain ⟨path, lost⟩ :=
    (a.collectFiles_cases {} [text]).2
      ⟨text, List.mem_singleton_self text, fun reach => reach.itself long⟩
  refine ⟨.itself fun parts other => ?_, ⟨path, lost⟩, fun claimed => ?_⟩
  · cases long.symm.trans other
  · obtain ⟨lists, r, -, collected, -⟩ := claimed a {} [text]
    cases lost.symm.trans collected

end Analyzer

end ModifierLint
