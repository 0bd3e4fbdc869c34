/-
# Reading paths

A text is made a path by splitting it at its slashes.  The splitting runs along positions in the
text; `Path.splitOn_slash` says that it splits the list of characters, and with it paths can be read
off texts by evaluation.
-/
import Mathlib.Data.String.Basic
import ModifierLint.Files.Path

namespace ModifierLint.Path

open String

/-- Splitting at slashes, from a place on: `l` has been split off and `m` is the piece so far. -/
theorem splitOnAux_slash (r : List Char) : ∀ (l m : List Char) (pieces : List String),
    (ofList (l ++ m ++ r)).splitOnAux "/" ⟨utf8Len l⟩ ⟨utf8Len l + utf8Len m⟩ 0 pieces =
      pieces.reverse ++ (List.splitOnPPrepend (· == '/') r m.reverse).map ofList := by
  induction r with
  | nil =>
      intro l m pieces
      have done : Pos.Raw.atEnd (ofList (l ++ m ++ [])) ⟨utf8Len l + utf8Len m⟩ = true := by
        simp only [List.append_nil, atEnd_iff, rawEndPos_ofList, utf8Len_append]
        exact Nat.le_refl _
      have piece := extract_of_valid l m []
      rw [splitOnAux, if_pos done, piece]
      simp
  | cons c r ih =>
      intro l m pieces
      have more : ¬ Pos.Raw.atEnd (ofList (l ++ m ++ c :: r)) ⟨utf8Len l + utf8Len m⟩ = true := by
        have := c.utf8Size_pos
        simp only [atEnd_iff, rawEndPos_ofList, utf8Len_append, utf8Len_cons, Pos.Raw.mk_le_mk]
        omega
      have here := get_of_valid (l ++ m) (c :: r)
      have next := next_of_valid (l ++ m) c r
      have slash : Pos.Raw.get "/" 0 = '/' := rfl
      have whole : Pos.Raw.atEnd "/" (Pos.Raw.next "/" 0) = true := rfl
      rw [utf8Len_append] at here next
      rw [splitOnAux, if_neg more, here, slash, List.headD_cons]
      by_cases split : c = '/'
      · subst split
        have piece := extract_of_valid l m ('/' :: r)
        have later := ih (l ++ m ++ ['/']) [] (ofList m :: pieces)
        have back : Pos.Raw.unoffsetBy ⟨utf8Len l + utf8Len m + Char.utf8Size '/'⟩
            (Pos.Raw.next "/" 0) = ⟨utf8Len l + utf8Len m⟩ := rfl
        have length : utf8Len (l ++ m ++ ['/']) = utf8Len l + utf8Len m + Char.utf8Size '/' := by
          rw [utf8Len_append, utf8Len_append, utf8Len_cons, utf8Len_nil, Nat.zero_add]
        rw [length, utf8Len_nil, Nat.add_zero, List.append_nil, List.append_assoc _ ['/'] r,
          List.singleton_append] at later
        rw [if_pos (beq_self_eq_true '/')]
        simp only [next, whole, if_true]
        rw [back, piece, later, List.splitOnPPrepend_cons_eq_if]
        simp
      · have later := ih l (m ++ [c]) pieces
        have length : utf8Len (m ++ [c]) = utf8Len m + c.utf8Size := by
          rw [utf8Len_append, utf8Len_cons, utf8Len_nil, Nat.zero_add]
        rw [length, ← Nat.add_assoc, ← List.append_assoc, List.append_assoc _ [c] r,
          List.singleton_append] at later
        have other : (c == '/') = false := beq_false_of_ne split
        have stay : Pos.Raw.unoffsetBy ⟨utf8Len l + utf8Len m⟩ 0 = ⟨utf8Len l + utf8Len m⟩ := rfl
        rw [other, if_neg Bool.false_ne_true, stay, next, later, List.splitOnPPrepend_cons_eq_if]
        simp [other]

/-- The parts between slashes. -/
theorem splitOn_slash (s : String) :
    s.splitOn "/" = (s.toList.splitOnP (· == '/')).map ofList := by
  have split := splitOnAux_slash s.toList [] [] []
  have apart : ¬ ("/" == "") = true := by decide
  rw [List.nil_append, List.nil_append, ofList_toList] at split
  rw [splitOn, if_neg apart]
  exact split

/-- The path that a text names, by its characters. -/
theorem ofString_eq (s : String) : ofString s =
    { root := rootOf s.toList
      parts := ((s.toList.splitOnP (· == '/')).map ofList).filter
        fun part => part ≠ "" && part ≠ "." } := by
  rw [ofString, splitOn_slash]

/-- A text without slashes that is not a dot names the path with the text as its one part. -/
theorem ofString_of_plain {name : String} (plain : '/' ∉ name.toList) (full : name ≠ "")
    (named : name ≠ ".") : ofString name = ⟨"", [name]⟩ := by
  have whole : name.toList.splitOnP (· == '/') = [name.toList] :=
    List.splitOnP_eq_singleton fun c there => beq_false_of_ne fun slash => plain (slash ▸ there)
  have rootless : name.toList.takeWhile (· = '/') = [] := by
    cases cs : name.toList with
    | nil => rfl
    | cons c rest =>
        have other : c ≠ '/' := fun slash => plain (by rw [cs, slash]; exact List.mem_cons_self)
        rw [List.takeWhile_cons_of_neg (by simpa using other)]
  rw [ofString_eq, whole, rootOf, rootless]
  simp [full, named]

end ModifierLint.Path
