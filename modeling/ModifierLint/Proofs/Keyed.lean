/-
# What writing and removing entries does to a mapping

A mapping is a list of entries, and looking a key up finds the first entry of that key.  If no key
occurs twice, writing changes what is found under one key (`find?_put`), removing takes one key away
(`find?_remove`), and both leave every key there once (`nodup_put`, `nodup_remove`).

Writing many entries one after the other (`putAll`) leaves of each key the last value
(`find?_putAll`) and the keys in the order in which they came first (`keys_putAll`); entries with
different keys stay as they are (`putAll_of_nodup`).

Tests and comparisons of keys are arguments of the functions.  Here each of them stands for equality
with one key, which is what the hypotheses say.
-/
import Mathlib.Data.List.Induction
import ModifierLint.Keyed
import ModifierLint.Proofs.FirstOccurrences

namespace ModifierLint.Keyed

variable {κ ν : Type} {same : κ → κ → Bool} {test : κ → Bool} {key target : κ} {value : ν}

/-! ## Keys -/

theorem mem_keys_iff (names : ∀ k, test k = true ↔ k = target) : ∀ {entries : List (κ × ν)},
    target ∈ keys entries ↔ ∃ v, find? test entries = some v
  | [] => by
      constructor
      · intro member
        cases member
      · rintro ⟨v, found⟩
        cases found
  | (k, v) :: rest => by
      rw [keys, List.map_cons, List.mem_cons, find?]
      by_cases here : test k = true
      · rw [if_pos here, (names k).1 here]
        exact ⟨fun _ => ⟨v, rfl⟩, fun _ => .inl rfl⟩
      · rw [if_neg here]
        have other : target ≠ k := fun equal => here ((names k).2 equal.symm)
        constructor
        · rintro (equal | later)
          · exact absurd equal other
          · exact (mem_keys_iff names).1 later
        · intro found
          exact .inr ((mem_keys_iff names).2 found)

theorem mem_keys_of_mem {entry : κ × ν} {entries : List (κ × ν)} (member : entry ∈ entries) :
    entry.1 ∈ keys entries :=
  List.mem_map_of_mem member

/-- An entry that is found is an entry of the key. -/
theorem mem_of_find?_eq_some (names : ∀ k, test k = true ↔ k = target) {v : ν} :
    ∀ {entries : List (κ × ν)}, find? test entries = some v → (target, v) ∈ entries
  | [], found => by cases found
  | (k, w) :: rest, found => by
      rw [find?] at found
      by_cases here : test k = true
      · rw [if_pos here] at found
        cases found
        rw [← (names k).1 here]
        exact List.mem_cons_self
      · rw [if_neg here] at found
        exact List.mem_cons_of_mem _ (mem_of_find?_eq_some names found)

/-- Of a key that occurs once the value of its entry is found. -/
theorem find?_of_mem (names : ∀ k, test k = true ↔ k = target) {v : ν} :
    ∀ {entries : List (κ × ν)}, (keys entries).Nodup → (target, v) ∈ entries →
      find? test entries = some v
  | [], _, member => by cases member
  | (k, w) :: rest, nodup, member => by
      rw [keys, List.map_cons, List.nodup_cons] at nodup
      obtain ⟨fresh, rest_nodup⟩ := nodup
      rw [find?]
      rcases List.mem_cons.1 member with equal | later
      · cases equal
        rw [if_pos ((names target).2 rfl)]
      · have other : ¬ test k = true := by
          intro here
          rw [(names k).1 here] at fresh
          exact absurd (mem_keys_of_mem later) fresh
        rw [if_neg other]
        exact find?_of_mem names rest_nodup later

/-! ## Writing -/

/-- Writing changes what is found under the key, and nothing else. -/
theorem find?_put (compares : ∀ k, same k key = true ↔ k = key)
    (names : ∀ k, test k = true ↔ k = target) (value : ν) : ∀ entries : List (κ × ν),
    find? test (put same key value entries) =
      if test key then some value else find? test entries
  | [] => by
      rw [put, find?]
      rfl
  | (k, v) :: rest => by
      rw [put]
      by_cases here : same k key = true
      · have equal := (compares k).1 here
        subst equal
        rw [if_pos here, find?, find?]
        split
        · rfl
        · rfl
      · rw [if_neg here, find?, find?, find?_put compares names value rest]
        by_cases first : test k = true
        · have other : ¬ test key = true := by
            intro also
            exact here ((compares k).2 (((names k).1 first).trans ((names key).1 also).symm))
          rw [if_pos first, if_neg other, if_pos first]
        · rw [if_neg first, if_neg first]

/-- An entry after writing is the one that was written, or was there before. -/
theorem mem_put (compares : ∀ k, same k key = true ↔ k = key) {entry : κ × ν} :
    ∀ {entries : List (κ × ν)}, entry ∈ put same key value entries →
      entry = (key, value) ∨ entry ∈ entries
  | [], member => .inl (List.mem_singleton.1 member)
  | (k, v) :: rest, member => by
      rw [put] at member
      by_cases here : same k key = true
      · rw [if_pos here, (compares k).1 here] at member
        exact (List.mem_cons.1 member).imp_right (List.mem_cons_of_mem _)
      · rw [if_neg here] at member
        rcases List.mem_cons.1 member with rfl | later
        · exact .inr List.mem_cons_self
        · exact (mem_put compares later).imp_right (List.mem_cons_of_mem _)

/-- A key that is present keeps its place. -/
theorem keys_put_of_mem (compares : ∀ k, same k key = true ↔ k = key) :
    ∀ {entries : List (κ × ν)}, key ∈ keys entries →
      keys (put same key value entries) = keys entries
  | [], member => by cases member
  | (k, v) :: rest, member => by
      rw [put]
      by_cases here : same k key = true
      · rw [if_pos here]
        rfl
      · rw [if_neg here]
        have later : key ∈ keys rest := by
          rcases List.mem_cons.1 member with equal | later
          · exact absurd ((compares k).2 equal.symm) here
          · exact later
        exact congrArg (k :: ·) (keys_put_of_mem compares later)

/-- A new entry goes to the end. -/
theorem put_of_not_mem (compares : ∀ k, same k key = true ↔ k = key) :
    ∀ {entries : List (κ × ν)}, key ∉ keys entries →
      put same key value entries = entries ++ [(key, value)]
  | [], _ => rfl
  | (k, v) :: rest, fresh => by
      rw [put]
      have other : ¬ same k key = true := by
        intro here
        rw [(compares k).1 here] at fresh
        exact fresh List.mem_cons_self
      rw [if_neg other]
      have later : key ∉ keys rest := fun member => fresh (List.mem_cons_of_mem _ member)
      exact congrArg ((k, v) :: ·) (put_of_not_mem compares later)

/-- A new key goes to the end. -/
theorem keys_put_of_not_mem (compares : ∀ k, same k key = true ↔ k = key)
    {entries : List (κ × ν)} (fresh : key ∉ keys entries) :
    keys (put same key value entries) = keys entries ++ [key] := by
  rw [put_of_not_mem compares fresh]
  exact List.map_append

/-- However keys are compared, a key that is new goes to the end. -/
theorem keys_put (same : κ → κ → Bool) (key : κ) (value : ν) : ∀ entries : List (κ × ν),
    keys (put same key value entries) =
      if (keys entries).any (same · key) then keys entries else keys entries ++ [key]
  | [] => rfl
  | (k, v) :: rest => by
      have later := keys_put same key value rest
      have cons (value : ν) (entries : List (κ × ν)) :
          keys ((k, value) :: entries) = k :: keys entries := rfl
      rw [put]
      by_cases here : same k key = true
      · rw [if_pos here, cons, cons, List.any_cons, here, Bool.true_or, if_pos rfl]
      · rw [if_neg here, cons, cons, List.any_cons, Bool.eq_false_iff.2 here, Bool.false_or, later]
        split
        · rfl
        · rfl
theorem mem_keys_put (compares : ∀ k, same k key = true ↔ k = key) {k : κ}
    {entries : List (κ × ν)} (member : k ∈ keys (put same key value entries)) :
    k = key ∨ k ∈ keys entries := by
  obtain ⟨entry, there, rfl⟩ := List.mem_map.1 member
  rcases mem_put compares there with rfl | before
  · exact .inl rfl
  · exact .inr (mem_keys_of_mem before)

theorem nodup_put (compares : ∀ k, same k key = true ↔ k = key) :
    ∀ {entries : List (κ × ν)}, (keys entries).Nodup → (keys (put same key value entries)).Nodup
  | [], _ => List.nodup_cons.2 ⟨List.not_mem_nil, List.nodup_nil⟩
  | (k, v) :: rest, nodup => by
      rw [keys, List.map_cons, List.nodup_cons] at nodup
      obtain ⟨fresh, rest_nodup⟩ := nodup
      rw [put]
      by_cases here : same k key = true
      · rw [if_pos here, keys, List.map_cons, List.nodup_cons]
        exact ⟨fresh, rest_nodup⟩
      · rw [if_neg here, keys, List.map_cons, List.nodup_cons]
        refine ⟨?_, nodup_put compares rest_nodup⟩
        intro member
        rcases mem_keys_put compares member with equal | later
        · exact here ((compares k).2 equal)
        · exact fresh later

/-! ## Writing many entries -/

theorem putAll_append (same : κ → κ → Bool) (entries added further : List (κ × ν)) :
    putAll same entries (added ++ further) = putAll same (putAll same entries added) further :=
  List.foldl_append

theorem putAll_concat (same : κ → κ → Bool) (entries added : List (κ × ν)) (k : κ) (v : ν) :
    putAll same entries (added ++ [(k, v)]) = put same k v (putAll same entries added) :=
  putAll_append same entries added [(k, v)]

theorem find?_append (test : κ → Bool) (added : List (κ × ν)) : ∀ entries : List (κ × ν),
    find? test (entries ++ added) = (find? test entries).or (find? test added)
  | [] => rfl
  | (k, v) :: rest => by
      rw [List.cons_append, find?, find?]
      split
      · rfl
      · exact find?_append test added rest

/-- Of a key that was written the last value is found. -/
theorem find?_putAll (compares : ∀ k k', same k k' = true ↔ k = k')
    (names : ∀ k, test k = true ↔ k = target) (entries added : List (κ × ν)) :
    find? test (putAll same entries added) =
      (find? test added.reverse).or (find? test entries) := by
  induction added using List.reverseRecOn with
  | nil => rfl
  | append_singleton added entry ih =>
      obtain ⟨k, v⟩ := entry
      rw [putAll_concat, find?_put (compares · k) names, ih, List.reverse_concat, find?]
      split
      · rfl
      · rfl

/-- The last value of a key in many lists is the one in the last list that has the key. -/
theorem find?_reverse_flatMap {α : Type} (test : κ → Bool) (entries : α → List (κ × ν)) :
    ∀ l : List α, find? test (l.flatMap entries).reverse =
      l.reverse.findSome? fun x => find? test (entries x).reverse
  | [] => rfl
  | x :: rest => by
      rw [List.flatMap_cons, List.reverse_append, find?_append, List.reverse_cons,
        List.findSome?_append, find?_reverse_flatMap test entries rest]
      congr 1
      rw [List.findSome?_cons]
      cases find? test (entries x).reverse with
      | none => rfl
      | some v => rfl

/-- The keys that were written, in the order in which they came first. -/
theorem keys_putAll [BEq κ] [LawfulBEq κ] (added : List (κ × ν)) :
    keys (putAll (· == ·) [] added) = (keys added).eraseDups := by
  induction added using List.reverseRecOn with
  | nil => rfl
  | append_singleton added entry ih =>
      obtain ⟨k, v⟩ := entry
      have whole : keys (added ++ [(k, v)]) = keys added ++ [k] := List.map_append
      rw [putAll_concat, whole]
      by_cases present : k ∈ keys added
      · have there : k ∈ keys (putAll (· == ·) [] added) := by
          rw [ih]
          exact List.mem_eraseDups.2 present
        rw [keys_put_of_mem (fun _ => beq_iff_eq) there, ih]
        exact (eraseDups_append_of_subset (by simpa using present)).symm
      · have absent : k ∉ keys (putAll (· == ·) [] added) := by
          rw [ih]
          exact fun member => present (List.mem_eraseDups.1 member)
        rw [keys_put_of_not_mem (fun _ => beq_iff_eq) absent, ih]
        exact (eraseDups_concat_of_not_mem present).symm

/-- Writing brings no key in twice. -/
theorem nodup_putAll (compares : ∀ k k', same k k' = true ↔ k = k') {entries : List (κ × ν)}
    (nodup : (keys entries).Nodup) (added : List (κ × ν)) :
    (keys (putAll same entries added)).Nodup := by
  induction added using List.reverseRecOn with
  | nil => exact nodup
  | append_singleton added last ih =>
      obtain ⟨k, v⟩ := last
      rw [putAll_concat]
      exact nodup_put (compares · k) ih

/-- If no key is there twice, it makes no difference from which end a key is looked up. -/
theorem find?_reverse (names : ∀ k, test k = true ↔ k = target) {entries : List (κ × ν)}
    (nodup : (keys entries).Nodup) : find? test entries.reverse = find? test entries := by
  have nodup' : (keys entries.reverse).Nodup :=
    ((List.reverse_perm entries).map Prod.fst).nodup_iff.2 nodup
  cases found : find? test entries with
  | some v =>
      have member := mem_of_find?_eq_some names found
      exact find?_of_mem names nodup' (List.mem_reverse.2 member)
  | none =>
      cases other : find? test entries.reverse with
      | none => rfl
      | some v =>
          have member := List.mem_reverse.1 (mem_of_find?_eq_some names other)
          rw [find?_of_mem names nodup member] at found
          cases found

/-- What is there after writing into an empty mapping was written. -/
theorem mem_of_mem_putAll (compares : ∀ k k', same k k' = true ↔ k = k') {entry : κ × ν}
    {added : List (κ × ν)} (member : entry ∈ putAll same [] added) : entry ∈ added := by
  induction added using List.reverseRecOn with
  | nil => exact member
  | append_singleton added last ih =>
      obtain ⟨k, v⟩ := last
      rw [putAll_concat] at member
      rw [List.mem_append, List.mem_singleton]
      exact (mem_put (compares · k) member).symm.imp_left ih

/-- Entries with different keys are written as they are. -/
theorem putAll_of_nodup (compares : ∀ k k', same k k' = true ↔ k = k') {added : List (κ × ν)}
    (nodup : (keys added).Nodup) : putAll same [] added = added := by
  induction added using List.reverseRecOn with
  | nil => rfl
  | append_singleton added last ih =>
      obtain ⟨k, v⟩ := last
      have whole : keys (added ++ [(k, v)]) = keys added ++ [k] := List.map_append
      rw [whole, List.nodup_append] at nodup
      obtain ⟨before, -, apart⟩ := nodup
      have fresh : k ∉ keys added := fun member => apart k member k List.mem_cons_self rfl
      rw [putAll_concat, ih before, put_of_not_mem (compares · k) fresh]

/-! ## Removing -/

theorem remove_sublist (test : κ → Bool) : ∀ entries : List (κ × ν),
    (remove test entries).Sublist entries
  | [] => List.Sublist.refl []
  | (k, v) :: rest => by
      rw [remove]
      split
      · exact List.sublist_cons_self _ rest
      · exact (remove_sublist test rest).cons_cons _

theorem nodup_remove (test : κ → Bool) {entries : List (κ × ν)} (nodup : (keys entries).Nodup) :
    (keys (remove test entries)).Nodup :=
  nodup.sublist ((remove_sublist test entries).map Prod.fst)

/-- Removing a key that occurs once at most takes away what is found under it, and nothing else. -/
theorem find?_remove {removed : κ → Bool} (takes : ∀ k, removed k = true ↔ k = key)
    (names : ∀ k, test k = true ↔ k = target) : ∀ {entries : List (κ × ν)},
    (keys entries).Nodup → find? test (remove removed entries) =
      if test key then none else find? test entries
  | [], _ => by
      rw [remove, find?, ite_self]
  | (k, v) :: rest, nodup => by
      rw [keys, List.map_cons, List.nodup_cons] at nodup
      obtain ⟨fresh, rest_nodup⟩ := nodup
      rw [remove]
      by_cases here : removed k = true
      · have equal := (takes k).1 here
        subst equal
        rw [if_pos here, find?]
        by_cases asked : test k = true
        · rw [if_pos asked]
          cases later : find? test rest with
          | none => rfl
          | some w =>
              have member := mem_of_find?_eq_some names later
              rw [← (names k).1 asked] at member
              exact absurd (mem_keys_of_mem member) fresh
        · rw [if_neg asked, if_neg asked]
      · rw [if_neg here, find?, find?, find?_remove takes names rest_nodup]
        by_cases first : test k = true
        · have other : ¬ test key = true := by
            intro also
            exact here ((takes k).2 (((names k).1 first).trans ((names key).1 also).symm))
          rw [if_pos first, if_neg other, if_pos first]
        · rw [if_neg first, if_neg first]

end ModifierLint.Keyed
