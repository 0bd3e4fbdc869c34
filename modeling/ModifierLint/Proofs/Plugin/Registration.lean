/-
# One registration and one removal

A registry is two mappings, and both operations change both of them.  What a registration and a
removal do to the languages of extensions and to the plugins of languages is said here once, for
plugins whose extensions are texts: `perform_register` and `perform_unregister` give the registry
that an operation leaves, and the lemmas on `language?` and `plugin?` what is found in it.

All of it rests on `Registry.Orderly`: no name and no extension occurs twice, and every plugin
stands under its own name.  Every operation keeps it (`Orderly.perform`).
-/
import ModifierLint.Proofs.Keyed
import ModifierLint.Proofs.Plugin.Choice

namespace ModifierLint

/-- Whether the plugin declares the extension. -/
def Plugin.declares (p : Plugin) (extension : String) : Bool :=
  (p.extensions.elements?.getD []).any (·.sameKey (.str extension))

/-- The extensions of the plugin are a list of texts. -/
def Plugin.Textual (p : Plugin) : Prop :=
  ∃ names, p.extensions = .texts names

theorem Plugin.declares_iff {p : Plugin} {names : List String} {extension : String}
    (textual : p.extensions = .texts names) : p.declares extension = true ↔ extension ∈ names := by
  rw [declares, textual, Value.elements?_texts, Option.getD_some, List.any_map, List.any_eq_true]
  constructor
  · rintro ⟨name, member, equal⟩
    obtain rfl := Value.str.inj (Value.sameKey_str.1 equal)
    exact member
  · intro member
    exact ⟨extension, member, Value.sameKey_str.2 rfl⟩

namespace Registry

/-- A change of the registry. -/
inductive Operation
  | register (p : Plugin)
  | unregister (language : String)

/-- The registry after an operation. -/
def perform (r : Registry) : Operation → Registry
  | .register p => (Logged.collect (r.register p)).1.1
  | .unregister language => (Logged.collect (r.unregister language)).1.1

/-- A registration is one of a plugin whose extensions are texts. -/
def Operation.Textual : Operation → Prop
  | .register p => p.Textual
  | .unregister _ => True

/-- A registration is one of a plugin with a name, whose extensions are texts. -/
def Operation.Proper : Operation → Prop
  | .register p => p.language ≠ "" ∧ p.Textual
  | .unregister _ => True

theorem Operation.Proper.textual : ∀ {op : Operation}, op.Proper → op.Textual
  | .register _, ⟨_, textual⟩ => textual
  | .unregister _, _ => True.intro

/-- No name and no extension occurs twice, and every plugin stands under its name. -/
structure Orderly (r : Registry) : Prop where
  plugins : (Keyed.keys r.plugins).Nodup
  extensions : (Keyed.keys r.extensions).Nodup
  own : ∀ entry ∈ r.plugins, entry.1 = entry.2.language ∧ entry.2.Textual

variable {r : Registry} {p q : Plugin} {names : List String}

theorem orderly_empty : Orderly {} :=
  ⟨List.nodup_nil, List.nodup_nil, fun _ member => nomatch member⟩

theorem find?_name (language : String) (k : String) : (k == language) = true ↔ k = language :=
  beq_iff_eq

theorem Orderly.of_plugin? (orderly : r.Orderly) {language : String}
    (found : r.plugin? language = some p) : p.language = language ∧ p.Textual := by
  have member := Keyed.mem_of_find?_eq_some (find?_name language) found
  obtain ⟨own, textual⟩ := orderly.own _ member
  exact ⟨own.symm, textual⟩

/-! ## Registering -/

/-- The registry in which a language has claimed extensions, in order. -/
def claimed (r : Registry) (language : String) (names : List String) : Registry :=
  { r with extensions := names.foldl (fun m e => Value.insert (.str e) language m) r.extensions }

/-- Texts are claimed whatever is supported already. -/
theorem claims_texts (names : List String) (known : List Value) :
    claims known (names.map .str) = (names.map .str, none) :=
  claims_of_writable (List.forall_mem_map.2 fun name _ => Value.isHashable_str name)
    (List.forall_mem_map.2 fun name _ => Value.isWritable_str name) known

theorem perform_register (textual : p.extensions = .texts names) (r : Registry) :
    r.perform (.register p) =
      claimed { r with plugins := Keyed.put (· == ·) p.language p r.plugins } p.language names := by
  have front : r.claimable p = names.map .str := by
    rw [claimable, textual, Value.elements?_texts, Option.getD_some, claims_texts]
  rw [perform, (register_comes_to r p).collect_eq, front, owned, claimed, List.foldl_map]
  rfl

theorem language?_claimed (language extension : String) (names : List String) : ∀ r : Registry,
    (r.claimed language names).language? (.str extension) =
      if extension ∈ names then some language else r.language? (.str extension) := by
  induction names with
  | nil =>
      intro r
      rfl
  | cons name rest ih =>
      intro r
      have first : Registry.language?
          { r with extensions := Value.insert (.str name) language r.extensions }
            (.str extension) =
          if (Value.str name).sameKey (.str extension) then some language
            else r.language? (.str extension) :=
        Keyed.find?_put (fun _ => Value.sameKey_str) (fun _ => Value.sameKey_str) language _
      have here := ih { r with extensions := Value.insert (.str name) language r.extensions }
      rw [first] at here
      refine here.trans ?_
      by_cases later : extension ∈ rest
      · rw [if_pos later, if_pos (List.mem_cons_of_mem _ later)]
      · rw [if_neg later]
        by_cases now : name = extension
        · rw [if_pos (Value.sameKey_str.2 (congrArg Value.str now)), now,
            if_pos List.mem_cons_self]
        · have other : ¬ (Value.str name).sameKey (.str extension) = true := by
            intro equal
            exact now (Value.str.inj (Value.sameKey_str.1 equal))
          have absent : extension ∉ name :: rest := by
            rw [List.mem_cons, not_or]
            exact ⟨fun equal => now equal.symm, later⟩
          rw [if_neg other, if_neg absent]

/-- A registration gives its plugin the extensions that it declares. -/
theorem language?_register (textual : p.Textual) (r : Registry) (extension : String) :
    (r.perform (.register p)).language? (.str extension) =
      if p.declares extension then some p.language else r.language? (.str extension) := by
  obtain ⟨names, textual⟩ := textual
  rw [perform_register textual, language?_claimed]
  simp only [p.declares_iff textual]
  rfl

theorem plugins_register (textual : p.Textual) (r : Registry) :
    (r.perform (.register p)).plugins = Keyed.put (· == ·) p.language p r.plugins := by
  obtain ⟨names, textual⟩ := textual
  rw [perform_register textual]
  rfl

/-- A registration puts its plugin under its name. -/
theorem plugin?_register (textual : p.Textual) (r : Registry) (language : String) :
    (r.perform (.register p)).plugin? language =
      if p.language = language then some p else r.plugin? language := by
  have found := Keyed.find?_put (find?_name p.language) (find?_name language) p r.plugins
  simp only [beq_iff_eq] at found
  rw [plugin?, plugins_register textual]
  exact found

theorem nodup_claimed (language : String) (names : List String) : ∀ r : Registry,
    (Keyed.keys r.extensions).Nodup → (Keyed.keys (r.claimed language names).extensions).Nodup := by
  induction names with
  | nil =>
      intro r nodup
      exact nodup
  | cons name rest ih =>
      intro r nodup
      exact ih { r with extensions := Value.insert (.str name) language r.extensions }
        (Keyed.nodup_put (fun _ => Value.sameKey_str) nodup)

theorem Orderly.register (orderly : r.Orderly) (textual : p.Textual) :
    (r.perform (.register p)).Orderly := by
  obtain ⟨names, texts⟩ := textual
  rw [perform_register texts]
  refine ⟨Keyed.nodup_put (find?_name p.language) orderly.plugins,
    nodup_claimed _ _ _ orderly.extensions, ?_⟩
  intro entry member
  rcases Keyed.mem_put (find?_name p.language) member with rfl | before
  · exact ⟨rfl, names, texts⟩
  · exact orderly.own entry before

/-! ## Removing -/

/-- The registry in which a language has given up extensions, in order. -/
def released (r : Registry) (language : String) (names : List String) : Registry :=
  names.foldl (fun r e => r.release language (.str e)) r

theorem releaseAll_texts (language : String) (names : List String) : ∀ r : Registry,
    r.releaseAll language (names.map .str) = (r.released language names, true) := by
  induction names with
  | nil =>
      intro r
      rfl
  | cons name rest ih =>
      intro r
      rw [List.map_cons, releaseAll, if_pos (Value.isHashable_str name), ih]
      rfl

theorem perform_unregister_of_none {language : String} (absent : r.plugin? language = none) :
    r.perform (.unregister language) = r := by
  have answers : (r.unregister language).Answers (r, .absent) := by
    unfold unregister
    rw [absent]
    exact Logged.Answers.pure _
  rw [perform, answers.collect_eq]

theorem perform_unregister {language : String} (found : r.plugin? language = some p)
    (textual : p.extensions = .texts names) :
    r.perform (.unregister language) =
      { r.released language names with
        plugins := Keyed.remove (· == language) (r.released language names).plugins } := by
  have answers : (r.unregister language).Answers
      ({ r.released language names with
        plugins := Keyed.remove (· == language) (r.released language names).plugins },
        .removed) := by
    unfold unregister
    rw [found]
    simp only [textual, Value.elements?_texts, releaseAll_texts]
    exact Logged.Answers.bind (Logged.Answers.say _ _) (Logged.Answers.pure _)
  rw [perform, answers.collect_eq]

theorem plugins_release (r : Registry) (language : String) (extension : Value) :
    (r.release language extension).plugins = r.plugins := by
  unfold release
  split
  · rfl
  · rfl

theorem plugins_released (language : String) (names : List String) : ∀ r : Registry,
    (r.released language names).plugins = r.plugins := by
  induction names with
  | nil =>
      intro r
      rfl
  | cons name rest ih =>
      intro r
      exact (ih (r.release language (.str name))).trans (plugins_release r language (.str name))

theorem nodup_release (nodup : (Keyed.keys r.extensions).Nodup) (language : String)
    (extension : Value) : (Keyed.keys (r.release language extension).extensions).Nodup := by
  unfold release
  split
  · exact Keyed.nodup_remove _ nodup
  · exact nodup

theorem nodup_released (language : String) (names : List String) : ∀ r : Registry,
    (Keyed.keys r.extensions).Nodup →
      (Keyed.keys (r.released language names).extensions).Nodup := by
  induction names with
  | nil =>
      intro r nodup
      exact nodup
  | cons name rest ih =>
      intro r nodup
      exact ih (r.release language (.str name)) (nodup_release nodup language (.str name))

theorem language?_release (nodup : (Keyed.keys r.extensions).Nodup)
    (language name extension : String) :
    (r.release language (.str name)).language? (.str extension) =
      if name = extension ∧ r.language? (.str extension) = some language then none
        else r.language? (.str extension) := by
  unfold release
  by_cases owned : r.language? (.str name) = some language
  · have erased : Registry.language?
        { r with extensions := Value.erase (.str name) r.extensions } (.str extension) =
        if (Value.str name).sameKey (.str extension) then none
          else r.language? (.str extension) :=
      Keyed.find?_remove (fun _ => Value.sameKey_str) (fun _ => Value.sameKey_str) nodup
    rw [if_pos owned, erased]
    by_cases now : name = extension
    · subst now
      rw [if_pos (Value.sameKey_str.2 rfl), if_pos ⟨rfl, owned⟩]
    · have other : ¬ (Value.str name).sameKey (.str extension) = true := by
        intro equal
        exact now (Value.str.inj (Value.sameKey_str.1 equal))
      rw [if_neg other, if_neg (fun both => now both.1)]
  · rw [if_neg owned]
    by_cases now : name = extension
    · subst now
      rw [if_neg (fun both => owned both.2)]
    · rw [if_neg (fun both => now both.1)]

theorem language?_released (language extension : String) (names : List String) : ∀ r : Registry,
    (Keyed.keys r.extensions).Nodup → (r.released language names).language? (.str extension) =
      if extension ∈ names ∧ r.language? (.str extension) = some language then none
        else r.language? (.str extension) := by
  induction names with
  | nil =>
      intro r _
      rw [if_neg (fun both => List.not_mem_nil both.1)]
      rfl
  | cons name rest ih =>
      intro r nodup
      have here := ih (r.release language (.str name)) (nodup_release nodup language (.str name))
      rw [language?_release nodup] at here
      refine here.trans ?_
      by_cases now : name = extension
      · subst now
        by_cases owned : r.language? (.str name) = some language
        · simp [owned]
        · simp [owned]
      · have other : extension ≠ name := fun equal => now equal.symm
        simp [now, other]

/-- A removal takes away the extensions that the plugin declares and its language has. -/
theorem language?_unregister (orderly : r.Orderly) (language extension : String) :
    (r.perform (.unregister language)).language? (.str extension) =
      match r.plugin? language with
      | none => r.language? (.str extension)
      | some p =>
        if p.declares extension = true ∧ r.language? (.str extension) = some language then none
          else r.language? (.str extension) := by
  cases found : r.plugin? language with
  | none => rw [perform_unregister_of_none found]
  | some p =>
      obtain ⟨-, names, textual⟩ := orderly.of_plugin? found
      have given := language?_released language extension names r orderly.extensions
      rw [perform_unregister found textual]
      simp only [p.declares_iff textual]
      exact given

/-- A removal leaves no plugin under the name. -/
theorem plugin?_unregister (orderly : r.Orderly) (language other : String) :
    (r.perform (.unregister language)).plugin? other =
      if language = other then none else r.plugin? other := by
  cases found : r.plugin? language with
  | none =>
      rw [perform_unregister_of_none found]
      by_cases same : language = other
      · rw [if_pos same, ← same, found]
      · rw [if_neg same]
  | some p =>
      obtain ⟨-, names, textual⟩ := orderly.of_plugin? found
      rw [perform_unregister found textual, plugins_released]
      have removed := Keyed.find?_remove (find?_name language) (find?_name other) orderly.plugins
      simp only [beq_iff_eq] at removed
      exact removed

theorem Orderly.unregister (orderly : r.Orderly) (language : String) :
    (r.perform (.unregister language)).Orderly := by
  cases found : r.plugin? language with
  | none =>
      rw [perform_unregister_of_none found]
      exact orderly
  | some p =>
      obtain ⟨-, names, textual⟩ := orderly.of_plugin? found
      rw [perform_unregister found textual, plugins_released]
      refine ⟨Keyed.nodup_remove _ orderly.plugins, nodup_released _ _ _ orderly.extensions, ?_⟩
      intro entry member
      exact orderly.own entry ((Keyed.remove_sublist _ _).subset member)

/-- Every operation keeps a registry orderly. -/
theorem Orderly.perform (orderly : r.Orderly) : ∀ {op : Operation}, op.Textual →
    (r.perform op).Orderly
  | .register _, textual => orderly.register textual
  | .unregister language, _ => orderly.unregister language

/-! ## Names -/

/-- Every plugin stands under its own name. -/
def Named (r : Registry) : Prop :=
  ∀ entry ∈ r.plugins, entry.1 = entry.2.language

theorem Named.of_plugin? (named : r.Named) {language : String}
    (found : r.plugin? language = some p) : p.language = language :=
  (named _ (Keyed.mem_of_find?_eq_some (find?_name language) found)).symm

theorem plugins_releaseAll (language : String) (extensions : List Value) : ∀ r : Registry,
    (r.releaseAll language extensions).1.plugins = r.plugins := by
  induction extensions with
  | nil =>
      intro r
      rfl
  | cons extension rest ih =>
      intro r
      rw [releaseAll]
      split
      · exact (ih _).trans (plugins_release r language extension)
      · rfl

/-- A removal takes plugins away, if it changes them. -/
theorem unregister_answers (r : Registry) (language : String) : ∃ r' removal,
    (r.unregister language).Answers (r', removal) ∧ r'.plugins.Sublist r.plugins := by
  unfold unregister
  cases r.plugin? language with
  | none => exact ⟨r, .absent, Logged.Answers.pure _, List.Sublist.refl _⟩
  | some p =>
      dsimp only
      cases p.extensions.elements? with
      | none => exact ⟨r, .failed, Logged.Answers.pure _, List.Sublist.refl _⟩
      | some extensions =>
          dsimp only
          have kept := plugins_releaseAll language extensions r
          generalize r.releaseAll language extensions = outcome at kept ⊢
          obtain ⟨r', all⟩ := outcome
          cases all with
          | false => exact ⟨r', .failed, Logged.Answers.pure _, kept ▸ List.Sublist.refl _⟩
          | true =>
              refine ⟨_, .removed, Logged.Answers.bind (Logged.Answers.say _ _)
                (Logged.Answers.pure _), ?_⟩
              rw [← kept]
              exact Keyed.remove_sublist _ _

/-- Every operation leaves plugins under their names, whatever their extensions are. -/
theorem Named.perform (named : r.Named) : ∀ op : Operation, (r.perform op).Named
  | .register p => by
      obtain ⟨r', all, answers, plugins⟩ := register_answers r p
      intro entry member
      rw [Registry.perform, answers.collect_eq, plugins] at member
      rcases Keyed.mem_put (find?_name p.language) member with rfl | before
      · rfl
      · exact named entry before
  | .unregister language => by
      obtain ⟨r', removal, answers, left⟩ := unregister_answers r language
      intro entry member
      rw [Registry.perform, answers.collect_eq] at member
      exact named entry (left.subset member)

/-! ## Supported extensions and files -/

theorem mem_supported_iff {extension : String} :
    .str extension ∈ r.supported ↔ ∃ language, r.language? (.str extension) = some language :=
  Keyed.mem_keys_iff fun _ => Value.sameKey_str

/-- The file of a language with a name gets the plugin of the language. -/
theorem choose_of_language {language filePath : String} (named : language ≠ "")
    (owner : r.language? (.str (Path.ofString filePath).suffix) = some language) :
    r.choose filePath = r.plugin? language := by
  have full : ¬ language.isEmpty = true := by
    rw [String.isEmpty_iff]
    exact named
  rw [choose, owner]
  simp only
  rw [if_neg full]

end Registry

end ModifierLint
