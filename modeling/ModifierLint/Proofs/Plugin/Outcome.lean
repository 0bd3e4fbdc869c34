/-
# What a history amounts to

Every table of a registry can be read off the history that led to it.  A language has the plugin
that was registered under it last (`Stands`), the languages are listed by the registration that
brought them in (`Enters`), and an extension belongs to the language of the last plugin that
declared it (`Owner`).

The descriptions speak of a registration, of what came before it and of what came after it.  The
proofs go through the history from its end: for each description one lemma says what a further
operation changes, and the lemmas of `Registration` say the same of the tables.
-/
import Mathlib.Data.List.Basic
import ModifierLint.Proofs.Plugin.History

namespace ModifierLint

/-! ## Merging templates -/

/-- The template that the plugin has for a key; later entries count over earlier ones. -/
def Plugin.template? (p : Plugin) (key : String) : Option String :=
  Keyed.find? (· == key) p.messages.reverse

namespace Bundle

theorem define_answers (b : Bundle) (key template : String) :
    (b.define key template).Answers ⟨Keyed.put (· == ·) key template b.templates⟩ := by
  unfold define
  cases b.template? key with
  | none => exact Logged.Answers.pure _
  | some present =>
      by_cases changed : present ≠ template
      · simp only [if_pos changed]
        exact Logged.Answers.bind (Logged.Answers.say _ _) (Logged.Answers.pure _)
      · simp only [if_neg changed]
        exact Logged.Answers.pure _

theorem update_answers (b : Bundle) (templates : List (String × String)) :
    (b.update templates).Answers ⟨Keyed.putAll (· == ·) b.templates templates⟩ := by
  induction templates generalizing b with
  | nil => exact Logged.Answers.pure _
  | cons entry rest ih => exact Logged.Answers.bind (define_answers b entry.1 entry.2) (ih _)

end Bundle

namespace Registry

variable {ops before before' later : List Operation} {op : Operation} {p q : Plugin}
  {language other extension : String}

theorem after_concat (ops : List Operation) (op : Operation) :
    after (ops ++ [op]) = (after ops).perform op := by
  rw [after, List.foldl_append]
  rfl

theorem textual_concat :
    (∀ o ∈ ops ++ [op], o.Textual) ↔ (∀ o ∈ ops, o.Textual) ∧ op.Textual := by
  rw [List.forall_mem_append, List.forall_mem_singleton]

theorem split_concat {o : Operation} :
    ops ++ [op] = before ++ o :: later ↔
      (before = ops ∧ o = op ∧ later = []) ∨
        ∃ rest, ops = before ++ o :: rest ∧ later = rest ++ [op] := by
  constructor
  · intro whole
    rcases List.eq_nil_or_concat later with rfl | ⟨rest, final, rfl⟩
    · obtain ⟨first, last⟩ := List.append_singleton_inj.1 whole
      exact .inl ⟨first.symm, last.symm, rfl⟩
    · rw [List.concat_eq_append, ← List.cons_append, ← List.append_assoc] at whole
      obtain ⟨first, last⟩ := List.append_singleton_inj.1 whole
      refine .inr ⟨rest, first, ?_⟩
      rw [List.concat_eq_append, last]
  · rintro (⟨rfl, rfl, rfl⟩ | ⟨rest, rfl, rfl⟩)
    · rfl
    · simp

theorem fate_append (language : String) (later : List Operation) : ∀ ops : List Operation,
    fate language (ops ++ later) =
      if fate language ops = .kept then fate language later else fate language ops
  | [] => rfl
  | .register p :: rest => by
      rw [List.cons_append, fate, fate]
      split
      · rfl
      · exact fate_append language later rest
  | .unregister other :: rest => by
      rw [List.cons_append, fate, fate]
      split
      · rfl
      · exact fate_append language later rest

/-! ## The plugin of a language -/

/-- The plugin was registered under the language, and nothing happened to the language since. -/
def Stands (ops : List Operation) (language : String) (p : Plugin) : Prop :=
  ∃ before later, ops = before ++ .register p :: later ∧ p.language = language ∧
    fate language later = .kept

theorem not_stands_nil : ¬ Stands [] language p := by
  rintro ⟨before, later, whole, -⟩
  simp at whole

theorem stands_append : Stands (ops ++ later) language p ↔
    Stands later language p ∨ (Stands ops language p ∧ fate language later = .kept) := by
  constructor
  · rintro ⟨before, rest, whole, own, kept⟩
    rcases List.append_eq_append_iff.1 whole with ⟨middle, -, split⟩ | ⟨middle, split, tail⟩
    · exact .inl ⟨middle, rest, split, own, kept⟩
    · cases middle with
      | nil => exact .inl ⟨[], rest, tail.symm, own, kept⟩
      | cons first middle =>
          rw [List.cons_append] at tail
          obtain ⟨rfl, rfl⟩ := List.cons.inj tail
          rw [fate_append] at kept
          split at kept
          · next unchanged => exact .inr ⟨⟨before, middle, split, own, unchanged⟩, kept⟩
          · next changed => exact absurd kept changed
  · rintro (⟨before, rest, rfl, own, kept⟩ | ⟨⟨before, rest, rfl, own, unchanged⟩, kept⟩)
    · exact ⟨ops ++ before, rest, by simp, own, kept⟩
    · refine ⟨before, rest ++ later, by simp, own, ?_⟩
      rw [fate_append, if_pos unchanged]
      exact kept

theorem Stands.mem (stands : Stands ops language p) : .register p ∈ ops := by
  obtain ⟨before, later, rfl, -⟩ := stands
  simp

theorem stands_single : Stands [op] language p ↔ op = .register p ∧ p.language = language := by
  constructor
  · intro stands
    obtain rfl := (List.mem_singleton.1 stands.mem).symm
    obtain ⟨-, -, -, own, -⟩ := stands
    exact ⟨rfl, own⟩
  · rintro ⟨rfl, own⟩
    exact ⟨[], [], rfl, own, rfl⟩

theorem stands_register : Stands (ops ++ [.register q]) language p ↔
    if q.language = language then q = p else Stands ops language p := by
  rw [stands_append, stands_single, fate]
  split
  · next own =>
    constructor
    · rintro (⟨same, -⟩ | ⟨-, kept⟩)
      · exact Operation.register.inj same
      · cases kept
    · rintro rfl
      exact .inl ⟨rfl, own⟩
  · next apart =>
    constructor
    · rintro (⟨same, own⟩ | ⟨stands, -⟩)
      · cases same
        exact absurd own apart
      · exact stands
    · intro stands
      exact .inr ⟨stands, rfl⟩

theorem stands_unregister : Stands (ops ++ [.unregister other]) language p ↔
    other ≠ language ∧ Stands ops language p := by
  rw [stands_append, stands_single, fate]
  constructor
  · rintro (⟨same, -⟩ | ⟨stands, kept⟩)
    · cases same
    · split at kept
      · cases kept
      · next apart => exact ⟨apart, stands⟩
  · rintro ⟨apart, stands⟩
    exact .inr ⟨stands, if_neg apart⟩

/-- The language has a plugin. -/
def Live (ops : List Operation) (language : String) : Prop :=
  ∃ p, Stands ops language p

theorem live_register :
    Live (ops ++ [.register q]) language ↔ q.language = language ∨ Live ops language := by
  constructor
  · rintro ⟨p, stands⟩
    rw [stands_register] at stands
    split at stands
    · next own => exact .inl own
    · exact .inr ⟨p, stands⟩
  · intro either
    by_cases own : q.language = language
    · refine ⟨q, stands_register.2 ?_⟩
      rw [if_pos own]
    · obtain ⟨p, stands⟩ := either.resolve_left own
      refine ⟨p, stands_register.2 ?_⟩
      rw [if_neg own]
      exact stands

theorem live_unregister :
    Live (ops ++ [.unregister other]) language ↔ other ≠ language ∧ Live ops language := by
  simp only [Live, stands_unregister, exists_and_left]

theorem plugin?_after_iff (textual : ∀ op ∈ ops, op.Textual) :
    (after ops).plugin? language = some p ↔ Stands ops language p := by
  induction ops using List.reverseRecOn with
  | nil =>
      constructor
      · intro found
        cases found
      · intro stands
        exact absurd stands not_stands_nil
  | append_singleton ops op ih =>
      obtain ⟨earlier, newest⟩ := textual_concat.1 textual
      rw [after_concat]
      cases op with
      | register q =>
          rw [plugin?_register newest, stands_register]
          split
          · exact Option.some_inj
          · exact ih earlier
      | unregister other =>
          rw [plugin?_unregister (orderly_after earlier), stands_unregister]
          split
          · next own =>
            constructor
            · intro found
              cases found
            · rintro ⟨apart, -⟩
              exact absurd own apart
          · next apart => exact (ih earlier).trans ⟨fun stands => ⟨apart, stands⟩, And.right⟩

theorem mem_languages_iff {r : Registry} :
    language ∈ r.languages ↔ ∃ p, r.plugin? language = some p :=
  Keyed.mem_keys_iff (find?_name language)

theorem mem_languages_after_iff (textual : ∀ op ∈ ops, op.Textual) :
    language ∈ (after ops).languages ↔ Live ops language := by
  rw [mem_languages_iff]
  exact exists_congr fun p => plugin?_after_iff textual

/-! ## The order of the languages -/

/-- The registration that follows `before` made the language live, and it was live ever since. -/
def Enters (ops : List Operation) (language : String) (before : List Operation) : Prop :=
  ∃ p later, ops = before ++ .register p :: later ∧ p.language = language ∧
    ¬ Live before language ∧ .unregister language ∉ later

theorem Enters.length_lt (enters : Enters ops language before) : before.length < ops.length := by
  obtain ⟨p, later, rfl, -⟩ := enters
  simp

theorem enters_concat : Enters (ops ++ [op]) language before ↔
    (before = ops ∧ (∃ p, op = .register p ∧ p.language = language) ∧ ¬ Live ops language) ∨
    (Enters ops language before ∧ op ≠ .unregister language) := by
  constructor
  · rintro ⟨p, later, whole, own, fresh, live⟩
    rcases split_concat.1 whole with ⟨rfl, rfl, rfl⟩ | ⟨rest, split, rfl⟩
    · exact .inl ⟨rfl, ⟨p, rfl, own⟩, fresh⟩
    · rw [List.mem_append, not_or] at live
      refine .inr ⟨⟨p, rest, split, own, fresh, live.1⟩, ?_⟩
      rintro rfl
      exact live.2 List.mem_cons_self
  · rintro (⟨rfl, ⟨p, rfl, own⟩, fresh⟩ | ⟨⟨p, rest, rfl, own, fresh, live⟩, apart⟩)
    · exact ⟨p, [], rfl, own, fresh, List.not_mem_nil⟩
    · refine ⟨p, rest ++ [op], by simp, own, fresh, ?_⟩
      intro member
      rcases List.mem_append.1 member with early | last
      · exact live early
      · exact apart (List.mem_singleton.1 last).symm

theorem exists_enters_iff : (∃ before, Enters ops language before) ↔ Live ops language := by
  induction ops using List.reverseRecOn with
  | nil =>
      constructor
      · rintro ⟨before, enters⟩
        exact absurd enters.length_lt (Nat.not_lt_zero _)
      · rintro ⟨p, stands⟩
        exact absurd stands not_stands_nil
  | append_singleton ops op ih =>
      constructor
      · rintro ⟨before, enters⟩
        rcases enters_concat.1 enters with ⟨-, ⟨p, rfl, own⟩, -⟩ | ⟨earlier, apart⟩
        · exact live_register.2 (.inl own)
        · have live := ih.1 ⟨before, earlier⟩
          cases op with
          | register q => exact live_register.2 (.inr live)
          | unregister other =>
              refine live_unregister.2 ⟨?_, live⟩
              rintro rfl
              exact apart rfl
      · intro stays
        by_cases live : Live ops language
        · obtain ⟨before, enters⟩ := ih.2 live
          refine ⟨before, enters_concat.2 (.inr ⟨enters, ?_⟩)⟩
          rintro rfl
          exact (live_unregister.1 stays).1 rfl
        · refine ⟨ops, enters_concat.2 (.inl ⟨rfl, ?_, live⟩)⟩
          cases op with
          | register q => exact ⟨q, rfl, (live_register.1 stays).resolve_right live⟩
          | unregister other => exact absurd (live_unregister.1 stays).2 live

theorem Enters.live (enters : Enters ops language before) : Live ops language :=
  exists_enters_iff.1 ⟨before, enters⟩

theorem Enters.unique (enters : Enters ops language before) (also : Enters ops language before') :
    before = before' := by
  induction ops using List.reverseRecOn with
  | nil => exact absurd enters.length_lt (Nat.not_lt_zero _)
  | append_singleton ops op ih =>
      rcases enters_concat.1 enters with ⟨rfl, -, fresh⟩ | ⟨enters, -⟩
      · rcases enters_concat.1 also with ⟨rfl, -⟩ | ⟨also, -⟩
        · rfl
        · exact absurd also.live fresh
      · rcases enters_concat.1 also with ⟨rfl, -, fresh⟩ | ⟨also, -⟩
        · exact absurd enters.live fresh
        · exact ih enters also

/-- The one language was brought in before the other. -/
def Precedes (ops : List Operation) (language other : String) : Prop :=
  ∀ before before', Enters ops language before → Enters ops other before' →
    before.length < before'.length

theorem Precedes.concat (precedes : Precedes ops language other) (live : Live ops language)
    (live' : Live ops other) (op : Operation) : Precedes (ops ++ [op]) language other := by
  intro before before' enters enters'
  rcases enters_concat.1 enters with ⟨-, -, fresh⟩ | ⟨earlier, -⟩
  · exact absurd live fresh
  · rcases enters_concat.1 enters' with ⟨-, -, fresh⟩ | ⟨earlier', -⟩
    · exact absurd live' fresh
    · exact precedes before before' earlier earlier'

theorem precedes_of_fresh (live : Live ops language) (fresh : ¬ Live ops other) (op : Operation) :
    Precedes (ops ++ [op]) language other := by
  intro before before' enters enters'
  rcases enters_concat.1 enters with ⟨-, -, absent⟩ | ⟨earlier, -⟩
  · exact absurd live absent
  · rcases enters_concat.1 enters' with ⟨rfl, -⟩ | ⟨earlier', -⟩
    · exact earlier.length_lt
    · exact absurd earlier'.live fresh

theorem languages_unregister_sublist {r : Registry} (orderly : r.Orderly) (language : String) :
    (r.perform (.unregister language)).languages.Sublist r.languages := by
  cases found : r.plugin? language with
  | none =>
      rw [perform_unregister_of_none found]
  | some p =>
      obtain ⟨-, names, textual⟩ := orderly.of_plugin? found
      rw [perform_unregister found textual, plugins_released]
      exact (Keyed.remove_sublist _ _).map Prod.fst

theorem pairwise_languages_after (textual : ∀ op ∈ ops, op.Textual) :
    (after ops).languages.Pairwise (Precedes ops) := by
  induction ops using List.reverseRecOn with
  | nil => exact List.Pairwise.nil
  | append_singleton ops op ih =>
      obtain ⟨earlier, newest⟩ := textual_concat.1 textual
      have kept : (after ops).languages.Pairwise (Precedes (ops ++ [op])) := by
        refine (ih earlier).imp_of_mem ?_
        intro l l' member member' precedes
        exact precedes.concat ((mem_languages_after_iff earlier).1 member)
          ((mem_languages_after_iff earlier).1 member') op
      rw [after_concat]
      cases op with
      | register p =>
          rw [languages, plugins_register newest]
          by_cases live : p.language ∈ (after ops).languages
          · rw [Keyed.keys_put_of_mem (find?_name p.language) live]
            exact kept
          · rw [Keyed.keys_put_of_not_mem (find?_name p.language) live, List.pairwise_append]
            refine ⟨kept, List.pairwise_singleton _ _, ?_⟩
            intro l member l' last
            obtain rfl := List.mem_singleton.1 last
            refine precedes_of_fresh ((mem_languages_after_iff earlier).1 member) ?_ _
            intro already
            exact live ((mem_languages_after_iff earlier).2 already)
      | unregister language =>
          exact kept.sublist (languages_unregister_sublist (orderly_after earlier) language)

/-! ## The language of an extension -/

/-- The last plugin that declared the extension was registered under the language, and it was not
removed as the plugin of the language. -/
def Owner (ops : List Operation) (extension language : String) : Prop :=
  ∃ before p later, ops = before ++ .register p :: later ∧ p.language = language ∧
    p.declares extension = true ∧ Undeclared extension later ∧ fate language later ≠ .removed

theorem undeclared_append : Undeclared extension (ops ++ later) ↔
    Undeclared extension ops ∧ Undeclared extension later := by
  constructor
  · intro undeclared
    exact ⟨fun p member => undeclared p (List.mem_append_left _ member),
      fun p member => undeclared p (List.mem_append_right _ member)⟩
  · rintro ⟨early, late⟩ p member
    exact (List.mem_append.1 member).elim (early p) (late p)

theorem fate_append_ne_removed : fate language (ops ++ later) ≠ .removed ↔
    fate language ops ≠ .removed ∧
      (fate language ops = .kept → fate language later ≠ .removed) := by
  rw [fate_append]
  cases fate language ops with
  | kept => simp
  | removed => simp
  | replaced => simp

theorem owner_register : Owner (ops ++ [.register q]) extension language ↔
    if q.declares extension then q.language = language else Owner ops extension language := by
  have replacing : fate language [.register q] ≠ .removed := by
    rw [fate]
    split
    · simp
    · simp [fate]
  constructor
  · rintro ⟨before, p, later, whole, own, declared, undeclared, unremoved⟩
    rcases split_concat.1 whole with ⟨rfl, same, rfl⟩ | ⟨rest, split, rfl⟩
    · cases same
      rw [if_pos declared]
      exact own
    · obtain ⟨early, late⟩ := undeclared_append.1 undeclared
      rw [if_neg (by simp [late q List.mem_cons_self])]
      exact ⟨before, p, rest, split, own, declared, early, (fate_append_ne_removed.1 unremoved).1⟩
  · intro owner
    split at owner
    · next declared =>
      refine ⟨ops, q, [], rfl, owner, declared, ?_, by simp [fate]⟩
      intro p member
      cases member
    · next silent =>
      obtain ⟨before, p, later, rfl, own, declared, undeclared, unremoved⟩ := owner
      refine ⟨before, p, later ++ [.register q], by simp, own, declared, ?_, ?_⟩
      · refine undeclared_append.2 ⟨undeclared, ?_⟩
        intro q' member
        obtain rfl := Operation.register.inj (List.mem_singleton.1 member)
        exact Bool.eq_false_iff.2 silent
      · exact fate_append_ne_removed.2 ⟨unremoved, fun _ => replacing⟩

/-- A removal takes an extension away from its language if the plugin of the language declares it.
The plugin that declared it last need not be that one: it may have been replaced. -/
theorem owner_unregister : Owner (ops ++ [.unregister other]) extension language ↔
    Owner ops extension language ∧
      ¬ (other = language ∧ ∃ p, Stands ops language p ∧ p.declares extension = true) := by
  constructor
  · rintro ⟨before, p, later, whole, own, declared, undeclared, unremoved⟩
    rcases split_concat.1 whole with ⟨-, same, -⟩ | ⟨rest, rfl, rfl⟩
    · cases same
    · obtain ⟨early, -⟩ := undeclared_append.1 undeclared
      obtain ⟨spared, ended⟩ := fate_append_ne_removed.1 unremoved
      refine ⟨⟨before, p, rest, rfl, own, declared, early, spared⟩, ?_⟩
      rintro ⟨rfl, q, stands, declares⟩
      rw [List.append_cons, stands_append] at stands
      rcases stands with stands | ⟨-, kept⟩
      · rw [early q stands.mem] at declares
        cases declares
      · exact ended kept (if_pos rfl)
  · rintro ⟨⟨before, p, rest, rfl, own, declared, undeclared, unremoved⟩, unaffected⟩
    refine ⟨before, p, rest ++ [.unregister other], by simp, own, declared, ?_, ?_⟩
    · refine undeclared_append.2 ⟨undeclared, ?_⟩
      intro q member
      cases List.mem_singleton.1 member
    · refine fate_append_ne_removed.2 ⟨unremoved, ?_⟩
      intro kept removed
      rw [fate] at removed
      split at removed
      · next same => exact unaffected ⟨same, p, ⟨before, rest, rfl, own, kept⟩, declared⟩
      · cases removed

theorem language?_after_iff (textual : ∀ op ∈ ops, op.Textual) :
    (after ops).language? (.str extension) = some language ↔ Owner ops extension language := by
  induction ops using List.reverseRecOn with
  | nil =>
      constructor
      · intro found
        cases found
      · rintro ⟨before, p, later, whole, -⟩
        simp at whole
  | append_singleton ops op ih =>
      obtain ⟨earlier, newest⟩ := textual_concat.1 textual
      rw [after_concat]
      cases op with
      | register q =>
          rw [language?_register newest, owner_register]
          split
          · exact Option.some_inj
          · exact ih earlier
      | unregister other =>
          rw [language?_unregister (orderly_after earlier), owner_unregister, ← ih earlier]
          cases found : (after ops).plugin? other with
          | none =>
              refine ⟨fun owner => ⟨owner, ?_⟩, And.left⟩
              rintro ⟨rfl, p, stands, -⟩
              rw [(plugin?_after_iff earlier).2 stands] at found
              cases found
          | some p =>
              have current := (plugin?_after_iff earlier).1 found
              simp only
              split
              · next both =>
                constructor
                · intro owner
                  cases owner
                · rintro ⟨owner, unaffected⟩
                  rw [both.2] at owner
                  obtain rfl := Option.some.inj owner
                  exact absurd ⟨rfl, p, current, both.1⟩ unaffected
              · next apart =>
                refine ⟨fun owner => ⟨owner, ?_⟩, And.left⟩
                rintro ⟨rfl, q, stands, declares⟩
                rw [(plugin?_after_iff earlier).2 stands] at found
                obtain rfl := Option.some.inj found
                exact apart ⟨declares, owner⟩

/-! ## The message bundle -/

/-- The registered plugins, in the order of their languages. -/
def registered (r : Registry) : List Plugin :=
  r.languages.filterMap r.plugin?

theorem Orderly.registered_eq {r : Registry} (orderly : r.Orderly) :
    r.registered = r.plugins.map Prod.snd := by
  have each : ∀ entry ∈ r.plugins, r.plugin? entry.1 = some entry.2 := fun entry member =>
    Keyed.find?_of_mem (find?_name entry.1) orderly.plugins member
  rw [registered, languages, Keyed.keys, List.filterMap_map, ← List.filterMap_eq_map]
  exact List.filterMap_congr each

theorem foldlM_update (entries : List (String × Plugin)) : ∀ b : Bundle,
    (entries.foldlM (fun b entry => Bundle.update b entry.2.messages) b).Answers
      ⟨Keyed.putAll (· == ·) b.templates ((entries.map Prod.snd).flatMap Plugin.messages)⟩ := by
  induction entries with
  | nil =>
      intro b
      exact Logged.Answers.pure b
  | cons entry rest ih =>
      intro b
      rw [List.map_cons, List.flatMap_cons, Keyed.putAll_append]
      exact Logged.Answers.bind (b.update_answers entry.2.messages) (ih _)

theorem messages_answers {r : Registry} (orderly : r.Orderly) :
    r.messages.Answers ⟨Keyed.putAll (· == ·) [] (r.registered.flatMap Plugin.messages)⟩ := by
  rw [orderly.registered_eq]
  exact foldlM_update r.plugins {}

theorem template?_merged (plugins : List Plugin) (key : String) :
    Bundle.template? ⟨Keyed.putAll (· == ·) [] (plugins.flatMap Plugin.messages)⟩ key =
      plugins.reverse.findSome? (·.template? key) := by
  rw [Bundle.template?, Keyed.find?_putAll (fun _ _ => beq_iff_eq) (find?_name key),
    Keyed.find?_reverse_flatMap, Keyed.find?, Option.or_none]
  rfl

theorem keys_merged (plugins : List Plugin) :
    Bundle.keys ⟨Keyed.putAll (· == ·) [] (plugins.flatMap Plugin.messages)⟩ =
      (plugins.flatMap (Keyed.keys ·.messages)).eraseDups := by
  rw [Bundle.keys, Keyed.keys_putAll, Keyed.keys, List.map_flatMap]
  rfl

/-- **The tables of a registry are determined by its history.**  After any registrations and
removals, a language has the plugin that was registered under it last, unless it was removed since;
the live languages are listed in the order of the registrations that made them live; of each message
key the bundle has the template of the last plugin in this order that defines it, and the keys are
in the order of their first definition; and an extension has a language if and only if the last
plugin that declared it was registered under the language and was never removed while it was the
plugin of the language. -/
theorem tables_after (ops : List Operation) (textual : ∀ op ∈ ops, op.Textual) :
    let r := after ops
    (∀ language p, r.plugin? language = some p ↔ Stands ops language p) ∧
    (r.languages.Nodup ∧ (∀ language, language ∈ r.languages ↔ Live ops language) ∧
      (∀ language ∈ r.languages, ∃! before, Enters ops language before) ∧
      r.languages.Pairwise (Precedes ops)) ∧
    (∃ bundle, r.messages.Answers bundle ∧
      (∀ key, bundle.template? key = r.registered.reverse.findSome? (·.template? key)) ∧
      bundle.keys = (r.registered.flatMap (Keyed.keys ·.messages)).eraseDups) ∧
    ∀ extension language,
      r.language? (.str extension) = some language ↔ Owner ops extension language := by
  intro r
  have orderly : r.Orderly := orderly_after textual
  refine ⟨fun _ _ => plugin?_after_iff textual,
    ⟨orderly.plugins, fun _ => mem_languages_after_iff textual, ?_,
      pairwise_languages_after textual⟩,
    ⟨_, messages_answers orderly, template?_merged r.registered, keys_merged r.registered⟩,
    fun _ _ => language?_after_iff textual⟩
  intro language live
  obtain ⟨before, enters⟩ := exists_enters_iff.2 ((mem_languages_after_iff textual).1 live)
  exact ⟨before, enters, fun before' also => also.unique enters⟩

/-- A plugin is replaced while another one has one of its extensions, and the other is removed. -/
def relieved : List Operation :=
  [.register (silentPlugin "a" "alpha" [".x", ".y"]), .register (silentPlugin "b" "beta" [".y"]),
    .register (silentPlugin "c" "alpha" [".x"]), .unregister "beta"]

theorem tables_after_relieved :
    (∀ op ∈ relieved, op.Textual) ∧
      (after relieved).plugin? "alpha" = some (silentPlugin "c" "alpha" [".x"]) ∧
      (after relieved).language? (.str ".x") = some "alpha" := by
  have textual : ∀ op ∈ relieved, op.Textual := by
    intro op member
    simp only [relieved, List.mem_cons, List.not_mem_nil, or_false] at member
    rcases member with rfl | rfl | rfl | rfl
    · exact ⟨_, rfl⟩
    · exact ⟨_, rfl⟩
    · exact ⟨_, rfl⟩
    · exact True.intro
  have later : Undeclared ".x" [.unregister "beta"] := by
    intro p member
    cases List.mem_singleton.1 member
  obtain ⟨plugins, -, -, owners⟩ := tables_after relieved textual
  refine ⟨textual, ?_, ?_⟩
  · refine (plugins "alpha" _).2 ⟨relieved.take 2, [.unregister "beta"], rfl, rfl, ?_⟩
    decide
  · refine (owners ".x" "alpha").2 ⟨relieved.take 2, silentPlugin "c" "alpha" [".x"],
      [.unregister "beta"], rfl, rfl, declares_silentPlugin.2 List.mem_cons_self, later, ?_⟩
    decide

end Registry

end ModifierLint
