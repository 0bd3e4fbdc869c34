/-
# Rendering what was found

The findings of the bundled plugin have one message, whose template has one field and is given one
argument.  Their places are counted by a grammar.  So they can be rendered, in both formats
(`renderFound_of_bundled`): a run that has checked its files does not break down afterwards.
-/
import ModifierLint.CommandLine.Run
import ModifierLint.Proofs.Analyzer.Refusal
import ModifierLint.Proofs.Check.Views
import ModifierLint.Proofs.Java.Places
import ModifierLint.Proofs.Plugin.Outcome

namespace ModifierLint

open Java (ImpliedStatic)

/-! ## The message of the bundled plugin -/

/-- The messages of the bundled plugin. -/
def Bundle.bundled : Bundle where
  templates := [(ImpliedStatic.messageKey, "Implied modifier '\x7b0\x7d' should be explicit.")]

theorem Registry.messages_bundled : Registry.bundled.messages.Answers .bundled := by
  unfold messages
  rw [plugins_bundled]
  exact Logged.Answers.bind (Bundle.update_answers {} _) (Logged.Answers.pure _)

/-- The field of the template takes the argument. -/
theorem Template.format_bundled :
    format "Implied modifier '\x7b0\x7d' should be explicit." ["static"] =
      .ok "Implied modifier 'static' should be explicit." := by
  unfold format
  -- one step for each piece: the field with the text before it, the text behind it, and the end
  unfold expand
  unfold expand
  unfold expand
  rfl

theorem Bundle.format_bundled :
    Attempt.Answers (Bundle.bundled.format "class.implied.modifier" ["static"])
      (.ok "Implied modifier 'static' should be explicit.") := by
  have found : Bundle.bundled.template? "class.implied.modifier" =
      some "Implied modifier '\x7b0\x7d' should be explicit." := rfl
  unfold format
  simp only [found, Template.format_bundled]
  exact Attempt.Answers.pure _

/-! ## Renderings -/

/-- A collector can be rendered if its messages can be formatted and its places can be written. -/
theorem renderFound_answers {c : Collector} (format : String)
    (formats : ∀ d ∈ c.diagnostics, ∃ message, Attempt.Answers (c.message d) (.ok message))
    (short : ∀ d ∈ c.diagnostics, d.isWritable = true) :
    ∃ lines, Attempt.Answers (renderFound format c) (.ok lines) := by
  have texts : ∀ d ∈ c.diagnostics, Attempt.Answers (c.message d) (.ok (c.messageText d)) :=
    fun d there => Collector.message_answers (formats d there)
  have rendered : ∃ lines, Logged.Answers (if format = "json" then
      ((·.map fun text => [text]) <$> c.json.run) else c.plain.run) (.ok lines) := by
    by_cases json : format = "json"
    · rw [if_pos json, map_eq_pure_bind]
      exact ⟨_, Logged.Answers.bind (Collector.json_answers texts short) (Logged.Answers.pure _)⟩
    · rw [if_neg json]
      exact ⟨_, Collector.plain_answers texts short⟩
  obtain ⟨lines, rendered⟩ := rendered
  exact ⟨lines, Attempt.Answers.bind (Attempt.Answers.lift rendered) (Attempt.Answers.pure lines)⟩

/-- What the bundled plugin reports about nodes that a grammar has counted can be rendered. -/
theorem renderFound_of_bundled {c : Collector} {grammar : Java.Grammar} (counts : grammar.Counts)
    (check : ImpliedStatic) (format : String) (bundled : c.bundle = .bundled)
    (reports : ∀ d ∈ c.reported.toList, ∃ filePath content root, ∃ m ∈ root.preorder,
      grammar content = some root ∧
        d = check.diagnostic filePath (Java.Abstraction.ofCst content.toUTF8 m)) :
    ∃ lines, Attempt.Answers (renderFound format c) (.ok lines) := by
  refine renderFound_answers format (fun d there => ?_) fun d there => ?_
  · obtain ⟨filePath, content, root, m, inside, given, rfl⟩ := reports d (List.mem_mergeSort.1 there)
    rw [Collector.message, bundled]
    exact ⟨_, Bundle.format_bundled⟩
  · obtain ⟨filePath, content, root, m, inside, given, rfl⟩ := reports d (List.mem_mergeSort.1 there)
    exact check.isWritable_diagnostic filePath _ (counts content root given m inside)

end ModifierLint
