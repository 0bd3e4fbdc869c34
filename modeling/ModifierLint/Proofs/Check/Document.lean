/-
# The document of a collector

The JSON document of a collector can be read back.  Every diagnostic is a plain value with its
message, so what a reader gets from the document is the list that was written, whatever texts it
holds and whatever numbers can be written.  Documents are ASCII, so they do not depend on how the
output is encoded.
-/
import ModifierLint.Proofs.Check.Views
import ModifierLint.Proofs.Json.Reading

namespace ModifierLint.Collector

/-- Diagnostics have texts, integers and lists of texts only. -/
theorem plain_recordOf (c : Collector) (d : Diagnostic) : Json.Plain (c.recordOf d) := by
  have args : Json.Plain (.texts d.args) := .list fun v hv => by
    obtain ⟨arg, -, rfl⟩ := List.mem_map.1 hv
    exact .str arg
  refine .record fun f hf => ?_
  simp only [Diagnostic.fields, List.cons_append, List.nil_append, List.mem_cons,
    List.not_mem_nil, or_false] at hf
  rcases hf with rfl | rfl | rfl | rfl | rfl | rfl | rfl | rfl
  · exact .str _
  · exact .int _
  · exact .int _
  · exact .str _
  · exact args
  · exact .str _
  · exact .str _
  · exact .str _

/-- **The document is read back as what was reported.**  For every collector whose messages can be
formatted and whose lines and columns have 4300 digits at most, the document is ASCII, and a reader
of JSON gets from it one record for each diagnostic, in the order of the list, which has the values
of the diagnostic and its message.  If a line or a column has more digits, there is no document. -/
theorem parse_json (c : Collector) (formats : ∀ d ∈ c.diagnostics, ∃ message,
      Attempt.Answers (c.bundle.format d.messageKey d.args) (.ok message)) :
    ((∀ d ∈ c.diagnostics,
        d.line.natAbs < 10 ^ Text.mostDigits ∧ d.column.natAbs < 10 ^ Text.mostDigits) →
      ∃ text entries,
        Attempt.Answers c.json (.ok text) ∧
        (∀ x ∈ text.toList, x.toNat < 128) ∧
        Json.parse text = some (.list entries) ∧
        entries.length = c.diagnostics.length ∧
        ∀ (i : Nat) (d : Diagnostic), c.diagnostics[i]? = some d → ∃ message,
          Attempt.Answers (c.bundle.format d.messageKey d.args) (.ok message) ∧
          entries[i]? = some (.record
            [("file_path", .str d.filePath), ("line", .int d.line), ("column", .int d.column),
             ("message_key", .str d.messageKey), ("args", .texts d.args),
             ("check_name", .str d.checkName), ("severity", .str d.severity.name),
             ("message", .str message)])) ∧
    ((∃ d ∈ c.diagnostics,
        ¬(d.line.natAbs < 10 ^ Text.mostDigits ∧ d.column.natAbs < 10 ^ Text.mostDigits)) →
      Attempt.Answers c.json (.error .digits)) := by
  have formats : ∀ d ∈ c.diagnostics, Attempt.Answers (c.message d) (.ok (c.messageText d)) :=
    fun d there => message_answers (formats d there)
  constructor
  · intro short
    have plain : Json.Plain (.list (c.diagnostics.map c.recordOf)) := .list fun v hv => by
      obtain ⟨d, -, rfl⟩ := List.mem_map.1 hv
      exact plain_recordOf c d
    have text := json_answers formats fun d there => d.isWritable_iff.2 (short d there)
    rw [← Json.render_list] at text
    refine ⟨_, c.diagnostics.map c.recordOf, text, Json.ascii_renderAt (.block 2) plain 0,
      Json.parse_render (.block 2) plain, List.length_map _, fun i d there => ?_⟩
    refine ⟨c.messageText d, formats d (List.mem_of_getElem? there), ?_⟩
    rw [List.getElem?_map, there]
    rfl
  · rintro ⟨d, there, long⟩
    refine json_refuses formats ⟨d, there, ?_⟩
    exact Bool.eq_false_iff.2 fun short => long (d.isWritable_iff.1 short)

/-- A collector with texts and numbers that are easily written wrongly. -/
def awkward : Collector where
  bundle := { templates := [("quoted", "'\x7b0\x7d'")] }
  reported :=
    #[{ filePath := "b\\\"\t😀.java", line := 100000000000000000000, column := -1,
        messageKey := "quoted", args := ["\x00\x7f𝄞"], checkName := "c" },
      { filePath := "a.java", line := 1, column := 1, messageKey := "\ue000", checkName := "" }]

theorem parse_json_of_awkward :
    (∀ d ∈ awkward.diagnostics, ∃ message,
      Attempt.Answers (awkward.bundle.format d.messageKey d.args) (.ok message)) ∧
    (∀ d ∈ awkward.diagnostics,
      d.line.natAbs < 10 ^ Text.mostDigits ∧ d.column.natAbs < 10 ^ Text.mostDigits) ∧
    ∃ text entries, Attempt.Answers awkward.json (.ok text) ∧
      Json.parse text = some (.list entries) ∧ entries.length = 2 := by
  have formats : ∀ d ∈ awkward.diagnostics, ∃ message,
      Attempt.Answers (awkward.bundle.format d.messageKey d.args) (.ok message) := by
    intro d there
    have reported : d ∈ awkward.reported.toList := List.mem_mergeSort.1 there
    simp only [awkward, List.mem_cons, List.not_mem_nil, or_false] at reported
    rcases reported with rfl | rfl
    · have filled : Template.format "'\x7b0\x7d'" ["\x00\x7f𝄞"] = .ok "'\x00\x7f𝄞'" := by
        unfold Template.format
        -- one step for each piece: the field with the text before it, the text behind it, the end
        unfold Template.expand
        unfold Template.expand
        unfold Template.expand
        rfl
      have found : awkward.bundle.template? "quoted" = some "'\x7b0\x7d'" := rfl
      refine ⟨"'\x00\x7f𝄞'", ?_⟩
      simp only [Bundle.format, found, filled]
      exact Attempt.Answers.pure _
    · exact ⟨_, Attempt.Answers.pure _⟩
  have short : ∀ d ∈ awkward.diagnostics,
      d.line.natAbs < 10 ^ Text.mostDigits ∧ d.column.natAbs < 10 ^ Text.mostDigits := by
    intro d there
    have each : ∀ d ∈ awkward.reported.toList,
        d.line.natAbs < 10 ^ Text.mostDigits ∧ d.column.natAbs < 10 ^ Text.mostDigits := by decide +kernel
    exact each d (List.mem_mergeSort.1 there)
  obtain ⟨text, entries, written, -, read, length, -⟩ := (parse_json awkward formats).1 short
  refine ⟨formats, short, text, entries, written, read, ?_⟩
  rw [length, diagnostics, List.length_mergeSort]
  rfl

/-- A line of 4301 digits is an integer, but there is no document with it. -/
theorem longLine_undocumented :
    let d : Diagnostic :=
      { filePath := "A.java", line := 10 ^ 4300, column := 1, messageKey := "k", checkName := "c" }
    let c : Collector := { reported := #[d] }
    (∀ d' ∈ c.diagnostics, ∃ message,
      Attempt.Answers (c.bundle.format d'.messageKey d'.args) (.ok message)) ∧
    ¬∃ text, Attempt.Answers c.json (.ok text) := by
  intro d c
  have answers (d' : Diagnostic) : ∃ message,
      Attempt.Answers (c.bundle.format d'.messageKey d'.args) (.ok message) :=
    ⟨_, Attempt.Answers.pure _⟩
  refine ⟨fun d' _ => answers d', ?_⟩
  rintro ⟨text, answered⟩
  have there : d ∈ c.diagnostics := List.mem_mergeSort.2 List.mem_cons_self
  have refused := json_refuses (c := c) (fun d' _ => message_answers (answers d'))
    ⟨d, there, by decide +kernel⟩
  cases Logged.Answers.unique answered refused

end ModifierLint.Collector
