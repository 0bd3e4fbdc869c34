/-
# The views of a collector

A collector has taken in diagnostics one by one.  It shows them in four ways: as a sorted list, as
lines of text, as a JSON document and as numbers by severity.  All of them are of the same reports:
the list holds each report once, by position, those at one position in the order of their reports;
lines and document have one entry for each diagnostic of the list, in its order and with the same
message; and the numbers add up to the number of reports.

Rendering formats messages, which may write to the log and may fail.  What matters of it here is
what it answers, so the renderings are followed through `Attempt.Answers`.  Neither of them answers
if a line or a column has more digits than can be written.
-/
import Mathlib.Algebra.Ring.Int.Defs
import Mathlib.Algebra.Ring.Nat
import ModifierLint.Proofs.Check.Order
import ModifierLint.Proofs.Json.Layout
import ModifierLint.Proofs.Log.Answers
import ModifierLint.Proofs.Text.Digits

namespace ModifierLint

/-! ## Attempts along a list -/

namespace Attempt.Answers

variable {ε α β : Type}

/-- Attempts that all succeed succeed one after the other. -/
theorem mapM {f : α → Attempt ε β} {g : α → β} {l : List α}
    (each : ∀ x ∈ l, Answers (f x) (.ok (g x))) : Answers (l.mapM f) (.ok (l.map g)) := by
  induction l with
  | nil => exact pure []
  | cons x rest ih =>
      have first := each x List.mem_cons_self
      have others := ih fun y hy => each y (List.mem_cons_of_mem _ hy)
      rw [List.mapM_cons]
      exact bind first (bind others (pure _))

/-- Attempts of which some end with an error, and all that fail end with the same, end with it. -/
theorem mapM_error {f : α → Attempt ε β} {e : ε} {l : List α}
    (each : ∀ x ∈ l, (∃ b, Answers (f x) (.ok b)) ∨ Answers (f x) (.error e))
    (some_ : ∃ x ∈ l, Answers (f x) (.error e)) : Answers (l.mapM f) (.error e) := by
  induction l with
  | nil =>
      obtain ⟨x, member, -⟩ := some_
      cases member
  | cons x rest ih =>
      rw [List.mapM_cons]
      rcases each x List.mem_cons_self with ⟨b, first⟩ | first
      · obtain ⟨y, member, failed⟩ := some_
        rcases List.mem_cons.1 member with rfl | later
        · cases Logged.Answers.unique first failed
        · have others := ih (fun z hz => each z (List.mem_cons_of_mem _ hz)) ⟨y, later, failed⟩
          exact bind first (bind_error others)
      · exact bind_error first

end Attempt.Answers

namespace Collector

/-- A collector that has taken in diagnostics in order. -/
def gather (bundle : Bundle) (ds : List Diagnostic) : Collector :=
  ds.foldl report { bundle }

theorem foldl_report (ds : List Diagnostic) : ∀ c : Collector,
    ds.foldl report c = { c with reported := c.reported ++ ds.toArray } := by
  induction ds with
  | nil =>
      intro c
      simp
  | cons d rest ih =>
      intro c
      rw [List.foldl_cons, ih]
      simp [report]

variable {bundle : Bundle} {ds : List Diagnostic} {c : Collector}

theorem gather_eq (bundle : Bundle) (ds : List Diagnostic) :
    gather bundle ds = { bundle, reported := ds.toArray } := by
  rw [gather, foldl_report]
  simp

theorem diagnostics_gather : (gather bundle ds).diagnostics = ds.mergeSort Diagnostic.le := by
  rw [diagnostics, gather_eq]

theorem size_gather : (gather bundle ds).size = ds.length := by
  rw [size, gather_eq]
  rfl

/-! ## The list -/

/-- The list holds the reports by position. -/
theorem pairwise_diagnostics (c : Collector) : c.diagnostics.Pairwise fun a b =>
    a.filePath < b.filePath ∨ a.filePath = b.filePath ∧
      (a.line < b.line ∨ a.line = b.line ∧ a.column ≤ b.column) :=
  (List.pairwise_mergeSort Diagnostic.weakOrder.trans Diagnostic.weakOrder.total _).imp
    Diagnostic.le_iff.1

/-- Reports at one position are listed as they came. -/
theorem filter_position_mergeSort (filePath : String) (line column : Int) (ds : List Diagnostic) :
    (ds.mergeSort Diagnostic.le).filter
        (fun d => d.filePath = filePath ∧ d.line = line ∧ d.column = column) =
      ds.filter fun d => d.filePath = filePath ∧ d.line = line ∧ d.column = column := by
  let there : Diagnostic := { filePath, line, column, messageKey := "", checkName := "" }
  have same : (fun d : Diagnostic =>
      decide (d.filePath = filePath ∧ d.line = line ∧ d.column = column)) =
        tied Diagnostic.le there := by
    funext d
    rw [Bool.eq_iff_iff, decide_eq_true_eq]
    exact (Diagnostic.tied_iff_position (a := there)).symm
  rw [same, Diagnostic.weakOrder.filter_tied_mergeSort]

/-- A further report leaves the order of what was listed before. -/
theorem diagnostics_sublist_report (c : Collector) (d : Diagnostic) :
    c.diagnostics.Sublist (c.report d).diagnostics := by
  refine Diagnostic.weakOrder.mergeSort_sublist ?_
  rw [report, Array.toList_push]
  exact List.sublist_append_left _ _

/-! ## The numbers -/

theorem count_gather (s : Severity) :
    (gather bundle ds).count s = ds.countP (·.severity = s) := by
  rw [count, diagnostics_gather]
  exact (List.mergeSort_perm ds Diagnostic.le).countP_eq _

/-- Every diagnostic has one of the three severities. -/
theorem sum_countP_severity (ds : List Diagnostic) :
    (Severity.all.map fun s => ds.countP (·.severity = s)).sum = ds.length := by
  induction ds with
  | nil => rfl
  | cons d rest ih =>
      simp only [Severity.all, List.map_cons, List.map_nil, List.sum_cons, List.sum_nil,
        List.countP_cons, List.length_cons] at ih ⊢
      cases severity : d.severity with
      | info => simp; omega
      | warning => simp; omega
      | error => simp; omega

/-! ## The renderings -/

/-- The message of a diagnostic, if it can be formatted. -/
def messageText (c : Collector) (d : Diagnostic) : String :=
  match (Logged.collect (c.message d).run).1 with
  | .ok message => message
  | .error _ => ""

/-- A message that can be formatted is the same every time. -/
theorem message_answers {d : Diagnostic}
    (formats : ∃ message, Attempt.Answers (c.message d) (.ok message)) :
    Attempt.Answers (c.message d) (.ok (c.messageText d)) := by
  obtain ⟨message, answers⟩ := formats
  have text : c.messageText d = message := by
    rw [messageText, Logged.Answers.collect_eq answers]
  rw [text]
  exact answers

end Collector

/-- The place of a diagnostic can be written if its numbers have 4300 digits at most. -/
theorem Diagnostic.isWritable_iff (d : Diagnostic) :
    d.isWritable = true ↔
      d.line.natAbs < 10 ^ Text.mostDigits ∧ d.column.natAbs < 10 ^ Text.mostDigits := by
  rw [isWritable, Bool.and_eq_true, Text.isWritable_iff, Text.isWritable_iff]

namespace Collector

variable {c : Collector}

/-- The record of a diagnostic with its message. -/
def recordOf (c : Collector) (d : Diagnostic) : Value :=
  .record (d.fields ++ [("message", .str (c.messageText d))])

variable (formats : ∀ d ∈ c.diagnostics, Attempt.Answers (c.message d) (.ok (c.messageText d)))

include formats

omit formats in
/-- A diagnostic has a line if its place can be written. -/
theorem written_answers {d : Diagnostic}
    (formats : Attempt.Answers (c.message d) (.ok (c.messageText d))) :
    Attempt.Answers (c.written d)
      (if d.isWritable then .ok (line d (c.messageText d)) else .error .digits) := by
  unfold written
  cases d.isWritable with
  | true => exact Attempt.Answers.bind formats.adapt (Attempt.Answers.pure _)
  | false => exact Attempt.Answers.throw _

theorem plain_answers (short : ∀ d ∈ c.diagnostics, d.isWritable = true) :
    Attempt.Answers c.plain (.ok (c.diagnostics.map fun d => line d (c.messageText d))) := by
  refine Attempt.Answers.mapM fun d there => ?_
  have answers := written_answers (formats d there)
  rwa [short d there] at answers

theorem plain_refuses (long : ∃ d ∈ c.diagnostics, d.isWritable = false) :
    Attempt.Answers c.plain (.error .digits) := by
  refine Attempt.Answers.mapM_error (fun d there => ?_) ?_
  · have answers := written_answers (formats d there)
    cases short : d.isWritable with
    | true =>
        rw [short] at answers
        exact .inl ⟨_, answers⟩
    | false =>
        rw [short] at answers
        exact .inr answers
  · obtain ⟨d, there, long⟩ := long
    have answers := written_answers (formats d there)
    rw [long] at answers
    exact ⟨d, there, answers⟩

/-- The records are made whatever numbers they hold. -/
theorem records_answers :
    Attempt.Answers (c.records.adapt Fault.message) (.ok (c.diagnostics.map c.recordOf)) := by
  refine Attempt.Answers.adapt (f := Fault.message) (r := .ok (c.diagnostics.map c.recordOf)) ?_
  refine Attempt.Answers.mapM fun d there => ?_
  exact Attempt.Answers.bind (formats d there) (Attempt.Answers.pure _)

omit formats in
/-- A record can be written if the place of the diagnostic can. -/
theorem refusal?_recordOf (c : Collector) (d : Diagnostic) :
    Json.refusal? (c.recordOf d) = if d.isWritable then none else some .digits := by
  have args : Json.refusal? (.texts d.args) = none := by
    rw [Value.texts, Json.refusal?, Json.itemsRefusal?_eq_findSome?, List.findSome?_eq_none_iff]
    intro v hv
    obtain ⟨arg, -, rfl⟩ := List.mem_map.1 hv
    rfl
  have both (a b : Bool) : ((if a then none else some Json.Refusal.digits).or
      (if b then none else some .digits)) = if a && b then none else some .digits := by
    cases a <;> cases b <;> rfl
  simp only [recordOf, Diagnostic.fields, Value.record, List.cons_append, List.nil_append,
    List.map_cons, List.map_nil, Json.refusal?, Json.fieldsRefusal?, Json.nameRefusal?, args,
    Option.none_or, Option.or_none, Diagnostic.isWritable]
  exact both (Text.isWritable d.line) (Text.isWritable d.column)

omit formats in
theorem refusal?_records (c : Collector) :
    Json.refusal? (.list (c.diagnostics.map c.recordOf)) = none ↔
      ∀ d ∈ c.diagnostics, d.isWritable = true := by
  rw [Json.refusal?, Json.itemsRefusal?_eq_findSome?, List.findSome?_eq_none_iff,
    List.forall_mem_map]
  refine forall₂_congr fun d _ => ?_
  rw [refusal?_recordOf]
  cases d.isWritable <;> simp

theorem json_answers (short : ∀ d ∈ c.diagnostics, d.isWritable = true) :
    Attempt.Answers c.json (.ok (Json.enclose (.block 2) 0 "[" "]"
      ((c.diagnostics.map c.recordOf).map (Json.renderAt (.block 2) 1)))) := by
  refine Attempt.Answers.bind (records_answers formats) ?_
  rw [Json.write, (refusal?_records c).2 short, Json.render_list]
  exact Attempt.Answers.pure _

theorem json_refuses (long : ∃ d ∈ c.diagnostics, d.isWritable = false) :
    Attempt.Answers c.json (.error .digits) := by
  refine Attempt.Answers.bind (records_answers formats) ?_
  cases refused : Json.refusal? (.list (c.diagnostics.map c.recordOf)) with
  | none =>
      obtain ⟨d, there, long⟩ := long
      have short := (refusal?_records c).1 refused d there
      rw [long] at short
      cases short
  | some reason =>
      rw [Json.write, refused]
      exact Attempt.Answers.throw _

omit formats

/-- **All views of a collector are of the same reports.**  For every sequence of reports, the list
is a permutation of it, ordered by file path (by code points), line and column, in which reports at
one position keep their order, and which a further report only adds to.  The numbers by severity
are those of the reports and add up to their number.  If all messages can be formatted and all
places written, both renderings have one entry for each diagnostic of the list, in its order and with
the same message; if some place cannot be written, both are refused for its digits. -/
theorem views_of_reports (bundle : Bundle) (ds : List Diagnostic) :
    let c := gather bundle ds
    c.diagnostics.Perm ds ∧
    c.diagnostics.Pairwise (fun a b => a.filePath < b.filePath ∨ a.filePath = b.filePath ∧
      (a.line < b.line ∨ a.line = b.line ∧ a.column ≤ b.column)) ∧
    (∀ filePath line column,
      c.diagnostics.filter (fun d => d.filePath = filePath ∧ d.line = line ∧ d.column = column) =
        ds.filter fun d => d.filePath = filePath ∧ d.line = line ∧ d.column = column) ∧
    (∀ d, c.diagnostics.Sublist (c.report d).diagnostics) ∧
    c.size = ds.length ∧
    c.counts = Severity.all.map (fun s => (s, ds.countP (·.severity = s))) ∧
    (c.counts.map Prod.snd).sum = c.size ∧
    ((∀ d ∈ ds, ∃ message, Attempt.Answers (bundle.format d.messageKey d.args) (.ok message)) →
      ((∀ d ∈ ds, d.isWritable = true) → ∃ lines texts : List String,
        Attempt.Answers c.plain (.ok lines) ∧
        Attempt.Answers c.json (.ok (Json.enclose (.block 2) 0 "[" "]" texts)) ∧
        lines.length = c.size ∧ texts.length = c.size ∧
        ∀ (i : Nat) (d : Diagnostic), c.diagnostics[i]? = some d → ∃ message,
          Attempt.Answers (bundle.format d.messageKey d.args) (.ok message) ∧
          lines[i]? = some (d.filePath ++ ":" ++ Text.ofInt d.line ++ ":" ++ Text.ofInt d.column ++
            ": [" ++ d.severity.name ++ "] " ++ message ++ " [" ++ d.checkName ++ "]") ∧
          texts[i]? = some (Json.renderAt (.block 2) 1 (.record
            [("file_path", .str d.filePath), ("line", .int d.line), ("column", .int d.column),
             ("message_key", .str d.messageKey), ("args", .texts d.args),
             ("check_name", .str d.checkName), ("severity", .str d.severity.name),
             ("message", .str message)]))) ∧
      ((∃ d ∈ ds, d.isWritable = false) →
        Attempt.Answers c.plain (.error .digits) ∧ Attempt.Answers c.json (.error .digits))) := by
  intro c
  have perm : c.diagnostics.Perm ds := by
    rw [diagnostics_gather]
    exact List.mergeSort_perm ds _
  have counts : c.counts = Severity.all.map fun s => (s, ds.countP (·.severity = s)) :=
    List.map_congr_left fun s _ => congrArg (Prod.mk s) (count_gather s)
  have length : c.diagnostics.length = c.size := by
    rw [perm.length_eq, size_gather]
  refine ⟨perm, pairwise_diagnostics c, ?_, diagnostics_sublist_report c, size_gather, counts, ?_,
    ?_⟩
  · intro filePath line column
    rw [diagnostics_gather, filter_position_mergeSort]
  · rw [counts, List.map_map, size_gather]
    exact sum_countP_severity ds
  · intro formats
    have bundled : c.bundle = bundle := congrArg Collector.bundle (gather_eq bundle ds)
    have formats : ∀ d ∈ c.diagnostics, Attempt.Answers (c.message d) (.ok (c.messageText d)) := by
      intro d there
      refine message_answers ?_
      rw [message, bundled]
      exact formats d (perm.mem_iff.1 there)
    constructor
    · intro short
      have short : ∀ d ∈ c.diagnostics, d.isWritable = true :=
        fun d there => short d (perm.mem_iff.1 there)
      refine ⟨_, _, plain_answers formats short, json_answers formats short, ?_, ?_, ?_⟩
      · rw [List.length_map, length]
      · rw [List.length_map, List.length_map, length]
      · intro i d there
        have formatted := formats d (List.mem_of_getElem? there)
        rw [message, bundled] at formatted
        refine ⟨_, formatted, ?_, ?_⟩
        · rw [List.getElem?_map, there]
          rfl
        · rw [List.getElem?_map, List.getElem?_map, there]
          rfl
    · rintro ⟨d, there, long⟩
      have long : ∃ d ∈ c.diagnostics, d.isWritable = false := ⟨d, perm.mem_iff.2 there, long⟩
      exact ⟨plain_refuses formats long, json_refuses formats long⟩

/-- Reports out of order, two of them at one position. -/
def scattered : List Diagnostic :=
  [{ filePath := "B.java", line := 2, column := 4, messageKey := "second", checkName := "c" },
   { filePath := "A.java", line := 9, column := 0, messageKey := "first", checkName := "c" },
   { filePath := "B.java", line := 2, column := 4, messageKey := "third", checkName := "c" }]

theorem views_of_scattered :
    (∀ d ∈ scattered, ∃ message,
      Attempt.Answers (Bundle.format {} d.messageKey d.args) (.ok message)) ∧
    (∀ d ∈ scattered, d.isWritable = true) ∧
    ∃ lines, Attempt.Answers (gather {} scattered).plain (.ok lines) ∧ lines.length = 3 := by
  have formats : ∀ d ∈ scattered, ∃ message,
      Attempt.Answers (Bundle.format {} d.messageKey d.args) (.ok message) :=
    fun d _ => ⟨Bundle.followedBy d.messageKey d.args, Attempt.Answers.pure _⟩
  have short : ∀ d ∈ scattered, d.isWritable = true := by decide +kernel
  obtain ⟨-, -, -, -, size, -, -, renderings⟩ := views_of_reports {} scattered
  obtain ⟨lines, texts, plain, -, length, -, -⟩ := (renderings formats).1 short
  exact ⟨formats, short, lines, plain, length.trans size⟩

/-- A column of 4301 digits cannot be written, although there is a message: there are no entries. -/
theorem longColumn_unwritten :
    let d : Diagnostic :=
      { filePath := "A.java", line := 1, column := 10 ^ 4300, messageKey := "k", checkName := "c" }
    let c := gather {} [d]
    (∃ message, Attempt.Answers (Bundle.format {} d.messageKey d.args) (.ok message)) ∧
      ¬(∃ lines, Attempt.Answers c.plain (.ok lines)) ∧
      ¬∃ document, Attempt.Answers c.json (.ok document) := by
  intro d c
  have formats : ∀ d' ∈ c.diagnostics, Attempt.Answers (c.message d') (.ok (c.messageText d')) :=
    fun d' _ => message_answers ⟨Bundle.followedBy d'.messageKey d'.args, Attempt.Answers.pure _⟩
  have long : ∃ d' ∈ c.diagnostics, d'.isWritable = false := by
    refine ⟨d, ?_, by decide +kernel⟩
    rw [diagnostics_gather, List.mem_mergeSort]
    exact List.mem_cons_self
  refine ⟨⟨_, Attempt.Answers.pure _⟩, ?_, ?_⟩
  · rintro ⟨lines, answered⟩
    cases Logged.Answers.unique answered (plain_refuses formats long)
  · rintro ⟨document, answered⟩
    cases Logged.Answers.unique answered (json_refuses formats long)

end Collector

end ModifierLint
