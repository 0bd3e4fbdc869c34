/-
# Formatting messages

A bundle formats a message whatever the arguments are.  If the template is plain and an argument is
missing, the template itself is shown with the arguments behind it, and this is logged once; a key
without a template is shown in the same way, and this is not logged.  What is shown then has no
blanks at its ends (`Text.Stripped`).
-/
import ModifierLint.Message.Bundle
import ModifierLint.Proofs.Message.Filling

namespace ModifierLint

/-! ## Stripping -/

namespace Text

/-- The result is the text without blanks in front of it and behind it. -/
def Stripped (text result : String) : Prop :=
  ∃ front back, text.toList = front ++ (result.toList ++ back) ∧
    (∀ c ∈ front, isBlank c = true) ∧ (∀ c ∈ back, isBlank c = true) ∧
    (∀ c, result.toList.head? = some c → isBlank c = false) ∧
    ∀ c, result.toList.getLast? = some c → isBlank c = false

theorem head?_dropWhile {drop : Char → Bool} {cs : List Char} {c : Char}
    (first : (cs.dropWhile drop).head? = some c) : drop c = false := by
  have solid := List.head?_dropWhile_not drop cs
  rw [first] at solid
  exact solid

theorem dropWhile_of_head? {drop : Char → Bool} {cs : List Char}
    (solid : ∀ c, cs.head? = some c → drop c = false) : cs.dropWhile drop = cs := by
  cases cs with
  | nil => rfl
  | cons c cs => rw [List.dropWhile_cons_of_neg (by rw [solid c rfl]; decide)]

theorem stripped_strip (s : String) : Stripped s (strip s) := by
  have behind : s.toList.dropWhile isBlank = stripWhere isBlank s.toList ++
      ((s.toList.dropWhile isBlank).reverse.takeWhile isBlank).reverse := by
    rw [stripWhere, ← List.reverse_append, List.takeWhile_append_dropWhile, List.reverse_reverse]
  refine ⟨s.toList.takeWhile isBlank,
    ((s.toList.dropWhile isBlank).reverse.takeWhile isBlank).reverse, ?_, ?_, ?_, ?_, ?_⟩
  · rw [strip, String.toList_ofList, ← behind, List.takeWhile_append_dropWhile]
  · exact fun c hc => List.mem_takeWhile_imp hc
  · exact fun c hc => List.mem_takeWhile_imp (List.mem_reverse.1 hc)
  · intro c first
    rw [strip, String.toList_ofList] at first
    have solid : (s.toList.dropWhile isBlank).head? = some c := by
      rw [behind, List.head?_append, first]
      rfl
    exact head?_dropWhile solid
  · intro c last
    rw [strip, String.toList_ofList, stripWhere, List.getLast?_reverse] at last
    exact head?_dropWhile last

/-- A text has one such result. -/
theorem strip_eq_iff {s result : String} : strip s = result ↔ Stripped s result := by
  constructor
  · rintro rfl
    exact stripped_strip s
  rintro ⟨front, back, whole, before, behind, first, last⟩
  have left : s.toList.dropWhile isBlank = (result.toList ++ back).dropWhile isBlank := by
    rw [whole, List.dropWhile_append_of_pos before]
  have right : stripWhere isBlank s.toList = result.toList := by
    cases text : result.toList with
    | nil =>
        have blank : back.dropWhile isBlank = [] := List.dropWhile_eq_nil_iff.2 behind
        rw [stripWhere, left, text, List.nil_append, blank]
        rfl
    | cons c cs =>
        rw [text] at first last left
        have kept : (c :: cs ++ back).dropWhile isBlank = c :: cs ++ back :=
          dropWhile_of_head? first
        rw [stripWhere, left, kept, List.reverse_append,
          List.dropWhile_append_of_pos fun d hd => behind d (List.mem_reverse.1 hd),
          dropWhile_of_head? fun d hd => last d (by rwa [List.head?_reverse] at hd),
          List.reverse_reverse]
  rw [strip, right, String.ofList_toList]

end Text

/-! ## Messages -/

namespace Bundle

open Template (Part)

/-- What is logged if the argument with a number is missing. -/
def missingRecord (key : String) (args : List String) (i : Nat) : Record where
  level := .warning
  message := "Cannot format message '" ++ key ++ "' with " ++ Text.Quoted.tuple args ++ ": " ++
    ("Replacement index " ++ Nat.repr i ++ " out of range for positional args tuple")

/-- **A message is always formatted.**  Let the template of a key be made of texts and of places
that all have numbers or all have none.  If there are arguments for all places, the message is made
of the texts and of these arguments, and nothing is logged.  Otherwise the message is the template
and the arguments behind it, and the first missing argument is logged.  The message of a key without
a template is the key and the arguments behind it, and nothing is logged. -/
theorem format_plain (b : Bundle) (key : String) (args : List String) (records : Array Record) :
    (∀ parts, Template.Uniform parts → b.template? key = some (Template.source parts) →
      ((∀ i ∈ Template.references 0 parts, i < args.length) →
        (b.format key args).run.run records = (.ok (Template.filled args 0 parts), records)) ∧
      ((¬∀ i ∈ Template.references 0 parts, i < args.length) → ∃ message i,
        Text.Stripped (Template.source parts ++ " " ++ String.intercalate " " args) message ∧
        (Template.references 0 parts).find? (args.length ≤ ·) = some i ∧
        (b.format key args).run.run records =
          (.ok message, records.push (missingRecord key args i)))) ∧
    (b.template? key = none → ∃ message,
      Text.Stripped (key ++ " " ++ String.intercalate " " args) message ∧
      (b.format key args).run.run records = (.ok message, records)) := by
  refine ⟨fun parts uniform found => ⟨fun there => ?_, fun absent => ?_⟩, fun unknown => ?_⟩
  · have text := Template.format_source uniform args
    rw [Template.taking_of_lt there] at text
    simp only [format, found, text]
    rfl
  · obtain ⟨i, first⟩ : ∃ i, (Template.references 0 parts).find? (args.length ≤ ·) = some i := by
      refine Option.ne_none_iff_exists'.1 fun none_ => absent fun i hi => ?_
      simpa using List.find?_eq_none.1 none_ i hi
    have text := Template.format_source uniform args
    rw [Template.taking, first] at text
    refine ⟨followedBy (Template.source parts) args, i, Text.strip_eq_iff.1 rfl, first, ?_⟩
    have missing : (Template.Fault.noArgument i).isMissing = true := rfl
    simp only [format, found, text, missing, if_true]
    rfl
  · refine ⟨followedBy key args, Text.strip_eq_iff.1 rfl, ?_⟩
    simp only [format, unknown]
    rfl

/-- Braces beside places, and arguments that are taken twice and out of order. -/
def crowded : List Part :=
  [.text "\x7b", .numbered 1, .text "\x7d\x7b0", .numbered 0, .numbered 1]

theorem format_plain_of_crowded :
    let template := "\x7b\x7b\x7b1\x7d\x7d\x7d\x7b\x7b0\x7b0\x7d\x7b1\x7d"
    let b : Bundle := { templates := [("k", template)] }
    (b.format "k" ["\x7b1\x7d", " a"]).run.run #[] = (.ok "\x7b a\x7d\x7b0\x7b1\x7d a", #[]) ∧
    (∃ message, (b.format "k" ["a"]).run.run #[] = (.ok message, #[missingRecord "k" ["a"] 1])) ∧
    ∃ message, (b.format "l" ["a"]).run.run #[] = (.ok message, #[]) := by
  intro template b
  have uniform : Template.Uniform crowded := .inl (by
    intro p hp
    simp only [crowded, List.mem_cons, List.not_mem_nil, or_false] at hp
    rcases hp with rfl | rfl | rfl | rfl | rfl <;> simp [Part.Numbered, Template.largestNumber])
  have found : b.template? "k" = some (Template.source crowded) := rfl
  refine ⟨?_, ?_, ?_⟩
  · exact ((format_plain b "k" ["\x7b1\x7d", " a"] #[]).1 crowded uniform found).1 (by decide)
  · obtain ⟨message, i, -, first, formatted⟩ :=
      ((format_plain b "k" ["a"] #[]).1 crowded uniform found).2 (by decide)
    obtain rfl : 1 = i := Option.some.inj first
    exact ⟨message, formatted⟩
  · obtain ⟨message, -, formatted⟩ := (format_plain b "l" ["a"] #[]).2 rfl
    exact ⟨message, formatted⟩

end Bundle

end ModifierLint
