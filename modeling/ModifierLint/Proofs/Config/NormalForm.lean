/-
# Decoded configurations are normal forms

A document may spell a configuration in many ways: a truth value as a word or a number, a severity
or a key as octets, a list as a tuple, two keys that stand for one text, and fields that are left
out.  What comes out of decoding is spelled in one way (`AnalysisConfig.toValue`), and keeps every
check and every option of a check under one name.  That is what `AnalysisConfig.Normal` says, and
the normal configurations are exactly those that are read back from their own spelling
(`AnalysisConfig.read_toValue_iff`).  So decoding a document, writing the configuration down and
decoding that again comes to the same configuration.
-/
import ModifierLint.Config.Analysis
import ModifierLint.Proofs.Schema.Acceptance

namespace ModifierLint

open Schema Checked

/-! ## Fields -/

namespace Schema

variable {α : Type} {v : Value} {a : α} {read : Value → Checked α}

/-- A field that is given has the value that is read. -/
theorem optional_of_get? {entries : List (Value × Value)} {name : String} {default : α}
    (given : Value.get? entries name = some v) (back : read v = .valid a) :
    optional entries name default read = .valid a := by
  unfold optional
  rw [given]
  exact at_eq_valid.2 back

/-- A field has its default or a value that is read. -/
theorem eq_or_read_of_optional {entries : List (Value × Value)} {name : String} {default : α}
    (accepted : optional entries name default read = .valid a) :
    a = default ∨ ∃ v, read v = .valid a := by
  unfold optional at accepted
  split at accepted
  · next v given => exact .inr ⟨v, at_eq_valid.1 accepted⟩
  · cases accepted
    exact .inl rfl

/-- The name of a severity is read as the severity. -/
theorem severity_name (s : Severity) : severity (.str s.name) = .valid s := by
  simp only [severity, text?, Severity.ofName?_name]
  rfl

/-- Texts are read back as they are. -/
theorem list_texts (items : List String) : list string (.texts items) = .valid items := by
  rw [Value.texts, list, items_eq_valid, all_eq_valid, List.map_map, List.forall₂_map_left_iff,
    List.forall₂_same]
  exact fun _ _ => rfl

/-- Fields that are all used leave no extra keys. -/
theorem noExtras_of_forall {used : List String} {entries : List (Value × Value)}
    (known : ∀ entry ∈ entries, ∃ s ∈ used, entry.1 = .str s) :
    noExtras used entries = .valid () := by
  obtain ⟨_, equal⟩ := passes_noExtras.2 known
  exact equal

end Schema

/-! ## The configuration of one check -/

namespace CheckConfig

variable {c : CheckConfig} {v : Value}

/-- No option is there twice. -/
def Normal (c : CheckConfig) : Prop :=
  (Keyed.keys c.options).Nodup

theorem normal_of_read (accepted : read v = .valid c) : c.Normal := by
  cases v with
  | map entries =>
      simp only [read, record, seq_eq_valid, map_eq_valid] at accepted
      obtain ⟨_, _, ⟨_, options, ⟨_, _, ⟨_, _, ⟨_, -, rfl⟩, -, rfl⟩, -, rfl⟩, given, rfl⟩, -,
        rfl⟩ := accepted
      rcases eq_or_read_of_optional given with rfl | ⟨v, decoded⟩
      · exact List.nodup_nil
      · exact nodup_dict decoded
  | _ => cases accepted

/-- A configuration without repeated options is read back. -/
theorem read_toValue (normal : c.Normal) : read c.toValue = .valid c := by
  have tokens : nullable (list string) (c.tokens.elim .null .texts) = .valid c.tokens := by
    cases c.tokens with
    | none => rfl
    | some ts => exact map_eq_valid.2 ⟨ts, list_texts ts, rfl⟩
  have options : dict pure (.record c.options) = .valid c.options := by
    have same : c.options.map (fun entry => (entry.1, id entry.2)) = c.options := List.map_id' _
    have back : dict pure (.record (c.options.map fun entry => (entry.1, id entry.2))) =
        .valid c.options := dict_record normal fun _ _ => rfl
    rwa [same] at back
  simp only [read, toValue, Value.record, record, seq_eq_valid, map_eq_valid]
  refine ⟨_, _, ⟨_, _, ⟨_, _, ⟨_, _, ⟨_, ?enabled, rfl⟩, ?severity, rfl⟩, ?tokens, rfl⟩, ?options,
    rfl⟩, noExtras_of_forall ?known, rfl⟩
  case enabled => exact optional_of_get? rfl rfl
  case severity => exact optional_of_get? rfl (severity_name c.severity)
  case tokens => exact optional_of_get? rfl tokens
  case options => exact optional_of_get? rfl options
  case known => simp [fields]

/-- A configuration is read back from its spelling exactly if it is normal. -/
theorem read_toValue_iff : read c.toValue = .valid c ↔ c.Normal :=
  ⟨normal_of_read, read_toValue⟩

end CheckConfig

/-! ## The configuration of an analysis -/

namespace AnalysisConfig

variable {config : AnalysisConfig} {v : Value}

/-- No check is there twice, and no check has an option twice. -/
structure Normal (config : AnalysisConfig) : Prop where
  checks : (Keyed.keys config.checks).Nodup
  options : ∀ entry ∈ config.checks, entry.2.Normal

theorem normal_of_read (accepted : read v = .valid config) : config.Normal := by
  cases v with
  | map entries =>
      simp only [read, record, seq_eq_valid, map_eq_valid] at accepted
      obtain ⟨_, _, ⟨checks, given, rfl⟩, -, rfl⟩ := accepted
      rcases eq_or_read_of_optional given with rfl | ⟨v, decoded⟩
      · exact ⟨List.nodup_nil, nofun⟩
      · refine ⟨nodup_dict decoded, fun entry member => ?_⟩
        obtain ⟨_, check⟩ := value_of_mem_dict decoded member
        exact CheckConfig.normal_of_read check
  | _ => cases accepted

/-- A configuration is read back from its spelling exactly if it is normal. -/
theorem read_toValue_iff : read config.toValue = .valid config ↔ config.Normal := by
  refine ⟨normal_of_read, fun normal => ?_⟩
  have checks : dict CheckConfig.read
      (.record (config.checks.map fun entry => (entry.1, entry.2.toValue))) =
        .valid config.checks :=
    dict_record normal.checks fun entry member =>
      CheckConfig.read_toValue (normal.options entry member)
  simp only [read, toValue, Value.record, record, seq_eq_valid, map_eq_valid]
  refine ⟨_, _, ⟨_, optional_of_get? rfl checks, rfl⟩, noExtras_of_forall ?_, rfl⟩
  simp

/-- What is parsed is normal, whether the document was empty or not. -/
theorem normal_of_parse {document : Value} {source : String}
    (accepted : parse document source = .ok config) : config.Normal := by
  unfold parse at accepted
  dsimp only at accepted
  split at accepted
  · next config decoded =>
      cases accepted
      exact normal_of_read decoded
  · cases accepted

/-- **A parsed configuration is a fixed point of writing it down and parsing that.**  Whatever the
document was, its configuration parses from its own spelling, and every check is configured there as
it was before, mentioned or not. -/
theorem parse_toValue_of_parse {document : Value} {source : String}
    (accepted : parse document source = .ok config) (source' : String) :
    ∃ again, parse config.toValue source' = .ok again ∧ again = config ∧
      ∀ name, again.forCheck name = config.forCheck name := by
  have back := read_toValue_iff.2 (normal_of_parse accepted)
  refine ⟨config, ?_, rfl, fun _ => rfl⟩
  have present : config.toValue.isTruthy = true := rfl
  unfold parse
  rw [if_pos present]
  dsimp only
  rw [back]

/-- A document in which hardly anything is spelled the way it is written down: `a` stands once as
text and once as octets. -/
def looseDocument : Value :=
  .map [(.str "checks", .map
    [(.str "a", .map []),
     (.str "b", .map
      [(.str "severity", .bytes [105, 110, 102, 111]),
       (.str "tokens", .tuple [.bytes [88], .str "Y"]),
       (.str "options", .map [(.bytes [107], .int 1), (.str "l", .null), (.str "k", .list [])])]),
     (.bytes [97], .map [(.str "enabled", .str "Off"), (.str "tokens", .null)])])]

/-- The configuration of the document. -/
def looseConfig : AnalysisConfig where
  checks :=
    [("a", { enabled := false }),
     ("b",
      { severity := .info, tokens := some ["X", "Y"],
        options := [("k", .list []), ("l", .null)] })]

theorem parse_looseDocument :
    parse looseDocument "loose.yaml" = .ok looseConfig ∧
      ∃ again, parse looseConfig.toValue "tidy.yaml" = .ok again ∧ again = looseConfig ∧
        ∀ name, again.forCheck name = looseConfig.forCheck name := by
  have accepted : parse looseDocument "loose.yaml" = .ok looseConfig := by rfl
  exact ⟨accepted, parse_toValue_of_parse accepted "tidy.yaml"⟩

end AnalysisConfig

end ModifierLint
