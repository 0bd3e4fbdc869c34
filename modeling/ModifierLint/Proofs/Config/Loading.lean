/-
# Loading configurations

What configures a run is looked up, opened, decoded, read as a document and compared with what may
stand in it.  Where one of these steps refuses a file, an error of the configuration says so and a
run ends with two; but not every failure is such an error.  The lookup fails for a name that is too
long, a directory is there but cannot be opened, and what reads documents may fail in another way
than by calling the text malformed: octets need not be a text, and some types refuse the text of a
scalar in their own way.  These failures break a run down (`Escapes`), and nothing else does
(`loading_settles`).  What reads documents may be anything.

Configurations of the analysis and manifests of plugins are loaded alike: both are `loadThrough`,
each with its own complaints.  A manifest is announced with its name and its version, and there one
more failure escapes: a number in them can have too many digits.
-/
import ModifierLint.Plugin.Manifest
import ModifierLint.Proofs.CommandLine.ExitCode

namespace ModifierLint

variable {α : Type} {read : DocumentReader} {files : FileStore} {path : Path}

/-- What a reader makes of the octets of a document: of their text, and of what is wrong behind it. -/
def DocumentReader.ofOctets (read : DocumentReader) (octets : List UInt8) :
    Except DocumentFault Value :=
  read (Text.Utf8.universalNewlines (Text.Utf8.decodeChunks FileStore.pieceSize octets).1)
    (Text.Utf8.decodeChunks FileStore.pieceSize octets).2

/-- The document at the path is read as a value. -/
def Holds (read : DocumentReader) (files : FileStore) (path : Path) (v : Value) : Prop :=
  ∃ parts octets, files.find path = .entry parts (.file octets) ∧ read.ofOctets octets = .ok v

/-- The document at the path cannot be had, and that is no error of the configuration. -/
inductive Escapes (read : DocumentReader) (files : FileStore) (path : Path) : Prop
  | tooLong (lookup : files.find path = .tooLong)
  | directory {parts : List String} (lookup : files.find path = .entry parts .directory)
  | document {parts : List String} {octets : List UInt8} {f : DocumentFault}
      (lookup : files.find path = .entry parts (.file octets))
      (wrong : read.ofOctets octets = .error f) (other : f ≠ .malformed)

/-- What is loaded is there, or an error of the configuration. -/
def Settles (r : Except LoadFailure α) : Prop :=
  (∃ a, r = .ok a) ∨ ∃ e, r = .error (.config e)

theorem settles_ok (a : α) : Settles (.ok a) := .inl ⟨a, rfl⟩

theorem settles_config (e : ConfigError) : Settles (.error (.config e) : Except LoadFailure α) :=
  .inr ⟨e, rfl⟩

theorem settles_mapError (r : Except ConfigError α) : Settles (r.mapError .config) := by
  cases r with
  | ok a => exact settles_ok a
  | error e => exact settles_config e

/-- What does not settle fails with an error that is none of the configuration. -/
theorem not_settles_iff {r : Except LoadFailure α} :
    ¬Settles r ↔ ∃ e, r = .error e ∧ ∀ c, e ≠ .config c := by
  constructor
  · intro unsettled
    cases r with
    | ok a => exact absurd (settles_ok a) unsettled
    | error e => exact ⟨e, rfl, fun c same => unsettled (same ▸ settles_config c)⟩
  · rintro ⟨e, rfl, other⟩ (⟨a, loaded⟩ | ⟨c, refused⟩)
    · cases loaded
    · cases refused
      exact other c rfl

/-! ## Documents -/

/-- What the loading of a document fails with, by what is wrong with it. -/
def LoadFailure.ofFault (malformed : ConfigError) : DocumentFault → LoadFailure
  | .malformed => .config malformed
  | f => .document f

/-- Only a malformed document is an error of the configuration. -/
theorem LoadFailure.ofFault_of_ne (malformed : ConfigError) {f : DocumentFault}
    (other : f ≠ .malformed) : ofFault malformed f = .document f := by
  cases f with
  | malformed => exact absurd rfl other
  | undecodable | other => rfl

/-- The document of a file is what its octets read as. -/
theorem loadDocument_of_file {parts : List String} {octets : List UInt8} (read : DocumentReader)
    (malformed : ConfigError) (lookup : files.find path = .entry parts (.file octets)) :
    loadDocument read files path malformed =
      (read.ofOctets octets).mapError (.ofFault malformed) := by
  have opened : files.readDocument path =
      .ok (Text.Utf8.universalNewlines (Text.Utf8.decodeChunks FileStore.pieceSize octets).1,
        (Text.Utf8.decodeChunks FileStore.pieceSize octets).2) := by
    unfold FileStore.readDocument FileStore.read
    rw [lookup]
    rfl
  unfold loadDocument DocumentReader.ofOctets
  rw [opened]
  dsimp only
  generalize read _ _ = document
  cases document with
  | ok v => rfl
  | error f => cases f <;> rfl

/-- A directory has no document. -/
theorem loadDocument_of_directory {parts : List String} (read : DocumentReader)
    (malformed : ConfigError) (lookup : files.find path = .entry parts .directory) :
    loadDocument read files path malformed = .error (.opening (.isDirectory path.toString)) := by
  unfold loadDocument FileStore.readDocument FileStore.read
  rw [lookup]
  rfl

/-- A file holds a value if the reader makes its octets into the value. -/
theorem holds_iff {parts : List String} {octets : List UInt8} {v : Value}
    (lookup : files.find path = .entry parts (.file octets)) :
    Holds read files path v ↔ read.ofOctets octets = .ok v := by
  constructor
  · rintro ⟨_, _, found, holds⟩
    cases lookup.symm.trans found
    exact holds
  · exact fun holds => ⟨parts, octets, lookup, holds⟩

/-- From a file, only a fault of the reader escapes. -/
theorem escapes_iff {parts : List String} {octets : List UInt8}
    (lookup : files.find path = .entry parts (.file octets)) :
    Escapes read files path ↔ ∃ f, read.ofOctets octets = .error f ∧ f ≠ .malformed := by
  constructor
  · rintro (found | found | ⟨found, wrong, other⟩)
    · cases lookup.symm.trans found
    · cases lookup.symm.trans found
    · cases lookup.symm.trans found
      exact ⟨_, wrong, other⟩
  · rintro ⟨f, wrong, other⟩
    exact .document lookup wrong other

/-- Loads what a document describes, with the complaints about a file that is not there and about
one that is malformed. -/
def loadThrough (read : DocumentReader) (files : FileStore) (path : Path)
    (notFound malformed : ConfigError) (decode : Value → Except LoadFailure α) :
    Except LoadFailure α := do
  let isThere ← (files.isThere path).mapError .opening
  if !isThere then .error (.config notFound)
  decode (← loadDocument read files path malformed)

/-- Loading settles exactly if no failure escapes and what the document describes settles. -/
theorem loadThrough_settles_iff (read : DocumentReader) (files : FileStore) (path : Path)
    (notFound malformed : ConfigError) (decode : Value → Except LoadFailure α) :
    Settles (loadThrough read files path notFound malformed decode) ↔
      ¬Escapes read files path ∧ ∀ v, Holds read files path v → Settles (decode v) := by
  unfold loadThrough FileStore.isThere FileStore.entry?
  cases lookup : files.find path with
  | missing | blocked | unnamable =>
      refine iff_of_true (settles_config notFound) ⟨?_, ?_⟩
      · rintro (found | found | ⟨found, -, -⟩) <;> cases lookup.symm.trans found
      · rintro v ⟨parts, octets, found, -⟩
        cases lookup.symm.trans found
  | tooLong =>
      refine iff_of_false (not_settles_iff.2 ⟨_, rfl, nofun⟩) fun short => ?_
      exact short.1 (.tooLong lookup)
  | entry parts entry =>
      cases entry with
      | directory =>
          refine iff_of_false ?_ fun short => short.1 (.directory lookup)
          rw [loadDocument_of_directory read malformed lookup]
          exact not_settles_iff.2 ⟨_, rfl, nofun⟩
      | file octets =>
          rw [loadDocument_of_file read malformed lookup, escapes_iff lookup]
          simp only [holds_iff lookup]
          cases document : read.ofOctets octets with
          | ok v =>
              have contained : ¬∃ f, (Except.ok v : Except DocumentFault Value) = .error f ∧
                  f ≠ .malformed := by
                rintro ⟨f, wrong, -⟩
                cases wrong
              simp only [contained, Except.ok.injEq, forall_eq', not_false_eq_true, true_and]
              rfl
          | error f =>
              have unread : ∀ v, (.error f : Except DocumentFault Value) = .ok v →
                  Settles (decode v) := fun v read => by cases read
              by_cases same : f = .malformed
              · subst same
                refine iff_of_true (settles_config malformed) ⟨?_, unread⟩
                rintro ⟨_, ⟨⟩, other⟩
                exact other rfl
              · refine iff_of_false ?_ fun short => short.1 ⟨f, rfl, same⟩
                refine not_settles_iff.2 ⟨.document f, ?_, nofun⟩
                rw [← LoadFailure.ofFault_of_ne malformed same]
                rfl

/-! ## The two kinds of documents -/

/-- The analysis configuration that a document describes. -/
def AnalysisConfig.ofDocument (name : String) (document : Value) :
    Except ConfigError AnalysisConfig :=
  match document with
  | .null | .map _ => AnalysisConfig.parse document name
  | _ => .error (.fileNotMapping name)

theorem AnalysisConfig.load_eq (read : DocumentReader) (files : FileStore) (path : Path) :
    AnalysisConfig.load read files (some path) =
      loadThrough read files path (.fileNotFound path.toString) (.fileMalformed path.toString)
        fun v => (ofDocument path.toString v).mapError .config := by
  unfold AnalysisConfig.load loadThrough
  refine bind_congr fun isThere => ?_
  cases isThere with
  | false => rfl
  | true =>
      simp only [Bool.not_true, Bool.false_eq_true, if_false]
      refine bind_congr fun document => ?_
      unfold ofDocument
      cases document with
      | null | map =>
          dsimp only
          cases AnalysisConfig.parse _ path.toString <;> rfl
      | _ => rfl

theorem AnalysisConfig.load_settles_iff (read : DocumentReader) (files : FileStore) (path : Path) :
    Settles (AnalysisConfig.load read files (some path)) ↔ ¬Escapes read files path := by
  rw [AnalysisConfig.load_eq, loadThrough_settles_iff]
  exact and_iff_left fun v _ => settles_mapError _

namespace Manifest

/-- The manifest has all fields that it must have, but its name or its version cannot be written. -/
def Unnameable (m : Manifest) : Prop :=
  (∀ field ∈ requiredFields, (m.field? field).isSome = true) ∧ m.isNameable = false

/-- The manifest that a document describes. -/
def ofDocument (name : String) : Value → Except LoadFailure Manifest
  | .map entries =>
    match requiredFields.find? fun field => ((⟨entries⟩ : Manifest).field? field).isNone with
    | some field => .error (.config (.pluginIncomplete field name))
    | none => if isNameable ⟨entries⟩ then .ok ⟨entries⟩ else .error .unnameable
  | _ => .error (.config (.pluginNotMapping name))

theorem ofDocument_settles_iff (name : String) (v : Value) :
    Settles (ofDocument name v) ↔ ∀ entries, v = .map entries → ¬Unnameable ⟨entries⟩ := by
  cases v with
  | map entries =>
      have whole : (requiredFields.find? fun field =>
          ((⟨entries⟩ : Manifest).field? field).isNone) = none ↔
          ∀ field ∈ requiredFields, ((⟨entries⟩ : Manifest).field? field).isSome = true := by
        simp only [List.find?_eq_none, Bool.not_eq_true, Option.isNone_eq_false_iff]
      simp only [Value.map.injEq, forall_eq', ofDocument]
      cases missing : requiredFields.find? fun field =>
          ((⟨entries⟩ : Manifest).field? field).isNone with
      | some field =>
          refine iff_of_true (settles_config _) fun unnameable => ?_
          cases missing.symm.trans (whole.2 unnameable.1)
      | none =>
          cases nameable : isNameable ⟨entries⟩ with
          | true =>
              refine iff_of_true (settles_ok _) fun unnameable => ?_
              cases nameable.symm.trans unnameable.2
          | false =>
              have refused : ¬Settles (.error .unnameable : Except LoadFailure Manifest) :=
                not_settles_iff.2 ⟨_, rfl, fun c same => by cases same⟩
              exact iff_of_false refused fun free => free ⟨whole.1 missing, nameable⟩
  | _ => exact iff_of_true (settles_config _) fun entries same => by cases same

theorem load_answers (read : DocumentReader) (files : FileStore) {directory path : Path}
    (own : directory.append fileName = path) :
    Attempt.Answers (Manifest.load read files directory)
      (loadThrough read files path (.pluginNotFound path.toString)
        (.pluginMalformed path.toString) (ofDocument path.toString)) := by
  unfold Manifest.load loadThrough
  rw [own]
  cases there : (files.isThere path).mapError LoadFailure.opening with
  | error e => exact Attempt.Answers.bind_error fun _ => there
  | ok isThere =>
      refine Attempt.Answers.bind (fun _ => there) ?_
      cases isThere with
      | false => exact Attempt.Answers.throw _
      | true =>
          have later : (Except.ok true >>= fun isThere : Bool => do
              if !isThere then .error (.config (.pluginNotFound path.toString))
              ofDocument path.toString (← loadDocument read files path
                (.pluginMalformed path.toString))) =
              loadDocument read files path (.pluginMalformed path.toString) >>=
                ofDocument path.toString := rfl
          rw [later]
          generalize loadDocument read files path (.pluginMalformed path.toString) = loaded
          cases loaded with
          | error e =>
              cases e with
              | config e =>
                  exact Attempt.Answers.bind (Attempt.Answers.say .error e.message)
                    (Attempt.Answers.throw _)
              | opening | document | unnameable => exact Attempt.Answers.throw _
          | ok v =>
              cases v with
              | map entries =>
                  cases missing : requiredFields.find? fun field =>
                      ((⟨entries⟩ : Manifest).field? field).isNone with
                  | some field =>
                      simp only [Bool.not_true, Bool.false_eq_true, if_false, ofDocument, missing,
                        bind, Except.bind]
                      exact Attempt.Answers.throw _
                  | none =>
                      simp only [Bool.not_true, Bool.false_eq_true, if_false, ofDocument, missing,
                        bind, Except.bind]
                      cases isNameable ⟨entries⟩ with
                      | false => exact Attempt.Answers.throw _
                      | true =>
                          exact Attempt.Answers.bind (Attempt.Answers.lift (Logged.Answers.say _ _))
                            (Attempt.Answers.pure _)
              | _ => exact Attempt.Answers.throw _

end Manifest

/-! ## Runs -/

namespace Invocation

variable {i : Invocation} {a : Arguments} {log : Log}

/-- A run breaks down if loading its configuration fails with an error that escapes. -/
theorem run_of_escapes (reads : i.Reads a) (level : Log.setUp a.logLevel = .ok log)
    (configured : a.config = some path) (escapes : Escapes i.readers.document i.files path) :
    ∃ e, i.run = .error e := by
  have unsettled : ¬Settles (AnalysisConfig.load i.readers.document i.files a.config) := by
    rw [configured, AnalysisConfig.load_settles_iff]
    exact fun short => short escapes
  obtain ⟨e, failed, other⟩ := not_settles_iff.1 unsettled
  obtain ⟨lines, records, ended⟩ :=
    run_of_answers reads level (Attempt.Answers.bind_error (checkFiles_of_unloaded failed))
  cases e with
  | config c => exact absurd rfl (other c)
  | opening | document | unnameable => exact ⟨_, ended⟩

end Invocation

/-- **Loading an analysis configuration or a plugin's manifest comes to one, or to an error of the
configuration, unless a failure escapes**: the path cannot be looked up, a directory stands there,
or the reader fails otherwise than by calling the document malformed; or the name or the version of
a manifest has a number with too many digits.  An error of the configuration ends a run with two, and
a failure that escapes breaks it down. -/
theorem loading_settles (read : DocumentReader) (files : FileStore) :
    AnalysisConfig.load read files none = .ok {} ∧
    ∀ path,
      (Settles (AnalysisConfig.load read files (some path)) ↔ ¬Escapes read files path) ∧
      (∀ directory : Path, directory.append Manifest.fileName = path →
        ∃ r, Attempt.Answers (Manifest.load read files directory) r ∧
          (Settles r ↔ ¬Escapes read files path ∧
            ∀ entries, Holds read files path (.map entries) → ¬Manifest.Unnameable ⟨entries⟩)) ∧
      ∀ (i : Invocation) (a : Arguments) (log : Log), i.files = files →
        i.readers.document = read → i.Reads a → Log.setUp a.logLevel = .ok log →
        a.config = some path →
          (∀ e, AnalysisConfig.load read files (some path) = .error (.config e) →
            ∃ o, i.run = .ok o ∧ o.exitCode = 2 ∧ o.output = []) ∧
          (Escapes read files path → ∃ e, i.run = .error e) := by
  refine ⟨rfl, fun path => ⟨AnalysisConfig.load_settles_iff read files path, ?_, ?_⟩⟩
  · intro directory own
    refine ⟨_, Manifest.load_answers read files own, ?_⟩
    rw [loadThrough_settles_iff]
    refine and_congr_right fun _ => ?_
    simp only [Manifest.ofDocument_settles_iff]
    exact ⟨fun all entries holds => all _ holds entries rfl, fun all v holds entries same =>
      all entries (same ▸ holds)⟩
  · rintro i a log rfl rfl reads level configured
    refine ⟨fun e refused => ?_, Invocation.run_of_escapes reads level configured⟩
    rw [← configured] at refused
    exact Invocation.run_of_misconfigured (.document reads level refused)

/-- A run whose configuration is not there ends with two. -/
theorem loading_settles_of_missing :
    let i : Invocation :=
      ⟨[("MODCHECK_CONFIG_FILE", "c.yaml")], {}, ⟨EnvFile.parse, Yaml.read, fun _ => none⟩,
        ["A.java"], nofun⟩
    ∃ o, i.run = .ok o ∧ o.exitCode = 2 ∧ o.output = [] := by
  intro i
  have loaded : Settings.load i.readers.settings i.environment i.files =
      .ok { configFile := some (Path.ofString "c.yaml") } :=
    Settings.load_of_absent _ _ rfl
  have reads : i.Reads { Invocation.pathOnly "A.java" with config := some (.ofString "c.yaml") } :=
    ⟨_, loaded, Arguments.parse_path _ (by decide)⟩
  have missing : AnalysisConfig.load i.readers.document i.files (some (.ofString "c.yaml")) =
      .error (.config (.fileNotFound "c.yaml")) := by
    rw [Path.ofString_of_plain (by decide) (by decide) (by decide)]
    rfl
  obtain ⟨-, -, runs⟩ := (loading_settles i.readers.document i.files).2 (.ofString "c.yaml")
  obtain ⟨refused, -⟩ := runs i _ ⟨some 20⟩ rfl rfl reads rfl rfl
  exact refused _ missing

/-- A document that is a text, but is said to be an integer, is neither a configuration nor an error
of the configuration. -/
theorem unsettled_of_wrongType :
    let files : FileStore :=
      { entries := [(["config.yaml"], .file [33, 33, 105, 110, 116, 32, 120])] }
    ¬Settles (AnalysisConfig.load Yaml.read files (some ⟨"", ["config.yaml"]⟩)) ∧
      (∃ r, Attempt.Answers (Manifest.load Yaml.read files ⟨"", []⟩) r ∧ ¬Settles r) ∧
      ¬∀ (files : FileStore) (path : Path),
        Settles (AnalysisConfig.load Yaml.read files (some path)) := by
  intro files
  have lookup : files.find ⟨"", ["config.yaml"]⟩ =
      .entry ["config.yaml"] (.file [33, 33, 105, 110, 116, 32, 120]) := rfl
  have fault : (match DocumentReader.ofOctets Yaml.read [33, 33, 105, 110, 116, 32, 120] with
      | .ok _ => none
      | .error f => some f) =
      some (.other "ValueError" "invalid literal for int() with base 10: 'x'") := by
    decide +kernel
  have escapes : Escapes Yaml.read files ⟨"", ["config.yaml"]⟩ := by
    cases wrong : DocumentReader.ofOctets Yaml.read [33, 33, 105, 110, 116, 32, 120] with
    | ok v =>
        rw [wrong] at fault
        cases fault
    | error f =>
        rw [wrong] at fault
        cases fault
        exact .document lookup wrong nofun
  have unsettled : ¬Settles (AnalysisConfig.load Yaml.read files (some ⟨"", ["config.yaml"]⟩)) := by
    rw [AnalysisConfig.load_settles_iff]
    exact fun short => short escapes
  refine ⟨unsettled, ⟨_, Manifest.load_answers Yaml.read files rfl, ?_⟩,
    fun claimed => unsettled (claimed _ _)⟩
  rw [loadThrough_settles_iff]
  exact fun short => short.1 escapes

end ModifierLint
