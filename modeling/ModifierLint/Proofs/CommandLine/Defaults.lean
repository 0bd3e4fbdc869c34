/-
# Settings as defaults

A setting that is no number is refused when the settings are loaded, but any text is taken as a
level or a format.  The options of the command line accept five levels and two formats; what stands
in for an option that is not given is not compared with these.  So a level that the log does not
know breaks a run down, and a format that there is not is taken for `plain`.

`Settings.Serves` is what one would ask of settings that were loaded, and they do it exactly if an
option could have chosen their level and their format (`Settings.serves_iff_usable`).
`Settings.run_by_load` puts this together with what happens if they cannot be loaded.
-/
import ModifierLint.Proofs.CommandLine.Choices
import ModifierLint.Proofs.CommandLine.ExitCode
import ModifierLint.Proofs.Text.Uppercase

namespace ModifierLint

/-! ## Levels -/

/-- All names of levels are Latin capitals. -/
theorem Log.thresholds_capitals {name : String} (known : name ∈ Keyed.keys Log.thresholds) :
    ∀ c ∈ name.toList, Text.IsCapital c := by
  have all : (Keyed.keys Log.thresholds).all (fun name =>
      name.toList.all fun c => 65 ≤ c.toNat && c.toNat ≤ 90) = true := by
    decide
  intro c there
  have capital := List.all_eq_true.1 (List.all_eq_true.1 all name known) c there
  simpa [Text.IsCapital] using capital

/-- The log can be set up with the names that it knows; another is complained about. -/
theorem Log.setUp_cases (name : String) :
    (Text.uppercase name ∈ Keyed.keys Log.thresholds ∧ ∃ log, Log.setUp name = .ok log) ∨
      (Text.uppercase name ∉ Keyed.keys Log.thresholds ∧
        Log.setUp name = .error (.unknownLevel (Text.uppercase name))) := by
  have known : Text.uppercase name ∈ Keyed.keys Log.thresholds ↔
      ∃ rank, Keyed.find? (· == Text.uppercase name) Log.thresholds = some rank :=
    Keyed.mem_keys_iff fun _ => beq_iff_eq
  cases found : Keyed.find? (· == Text.uppercase name) Log.thresholds with
  | some rank => exact .inl ⟨known.2 ⟨rank, found⟩, ⟨some rank⟩, by simp only [Log.setUp, found]⟩
  | none =>
      refine .inr ⟨fun member => ?_, by simp only [Log.setUp, found]⟩
      obtain ⟨rank, other⟩ := known.1 member
      rw [found] at other
      cases other

/-- A level is known to the log no matter how often its upper case is taken. -/
theorem Log.known_uppercase (level : String) :
    Text.uppercase (Text.uppercase level) ∈ Keyed.keys Log.thresholds ↔
      Text.uppercase level ∈ Keyed.keys Log.thresholds := by
  constructor
  · intro known
    rw [Text.uppercase_eq_of_capitals (Log.thresholds_capitals known) rfl]
    exact known
  · intro known
    rw [Text.uppercase_of_capitals (Log.thresholds_capitals known)]
    exact known

/-! ## Formats -/

/-- The format that the output has if a format is asked for. -/
def usedFormat (format : String) : String :=
  if format = "json" then "json" else "plain"

theorem renderFound_usedFormat (format : String) (c : Collector) :
    renderFound (usedFormat format) c = renderFound format c := by
  unfold usedFormat
  by_cases json : format = "json"
  · rw [if_pos json, json]
  · rw [if_neg json]
    unfold renderFound
    simp only [json, if_false]
    rfl

/-- A format that there is not is taken for `plain`. -/
theorem runArguments_usedFormat (files : FileStore) (readers : Readers) (a : Arguments) :
    runArguments files readers { a with format := usedFormat a.format } =
      runArguments files readers a := by
  have checks : checkAndRender files readers { a with format := usedFormat a.format } =
      checkAndRender files readers a := by
    unfold checkAndRender
    simp only [renderFound_usedFormat]
    rfl
  cases level : Log.setUp a.logLevel with
  | ok log =>
      have level' : Log.setUp { a with format := usedFormat a.format }.logLevel = .ok log := level
      rw [runArguments_eq level, runArguments_eq level', checks]
  | error e =>
      unfold runArguments
      simp only [level]
      rfl

theorem usedFormat_eq_iff {format : String} :
    usedFormat format = format ↔ format ∈ Arguments.formats := by
  unfold usedFormat
  by_cases json : format = "json"
  · rw [if_pos json, json]
    decide
  · rw [if_neg json]
    simp [Arguments.formats, json, eq_comm]

namespace Settings

/-! ## What settings do for a command line -/

/-- An option could have chosen the level and the format. -/
structure Usable (s : Settings) : Prop where
  level : Text.uppercase s.logLevel ∈ Arguments.logLevels
  format : s.outputFormat ∈ Arguments.formats

/-- The command line reads as `a`, with the level of the settings, which may be asked for and with
which the log can be set up, and with their format, which is one that there is and that is used. -/
structure Serves (s : Settings) (arguments : List String) (a : Arguments) : Prop where
  reads : Arguments.parse s arguments = .ok a
  level : a.logLevel = Text.uppercase s.logLevel ∧ a.logLevel ∈ Arguments.logLevels
  logs : ∃ log, Log.setUp a.logLevel = .ok log
  format : a.format = s.outputFormat ∧ a.format ∈ Arguments.formats
  written : usedFormat a.format = s.outputFormat

variable {s : Settings} {arguments : List String}

/-- Whether a command line can be read does not depend on the settings. -/
theorem stops_iff (s : Settings) (arguments : List String) (stop : Arguments.Stop) :
    Arguments.parse s arguments = .error stop ↔ Arguments.parse {} arguments = .error stop := by
  rcases Arguments.parse_eq arguments with ⟨other, stops⟩ | ⟨c, paths, -, -, reads⟩
  · rw [stops s, stops {}]
  · rw [reads s, reads {}]
    exact ⟨nofun, nofun⟩

/-- Where a command line leaves the level and the format open, it reads as those of the settings. -/
theorem parse_of_silent (s : Settings) {usual : Arguments}
    (readable : Arguments.parse {} arguments = .ok usual)
    (silent : ¬Arguments.Overrides arguments) :
    ∃ a, Arguments.parse s arguments = .ok a ∧ a.paths = usual.paths ∧
      a.logLevel = Text.uppercase s.logLevel ∧ a.format = s.outputFormat := by
  rcases Arguments.parse_eq arguments with ⟨stop, stops⟩ | ⟨c, paths, -, same, reads⟩
  · rw [stops] at readable
    cases readable
  · rw [reads] at readable
    cases readable
    obtain ⟨format, level⟩ := same silent
    refine ⟨_, reads s, rfl, ?_, ?_⟩
    · simp only [Arguments.Choices.arguments, level, Option.getD_none]
    · simp only [Arguments.Choices.arguments, format, Option.getD_none]

/-- Settings serve such a command line exactly if options could have chosen what they say. -/
theorem serves_iff_usable {a : Arguments} (reads : Arguments.parse s arguments = .ok a)
    (level : a.logLevel = Text.uppercase s.logLevel) (format : a.format = s.outputFormat) :
    s.Serves arguments a ↔ s.Usable := by
  constructor
  · intro serves
    refine ⟨?_, ?_⟩
    · rw [← level]
      exact serves.level.2
    · rw [← format]
      exact serves.format.2
  · intro usable
    have allowed : a.logLevel ∈ Arguments.logLevels := by
      rw [level]
      exact usable.level
    have offered : a.format ∈ Arguments.formats := by
      rw [format]
      exact usable.format
    refine ⟨reads, ⟨level, allowed⟩, Invocation.setUp_of_allowed allowed, ⟨format, offered⟩, ?_⟩
    rw [usedFormat_eq_iff.2 offered, format]

/-! ## Loading -/

/-- There is a file with settings, but it is not a text. -/
def Unreadable (files : FileStore) : Prop :=
  ∃ parts octets e, files.find envFile = .entry parts (.file octets) ∧
    Text.Utf8.decodeMarked octets = .error e

variable {environment : List (String × String)} {files : FileStore} {reader : EnvFile.Reader}

/-- The file with settings cannot be read exactly if it is not a text. -/
theorem readFile_fails_iff (reader : EnvFile.Reader) (environment : List (String × String)) :
    (∃ e, readFile reader environment files = .error e) ↔ Unreadable files := by
  unfold readFile Unreadable
  cases found : files.find envFile with
  | missing | blocked | tooLong | unnamable => exact ⟨nofun, nofun⟩
  | entry parts entry =>
      cases entry with
      | directory => exact ⟨nofun, nofun⟩
      | file octets =>
          have read : files.read envFile = .ok octets := by
            unfold FileStore.read
            rw [found]
          have text : files.readMarkedText envFile =
              ((Text.Utf8.decodeMarked octets).mapError .decoding).map fun cs =>
                String.ofList (Text.Utf8.universalNewlines cs) := by
            simp only [FileStore.readMarkedText, FileStore.decoded, read, Except.mapError, bind,
              Except.bind]
            cases Text.Utf8.decodeMarked octets <;> rfl
          simp only [text]
          cases decoded : Text.Utf8.decodeMarked octets with
          | error e => exact ⟨fun _ => ⟨_, _, e, rfl, decoded⟩, fun _ => ⟨.decoding e, rfl⟩⟩
          | ok cs =>
              refine ⟨nofun, ?_⟩
              rintro ⟨_, _, e, ⟨⟩, failed⟩
              rw [decoded] at failed
              cases failed

/-- Loading fails with what reading the file fails with, or with what is wrong with the settings. -/
theorem load_cases (reader : EnvFile.Reader) (environment : List (String × String))
    (files : FileStore) :
    (∃ e, readFile reader environment files = .error e ∧
      load reader environment files = .error (.reading e)) ∨
    (∃ file, readFile reader environment files = .ok file ∧
      load reader environment files = (ofFile environment file).mapError .config ∧
      ∀ e, load reader environment files ≠ .error (.reading e)) := by
  unfold load
  cases readFile reader environment files with
  | error e => exact .inl ⟨e, rfl, rfl⟩
  | ok file =>
      refine .inr ⟨file, rfl, rfl, fun e failed => ?_⟩
      simp only at failed
      cases made : ofFile environment file with
      | ok s =>
          rw [made] at failed
          cases failed
      | error e =>
          rw [made] at failed
          cases failed

theorem load_unreadable_iff :
    (∃ e, load reader environment files = .error (.reading e)) ↔ Unreadable files := by
  rw [← readFile_fails_iff reader environment]
  rcases load_cases reader environment files with ⟨e, read, failed⟩ | ⟨file, read, -, other⟩
  · exact ⟨fun _ => ⟨e, read⟩, fun _ => ⟨e, failed⟩⟩
  · rw [read]
    exact ⟨fun ⟨e, failed⟩ => absurd failed (other e), nofun⟩

/-- A file with settings that is not a text breaks every run down. -/
theorem run_of_unreadable {e : ReadFailure} (readers : Readers) (arguments : List String)
    (failed : load readers.settings environment files = .error (.reading e)) :
    run environment files readers arguments = .error (.reading e) := by
  rcases load_cases readers.settings environment files with ⟨e', read, failed'⟩ | ⟨file, -, -, other⟩
  · cases failed.symm.trans failed'
    unfold run
    rw [read]
  · exact absurd failed (other e)

/-- What a setting is bound to: in the environment or, where it is silent, in the file. -/
def written (environment : List (String × String)) (file : EnvFile) (name : String) :
    Option String :=
  (valueOf (environment.map fun (name, value) => (name, some value)) name).or
    (valueOf file.bindings name)

/-- Settings are refused for their number of workers only. -/
theorem ofFile_fails_iff (environment : List (String × String)) (file : EnvFile) :
    (∃ e, ofFile environment file = .error e) ↔
      ∃ text issues, written environment file "max_workers" = some text ∧
        positive text = .invalid issues := by
  unfold ofFile read
  cases bound : written environment file "max_workers" with
  | none =>
      unfold written at bound
      simp only [bound]
      exact ⟨nofun, nofun⟩
  | some text =>
      unfold written at bound
      simp only [bound]
      cases number : positive text with
      | valid n =>
          refine ⟨nofun, ?_⟩
          rintro ⟨_, issues, ⟨⟩, refused⟩
          cases number.symm.trans refused
      | invalid issues => exact ⟨fun _ => ⟨text, issues, rfl, number⟩, fun _ => ⟨_, rfl⟩⟩

/-- Loading is refused for the number of workers only. -/
theorem load_config_iff :
    (∃ e, load reader environment files = .error (.config e)) ↔
      ∃ file text issues, readFile reader environment files = .ok file ∧
        written environment file "max_workers" = some text ∧ positive text = .invalid issues := by
  rcases load_cases reader environment files with ⟨e, read, failed⟩ | ⟨file, read, made, -⟩
  · rw [read, failed]
    exact ⟨nofun, nofun⟩
  · rw [read, made]
    constructor
    · rintro ⟨e, failed⟩
      cases refused : ofFile environment file with
      | ok s =>
          rw [refused] at failed
          cases failed
      | error e =>
          obtain ⟨text, issues, bound, wrong⟩ := (ofFile_fails_iff environment file).1 ⟨e, refused⟩
          exact ⟨file, text, issues, rfl, bound, wrong⟩
    · rintro ⟨_, text, issues, ⟨⟩, bound, wrong⟩
      obtain ⟨e, refused⟩ := (ofFile_fails_iff environment file).2 ⟨text, issues, bound, wrong⟩
      exact ⟨e, by rw [refused]; rfl⟩

/-- Every text is taken as a level, and every text as a format. -/
theorem load_of_style (reader : EnvFile.Reader) (level format : String)
    (absent : files.at? [".env"] = none) :
    load reader [("MODCHECK_LOG_LEVEL", level), ("MODCHECK_OUTPUT_FORMAT", format)] files =
      .ok { logLevel := level, outputFormat := format } :=
  load_of_absent reader _ absent

/-! ## How a run goes on -/

variable {readers : Readers} {a : Arguments}

/-- A run breaks down at a level that the log does not know. -/
theorem run_of_unknownLevel (loaded : load readers.settings environment files = .ok s)
    (reads : Arguments.parse s arguments = .ok a)
    (level : a.logLevel = Text.uppercase s.logLevel)
    (unknown : Text.uppercase s.logLevel ∉ Keyed.keys Log.thresholds) :
    run environment files readers arguments =
      .error (.log (.unknownLevel (Text.uppercase a.logLevel))) := by
  obtain ⟨lines, whole⟩ := run_of_arguments loaded reads
  rcases Log.setUp_cases a.logLevel with ⟨known, -⟩ | ⟨-, refused⟩
  · rw [level, Log.known_uppercase] at known
    exact absurd known unknown
  · rw [whole]
    unfold runArguments
    rw [refused]
    rfl

/-- Otherwise the log is set up, and the run goes on with the format that is used for theirs. -/
theorem run_of_knownLevel (loaded : load readers.settings environment files = .ok s)
    (reads : Arguments.parse s arguments = .ok a)
    (level : a.logLevel = Text.uppercase s.logLevel) (format : a.format = s.outputFormat)
    (known : Text.uppercase s.logLevel ∈ Keyed.keys Log.thresholds) :
    (∃ log, Log.setUp a.logLevel = .ok log) ∧
      ∃ lines, run environment files readers arguments =
        (runArguments files readers { a with format := usedFormat s.outputFormat }).map
          (Outcome.afterComplaints lines) := by
  obtain ⟨lines, whole⟩ := run_of_arguments loaded reads
  refine ⟨?_, lines, ?_⟩
  · rw [level]
    rcases Log.setUp_cases (Text.uppercase s.logLevel) with ⟨-, made⟩ | ⟨unknown, -⟩
    · exact made
    · exact absurd ((Log.known_uppercase _).2 known) unknown
  · rw [whole, ← format, runArguments_usedFormat]

/-- **A run is refused for settings exactly if their number of workers is none, and otherwise they
serve the command line exactly if options could have chosen their level and format.**  If they
do not, the run breaks down for a level that the log does not know, and any format but `json` is
taken for `plain`.  A file with settings that is not a text breaks every run down.  What makes a text
into settings may be anything. -/
theorem run_by_load (environment : List (String × String)) (files : FileStore)
    (readers : Readers) (arguments : List String) :
    ((∃ e, load readers.settings environment files = .error (.config e)) ↔
      ∃ file text issues, readFile readers.settings environment files = .ok file ∧
        written environment file "max_workers" = some text ∧ positive text = .invalid issues) ∧
    (∀ e, load readers.settings environment files = .error (.config e) →
      ∃ o, run environment files readers arguments = .ok o ∧ o.exitCode = 2 ∧ o.output = []) ∧
    ((∃ e, load readers.settings environment files = .error (.reading e)) ↔ Unreadable files) ∧
    (∀ e, load readers.settings environment files = .error (.reading e) →
      run environment files readers arguments = .error (.reading e)) ∧
    ∀ s, load readers.settings environment files = .ok s →
      (∀ stop, Arguments.parse s arguments = .error stop ↔
        Arguments.parse {} arguments = .error stop) ∧
      ∀ usual, Arguments.parse {} arguments = .ok usual → ¬Arguments.Overrides arguments →
        ∃ a, Arguments.parse s arguments = .ok a ∧ a.paths = usual.paths ∧
          (s.Serves arguments a ↔ s.Usable) ∧
          (Text.uppercase s.logLevel ∉ Keyed.keys Log.thresholds →
            run environment files readers arguments =
              .error (.log (.unknownLevel (Text.uppercase a.logLevel)))) ∧
          (Text.uppercase s.logLevel ∈ Keyed.keys Log.thresholds →
            (∃ log, Log.setUp a.logLevel = .ok log) ∧
              ∃ lines, run environment files readers arguments =
                (runArguments files readers { a with format := usedFormat s.outputFormat }).map
                  (Outcome.afterComplaints lines)) := by
  refine ⟨load_config_iff, fun e => run_of_badSettings, load_unreadable_iff,
    fun e => run_of_unreadable readers arguments, fun s loaded => ⟨stops_iff s arguments, ?_⟩⟩
  intro usual readable silent
  obtain ⟨a, reads, paths, level, format⟩ := parse_of_silent s readable silent
  exact ⟨a, reads, paths, serves_iff_usable reads level format,
    run_of_unknownLevel loaded reads level,
    run_of_knownLevel loaded reads level format⟩

/-- A command line that consists of a path leaves the level and the format open. -/
theorem silent_of_path {text : String} (plain : text.toList.head? ≠ some '-') :
    ¬Arguments.Overrides [text] := by
  have unmarked : text ≠ "--" := by
    rintro rfl
    exact plain rfl
  have sorted : Arguments.kinds [text] = .ok [(text, .plain)] := by
    rw [Arguments.kinds, if_neg unmarked, Arguments.kindOf, if_pos plain]
    rfl
  rintro ⟨ks, sorted', styled⟩
  cases sorted.symm.trans sorted'
  refine styled fun entry member _ _ _ option => ?_
  obtain rfl := List.mem_singleton.1 member
  cases option

/-- A level in small letters serves a command line that consists of a path. -/
theorem run_by_load_of_debug :
    ∃ s a, load EnvFile.parse [("MODCHECK_LOG_LEVEL", "debug"),
        ("MODCHECK_OUTPUT_FORMAT", "json")] {} = .ok s ∧
      s.Serves ["A.java"] a := by
  have absent : FileStore.at? {} [".env"] = none := rfl
  have loaded := load_of_style EnvFile.parse "debug" "json" absent
  have plain : "A.java".toList.head? ≠ some '-' := by decide
  obtain ⟨-, -, -, -, served⟩ := run_by_load
    [("MODCHECK_LOG_LEVEL", "debug"), ("MODCHECK_OUTPUT_FORMAT", "json")] {}
    ⟨EnvFile.parse, Yaml.read, fun _ => none⟩ ["A.java"]
  obtain ⟨-, served⟩ := served _ loaded
  obtain ⟨a, -, -, serves, -⟩ := served _ (Arguments.parse_path {} plain) (silent_of_path plain)
  refine ⟨_, a, loaded, serves.2 ⟨?_, ?_⟩⟩
  · decide +kernel
  · decide

/-- Settings that were loaded serve no command line if their level is unknown, or their format. -/
theorem style_unserved :
    (∃ e, run [("MODCHECK_LOG_LEVEL", "bogus"), ("MODCHECK_OUTPUT_FORMAT", "plain")] {}
      ⟨EnvFile.parse, Yaml.read, fun _ => none⟩ ["A.java"] = .error e) ∧
    (∃ s a, load EnvFile.parse [("MODCHECK_LOG_LEVEL", "INFO"),
        ("MODCHECK_OUTPUT_FORMAT", "xml")] {} = .ok s ∧
      Arguments.parse s ["A.java"] = .ok a ∧ a.format = "xml" ∧ usedFormat a.format = "plain") ∧
    ¬∀ environment files arguments usual, Arguments.parse {} arguments = .ok usual →
      ¬Arguments.Overrides arguments →
        (∃ e, load EnvFile.parse environment files = .error (.config e)) ∨
          ∃ s a, load EnvFile.parse environment files = .ok s ∧ s.Serves arguments a := by
  have plain : "A.java".toList.head? ≠ some '-' := by decide
  have absent : FileStore.at? {} [".env"] = none := rfl
  have loaded := load_of_style EnvFile.parse "bogus" "plain" absent
  refine ⟨⟨_, run_of_unknownLevel loaded (Arguments.parse_path _ plain) rfl ?_⟩,
    ⟨_, _, load_of_style _ "INFO" "xml" absent, Arguments.parse_path _ plain, rfl, rfl⟩,
    fun claimed => ?_⟩
  · decide +kernel
  · rcases claimed [("MODCHECK_LOG_LEVEL", "bogus"), ("MODCHECK_OUTPUT_FORMAT", "plain")] {}
      ["A.java"] _ (Arguments.parse_path {} plain) (silent_of_path plain) with ⟨e, failed⟩ | served
    · cases loaded.symm.trans failed
    · obtain ⟨s, a, loaded', serves⟩ := served
      cases loaded.symm.trans loaded'
      have allowed := serves.level.2
      rw [serves.level.1] at allowed
      revert allowed
      decide +kernel

end Settings

end ModifierLint
