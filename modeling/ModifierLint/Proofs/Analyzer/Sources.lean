/-
# One source after the other

An analyzer is used for one source after the other, with plugins of which nothing is known but that
they are registered.  All that it keeps from one source to the next are walkers, and the walker that
it keeps for a language was built for the plugin of that language (`Analyzer.Keeps.analyzeSource`).

So what comes of a source that a plugin for Java gets depends on the plugin, the configuration, the
grammar and the source alone.  Either the violations of the rules that the plugin leaves on are
reported, or there is a reason (`Analyzer.Fails`), which is found before the first report.
-/
import ModifierLint.Proofs.Analyzer.Interleaving
import ModifierLint.Proofs.Analyzer.Refusal
import ModifierLint.Proofs.Java.Configured
import ModifierLint.Proofs.Java.Conversion
import ModifierLint.Proofs.Plugin.History

namespace ModifierLint

open Java (JavaPlugin ImpliedStatic)

/-! ## Sessions of an analyzer -/

/-- The sessions of an analyzer: sources are analyzed one after the other, whatever the log holds,
and in between anything may happen to the collector. -/
inductive Analyzer.ComesTo (a : Analyzer) : Session → Prop
  | start (collector : Collector) : ComesTo a ⟨a, collector⟩
  | source {s : Session} (filePath content : String) (records : Array Record) : ComesTo a s →
      ComesTo a (((Session.analyzeSource filePath content).run.run s).run records).1.2
  | collector {s : Session} (collector : Collector) : ComesTo a s → ComesTo a { s with collector }

/-- The session is one of the analyzer, and the walkers that are there were built for the plugins of
their languages. -/
structure Analyzer.Keeps (a : Analyzer) (s : Session) : Prop where
  registry : s.analyzer.registry = a.registry
  config : s.analyzer.config = a.config
  grammar : s.analyzer.grammar = a.grammar
  walkers : ∀ language w, Keyed.find? (· == language) s.analyzer.walkers = some w →
    ∃ q, a.registry.plugin? language = some q ∧
      ∃ records, ((a.buildWalker q).run.run records).1 = .ok w

namespace Analyzer

variable {a : Analyzer} {s : Session} {q : Plugin}

/-- The walker of a plugin depends on the configuration and on nothing else. -/
theorem buildWalker_congr {other : Analyzer} (same : other.config = a.config) (q : Plugin) :
    other.buildWalker q = a.buildWalker q := by
  unfold buildWalker
  rw [same]

theorem Keeps.collector (keeps : a.Keeps s) (collector : Collector) :
    a.Keeps { s with collector } :=
  ⟨keeps.registry, keeps.config, keeps.grammar, keeps.walkers⟩

/-- A walker that was built for the plugin of its language may be kept. -/
theorem Keeps.put (keeps : a.Keeps s) (registered : a.registry.plugin? q.language = some q)
    {w : Walker} (built : ∃ records, ((a.buildWalker q).run.run records).1 = .ok w) :
    a.Keeps
      { s with analyzer.walkers := Keyed.put (· == ·) q.language w s.analyzer.walkers } := by
  refine ⟨keeps.registry, keeps.config, keeps.grammar, fun language w' found => ?_⟩
  rw [Keyed.find?_put (fun _ => beq_iff_eq) (fun _ => beq_iff_eq)] at found
  split at found
  · next same =>
      cases found
      rw [← beq_iff_eq.1 same]
      exact ⟨q, registered, built⟩
  · exact keeps.walkers language w' found

theorem Keeps.walkerFor (keeps : a.Keeps s) (registered : a.registry.plugin? q.language = some q) :
    Session.Ends (Session.walkerFor q) s fun _ s' => a.Keeps s' := by
  unfold Session.walkerFor
  refine .bind_answers Session.Answers.get ?_
  dsimp only
  cases Keyed.find? (· == q.language) s.analyzer.walkers with
  | some w => exact .of_answers (Session.Answers.pure w) keeps
  | none =>
      refine .bind (.attempt id _) ?_ ?_
      · rintro w s' ⟨rfl, answered⟩
        have built := answered w rfl
        rw [buildWalker_congr keeps.config] at built
        exact .of_answers (.bind (Session.Answers.modify _) (Session.Answers.pure w))
          (keeps.put registered built)
      · rintro e s' ⟨rfl, -⟩
        exact keeps

/-- Analyzing a source with any plugin keeps the walkers of the plugins. -/
theorem Keeps.analyzeSource (named : a.registry.Named) (keeps : a.Keeps s)
    (filePath content : String) :
    Session.Ends (Session.analyzeSource filePath content) s fun _ s' => a.Keeps s' := by
  have choice := s.analyzer.registry.pluginForFile_answers filePath
  unfold Session.analyzeSource
  refine .bind_answers Session.Answers.get (.bind_answers (Session.Answers.log choice) ?_)
  cases chosen : s.analyzer.registry.choose filePath with
  | none => exact .of_answers (Session.Answers.throw _) keeps
  | some q =>
      rw [keeps.registry] at chosen
      obtain ⟨language, found⟩ := Registry.plugin?_of_choose chosen
      have registered : a.registry.plugin? q.language = some q := by
        rw [named.of_plugin? found]
        exact found
      have walker : Session.Ends ((Session.walkerFor q).adapt AnalysisFailure.setup) s
          fun _ s' => a.Keeps s' := .adapt (keeps.walkerFor registered)
      refine .bind walker (fun w s' kept => ?_) fun _ _ kept => kept
      refine .bind (.attempt AnalysisFailure.parse _) ?_ ?_
      · -- from here on only the collector changes
        rintro root s'' ⟨rfl, -⟩
        refine .bind_answers (Session.Answers.modify _) ?_
        have reported := kept.collector
          (s''.collector.reportAll (w.walk (.ofRoot root filePath)).reported.toList)
        split
        · exact .of_answers (Session.Answers.throw _) reported
        · exact .of_answers (.bind (Session.Answers.log (Logged.Answers.write _))
            (Session.Answers.pure _)) reported
      · rintro e s'' ⟨rfl, -⟩
        exact kept

/-- In every session of a new analyzer, the walkers are those of the plugins. -/
theorem ComesTo.keeps (named : a.registry.Named) (unused : a.walkers = []) (comes : a.ComesTo s) :
    a.Keeps s := by
  induction comes with
  | start collector =>
      refine ⟨rfl, rfl, rfl, fun language w found => ?_⟩
      rw [unused] at found
      cases found
  | source filePath content records _ ih => exact ih.analyzeSource named filePath content records
  | collector collector _ ih => exact ih.collector collector

/-! ## What comes of a source -/

/-- Why a source with a plugin for Java is not analyzed. -/
inductive Fails (a : Analyzer) (p : JavaPlugin) (filePath content : String) :
    AnalysisFailure → Prop
  /-- No plugin claims the file. -/
  | noPlugin : a.registry.choose filePath = none → Fails a p filePath content (.noPlugin filePath)
  /-- Something is wrong with the settings of the check, and it runs. -/
  | config {e : ConfigError} : a.registry.choose filePath = some p.toPlugin →
      p.considers a.config = true → a.config.Misfit →
      Fails a p filePath content (.setup (.config e))
  /-- What the manifest gives as the checks that run by default is not a list of names. -/
  | shape : a.registry.choose filePath = some p.toPlugin → ¬p.ListsChecks →
      Fails a p filePath content (.setup .shape)
  /-- There is no concrete tree, or an error in it. -/
  | parse {e : Java.ParseError} : a.registry.choose filePath = some p.toPlugin →
      Java.parseSource a.grammar filePath content = .error e →
      Fails a p filePath content (.parse e)

/-- What comes of a source with a plugin for Java, and of the collector.  The answer is the number
of nodes that violate the rules, and their diagnostics are added in pre-order; or there is a reason
why not, and nothing is added. -/
def Settles (a : Analyzer) (p : JavaPlugin) (filePath content : String) (before : Collector) :
    Except AnalysisFailure Nat → Collector → Prop
  | .ok n, after => a.registry.choose filePath = some p.toPlugin ∧
      ∃ tree, a.grammar content = some tree ∧ tree.hasError = false ∧
        let root := Java.Abstraction.convert content.toUTF8 tree
        let violating := (p.rules a.config).violations none root
        let added := violating.map (a.config.diagnostic filePath)
        n = violating.length ∧ violating.Sublist root.preorder ∧
          (∀ d ∈ added, d.filePath = filePath) ∧ after = before.reportAll added
  | .error e, after => a.Fails p filePath content e ∧ after = before

variable {p : JavaPlugin} {filePath content : String}

theorem misfit_of_fault? {config : AnalysisConfig} {e : ConfigError}
    (fault : p.fault? config = some e) : p.considers config = true ∧ config.Misfit := by
  unfold JavaPlugin.fault? at fault
  split at fault
  · next considered =>
      exact ⟨considered, (ImpliedStatic.fault?_iff_misfit _).1 ⟨e, fault⟩⟩
  · cases fault

/-- The walker of a plugin, whether it was built before or is built now, or why there is none. -/
theorem Keeps.walkerFor_answers (named : a.registry.Named) (keeps : a.Keeps s)
    (chosen : a.registry.choose filePath = some p.toPlugin) : ∃ r s',
    Session.Answers (Session.walkerFor p.toPlugin) s r s' ∧ s'.collector = s.collector ∧
      match r with
      | .ok w => Attempt.Answers (a.buildWalker p.toPlugin) (.ok w)
      | .error e => ∀ content, a.Fails p filePath content (.setup e) := by
  obtain ⟨language, found⟩ := Registry.plugin?_of_choose chosen
  have registered : a.registry.plugin? p.toPlugin.language = some p.toPlugin := by
    rw [named.of_plugin? found]
    exact found
  cases there : Keyed.find? (· == p.toPlugin.language) s.analyzer.walkers with
  | some w =>
      refine ⟨.ok w, s, Session.walkerFor_of_kept there, rfl, ?_⟩
      obtain ⟨q, found', records, built⟩ := keeps.walkers _ w there
      obtain rfl := Option.some.inj (registered.symm.trans found')
      obtain ⟨r, answers, -⟩ := p.buildWalker_answers a
      obtain rfl : r = .ok w := (answers records).symm.trans built
      exact answers
  | none =>
      have same := buildWalker_congr keeps.config p.toPlugin
      by_cases lists : p.ListsChecks
      · have walker := JavaPlugin.buildWalker_of_listed lists a
        cases fault : p.fault? a.config with
        | some e =>
            rw [fault, ← same] at walker
            obtain ⟨considered, misfit⟩ := misfit_of_fault? fault
            exact ⟨.error (.config e), s, Session.walkerFor_of_refused there walker, rfl,
              fun _ => .config chosen considered misfit⟩
        | none =>
            rw [fault] at walker
            obtain ⟨w, built⟩ := walker
            exact ⟨.ok w, _, Session.walkerFor_of_built there (same ▸ built), rfl, built⟩
      · have walker := JavaPlugin.buildWalker_of_unlisted lists a
        exact ⟨.error .shape, s, Session.walkerFor_of_refused there (same ▸ walker), rfl,
          fun _ => .shape chosen lists⟩

/-- A source that is parsed with a walker of the plugin reports the violations of its rules. -/
theorem analyzeSource_of_parsed {s' : Session} {w : Walker} {root : Node}
    (chosen : s.analyzer.registry.choose filePath = some p.toPlugin)
    (walker : Session.Answers (Session.walkerFor p.toPlugin) s (.ok w) s')
    (built : Attempt.Answers (a.buildWalker p.toPlugin) (.ok w))
    (parsed : Java.parseSource s.analyzer.grammar filePath content = .ok root) :
    let violating := (p.rules a.config).violations none root
    Session.Answers (Session.analyzeSource filePath content) s (.ok violating.length)
      { s' with collector :=
          s'.collector.reportAll (violating.map (a.config.diagnostic filePath)) } := by
  intro violating
  have parse := JavaPlugin.parse_answers s.analyzer.grammar filePath content
  rw [parsed] at parse
  obtain ⟨r, answers, kind⟩ := p.buildWalker_answers a
  obtain rfl := Logged.Answers.unique answers built
  have calm := (JavaPlugin.walk_calm (kind w rfl) (.ofRoot root filePath)).1
  have analyzed := Session.analyzeSource_of_walked chosen walker parse calm
  simp only [JavaPlugin.reported_of_plugin built, List.length_map] at analyzed
  exact analyzed

theorem Keeps.analyzeSource_answers (named : a.registry.Named) (keeps : a.Keeps s)
    (content : String) (java : ∀ q, a.registry.choose filePath = some q → q = p.toPlugin) :
    ∃ r s', Session.Answers (Session.analyzeSource filePath content) s r s' ∧
      a.Settles p filePath content s.collector r s'.collector := by
  cases chosen : a.registry.choose filePath with
  | none =>
      have unclaimed := chosen
      rw [← keeps.registry] at unclaimed
      exact ⟨_, s, Session.analyzeSource_of_unclaimed content unclaimed, .noPlugin chosen, rfl⟩
  | some q =>
      obtain rfl := java q chosen
      have claimed := chosen
      rw [← keeps.registry] at claimed
      obtain ⟨r, s', walker, kept, outcome⟩ := keeps.walkerFor_answers named chosen
      cases r with
      | error e =>
          exact ⟨_, s', Session.analyzeSource_of_refused content claimed walker, outcome content,
            kept⟩
      | ok w =>
          have parse := JavaPlugin.parse_answers s.analyzer.grammar filePath content
          cases parsed : Java.parseSource s.analyzer.grammar filePath content with
          | error e =>
              rw [parsed] at parse
              rw [keeps.grammar] at parsed
              exact ⟨_, s', Session.analyzeSource_of_unparsed claimed walker parse,
                .parse chosen parsed, kept⟩
          | ok root =>
              have analyzed := analyzeSource_of_parsed claimed walker outcome parsed
              rw [keeps.grammar] at parsed
              obtain ⟨tree, grown, sound, rfl⟩ := Java.parseSource_eq_ok_iff.1 parsed
              refine ⟨_, _, analyzed, chosen, tree, grown, sound, rfl,
                Java.Rules.violations_sublist _ _ _, ?_, ?_⟩
              · intro d member
                obtain ⟨n, -, rfl⟩ := List.mem_map.1 member
                rfl
              · exact congrArg (Collector.reportAll · _) kept

end Analyzer

end ModifierLint
