import Lintel.Proofs.ConfigView
import Lintel.Proofs.Deduplication
import Lintel.Proofs.UnitContent

/-!
# A report threshold only hides

Two runs over the same sources that differ in their report threshold only. The threshold is applied to each
source before its result is put in order, and results are put in order once more when they are brought
together; the diagnostics are nevertheless those of the run that shows everything, less those below the
threshold. This rests on severities that belong to ids: diagnostics of one identity have one severity, so
the threshold lets all of them through or none.
-/

set_option autoImplicit false

namespace Lintel

/-- The configuration with another report threshold. -/
def Config.showing (config : Config) (level : Severity) : Config :=
  { config with reportThreshold := level }

/-- The analyzer with another report threshold. -/
def Analyzer.showing (analyzer : Analyzer) (level : Severity) : Analyzer :=
  { analyzer with config := analyzer.config.showing level }

/-- Whether a diagnostic reaches a level. -/
def Diagnostic.reaches (level : Severity) (diagnostic : Diagnostic) : Bool :=
  level ≤ diagnostic.severity

/-- The result without what stays below a level. -/
def UnitResult.reaching (level : Severity) : UnitResult → UnitResult
  | cached diagnostics => cached (diagnostics.filter (Diagnostic.reaches level))
  | dispatched diagnostics => dispatched (diagnostics.filter (Diagnostic.reaches level))
  | result => result

/-! ## Resolving with another threshold -/

/-- A threshold given on invocation changes nothing but the threshold. -/
theorem Config.resolve_showing {registry : Registry} {profile : Profile} {options : Options}
    {config : Config} (resolved : resolve registry profile options = .ok config) (level : Severity) :
    resolve registry profile { options with reportThreshold := some level } =
      .ok (config.showing level) := by
  obtain ⟨rules, _, failThreshold, exclude, perFileIgnores⟩ := resolve_eq_ok_iff.mp resolved
  exact resolve_eq_ok_iff.mpr ⟨rules, rfl, failThreshold, exclude, perFileIgnores⟩

/-! ## One source -/

/-- Diagnostics whose severities belong to their ids. -/
def Analyzer.Levelled (analyzer : Analyzer) (diagnostics : List Diagnostic) : Prop :=
  ∀ diagnostic ∈ diagnostics, diagnostic.severity = analyzer.levelOf diagnostic.ruleId

/-- A level lets all diagnostics of one identity through, or none. -/
theorem Analyzer.Levelled.normalize_filter {analyzer : Analyzer} {diagnostics : List Diagnostic}
    (levelled : analyzer.Levelled diagnostics) (level : Severity) :
    Diagnostic.normalize (diagnostics.filter (Diagnostic.reaches level)) =
      (Diagnostic.normalize diagnostics).filter (Diagnostic.reaches level) := by
  refine Diagnostic.normalize_filter fun first firstMember second secondMember same => ?_
  simp only [Diagnostic.sameIdentity, Bool.and_eq_true, decide_eq_true_eq] at same
  obtain ⟨⟨⟨sameRule, _⟩, _⟩, _⟩ := same
  have sameSeverity : first.severity = second.severity := by
    rw [levelled first firstMember, levelled second secondMember, sameRule]
  rw [Diagnostic.reaches, Diagnostic.reaches, sameSeverity]

namespace Analyzer

variable {analyzer : Analyzer} {source : Source} {parsed : ParsedSource}

theorem levelled_stated (ownIds : analyzer.registry.OwnIds) :
    analyzer.Levelled (analyzer.statedDiagnostics source (analyzer.walkOf source parsed)) := by
  intro diagnostic member
  exact ((mem_statedDiagnostics_iff ownIds diagnostic).mp member).severity_eq ownIds

theorem conclude_showing_eq (level : Severity) (output : WalkOutput) :
    (analyzer.showing level).conclude source output = Diagnostic.normalize
      ((analyzer.statedDiagnostics source output).filter (Diagnostic.reaches level)) := rfl

theorem conclude_information (output : WalkOutput) :
    (analyzer.showing .information).conclude source output =
      Diagnostic.normalize (analyzer.statedDiagnostics source output) := by
  have everything : (analyzer.statedDiagnostics source output).filter (Diagnostic.reaches .information) =
      analyzer.statedDiagnostics source output :=
    List.filter_eq_self.mpr fun _ _ => decide_eq_true (Nat.zero_le _)
  rw [conclude_showing_eq, everything]

/-- Which diagnostics of a source reach a level may be asked before its result is put in order, or after. -/
theorem conclude_showing (ownIds : analyzer.registry.OwnIds) (level : Severity) :
    (analyzer.showing level).conclude source (analyzer.walkOf source parsed) =
      ((analyzer.showing .information).conclude source (analyzer.walkOf source parsed)).filter
        (Diagnostic.reaches level) := by
  rw [conclude_showing_eq, conclude_information, (levelled_stated ownIds).normalize_filter]

/-- Without a cache a source fares alike whatever is shown of it. It is not analyzed, or it is analyzed and
the threshold applies to what its walk gives; the state that it leaves is the same. -/
theorem processUnit_showing (analyzer : Analyzer) (input : SourceInput) (stats : CacheStats)
    (token : CancelToken) (tree : FileTree) :
    ∃ counted last,
      (∃ result : UnitResult, result.diagnostics? = none ∧ ∀ level,
        (analyzer.showing level).processUnit input ⟨⟨none, stats⟩, token, tree⟩ =
          (result, ⟨⟨none, counted⟩, last, tree⟩)) ∨
      ∃ source parsed, ∀ level,
        (analyzer.showing level).processUnit input ⟨⟨none, stats⟩, token, tree⟩ =
          (.dispatched ((analyzer.showing level).conclude source (analyzer.walkOf source parsed)),
            ⟨⟨none, counted⟩, last, tree⟩) := by
  have excludes : ∀ level, (analyzer.showing level).config.isExcluded input.path =
      analyzer.config.isExcluded input.path := fun _ => rfl
  have routes : ∀ level path, (analyzer.showing level).routingFor path = analyzer.routingFor path :=
    fun _ _ => rfl
  rcases token.look_cases with ⟨looked, look, _⟩ | ⟨looked, look, _⟩
  · exact ⟨stats, looked, .inl ⟨.abandoned, rfl, fun level => by simp only [processUnit, look]⟩⟩
  cases excluded : analyzer.config.isExcluded input.path with
  | true =>
    refine ⟨stats, looked, .inl ⟨.excluded, rfl, fun level => ?_⟩⟩
    simp only [processUnit, look, excludes, excluded, if_true]
  | false =>
    cases loaded : input.load tree with
    | error cause =>
      refine ⟨stats, looked, .inl ⟨.loadFailed cause.message, rfl, fun level => ?_⟩⟩
      simp only [processUnit, look, excludes, excluded, loaded, Bool.false_eq_true, if_false]
    | ok source =>
      refine ⟨{ stats with misses := stats.misses + 1 }, ?_⟩
      cases parses : source.parse with
      | error cause =>
        refine ⟨looked, .inl ⟨.loadFailed cause.message, rfl, fun level => ?_⟩⟩
        simp only [processUnit, look, excludes, excluded, loaded, Bool.false_eq_true, if_false,
          Cache.lookup, Cache.countMiss, analyze, parses]
      | ok parsed =>
        rcases Dispatch.run_cases (analyzer.routingFor source.path) ⟨source.path, parsed.lines⟩ parsed.body
          looked with ⟨last, walked⟩ | ⟨last, walked, _⟩
        · refine ⟨last, .inr ⟨source, parsed, fun level => ?_⟩⟩
          simp only [processUnit, look, excludes, excluded, loaded, Bool.false_eq_true, if_false,
            Cache.lookup, Cache.countMiss, analyze, parses, routes, walked, Cache.put, walkOf]
        · refine ⟨last, .inl ⟨.abandoned, rfl, fun level => ?_⟩⟩
          simp only [processUnit, look, excludes, excluded, loaded, Bool.false_eq_true, if_false,
            Cache.lookup, Cache.countMiss, analyze, parses, routes, walked]

/-- Sources that are processed one after another without a cache: with a threshold, each has what its result
with everything shown has above the threshold. -/
theorem processAll_showing (analyzer : Analyzer) (ownIds : analyzer.registry.OwnIds) (level : Severity)
    (inputs : List SourceInput) (stats : CacheStats) (token : CancelToken) (tree : FileTree) :
    ∃ results last,
      (analyzer.showing .information).processAll inputs ⟨⟨none, stats⟩, token, tree⟩ = (results, last) ∧
      (analyzer.showing level).processAll inputs ⟨⟨none, stats⟩, token, tree⟩ =
        (results.map (UnitResult.reaching level), last) ∧
      ∀ result ∈ results, ∀ diagnostics, result.diagnostics? = some diagnostics →
        analyzer.Levelled diagnostics := by
  induction inputs generalizing stats token with
  | nil => exact ⟨[], _, rfl, rfl, nofun⟩
  | cons input inputs ih =>
    obtain ⟨counted, next, fate⟩ := analyzer.processUnit_showing input stats token tree
    obtain ⟨results, last, whole, shown, levelled⟩ := ih counted next
    rcases fate with ⟨result, notAnalyzed, processed⟩ | ⟨source, parsed, processed⟩
    · refine ⟨result :: results, last, ?_, ?_, ?_⟩
      · simp only [processAll, processed, whole]
      · have unchanged : result.reaching level = result := by
          cases result <;> first | rfl | cases notAnalyzed
        simp only [processAll, processed, shown, List.map_cons, unchanged]
      · intro other member diagnostics analyzed
        rcases List.mem_cons.mp member with rfl | later
        · rw [notAnalyzed] at analyzed
          cases analyzed
        · exact levelled other later diagnostics analyzed
    · refine ⟨.dispatched ((analyzer.showing .information).conclude source
        (analyzer.walkOf source parsed)) :: results, last, ?_, ?_, ?_⟩
      · simp only [processAll, processed, whole]
      · simp only [processAll, processed, shown, List.map_cons, UnitResult.reaching, conclude_showing ownIds level]
      · intro other member diagnostics analyzed
        rcases List.mem_cons.mp member with rfl | later
        · cases analyzed
          intro diagnostic inside
          rw [conclude_information] at inside
          exact levelled_stated ownIds diagnostic (Diagnostic.normalize_subset _ inside)
        · exact levelled other later diagnostics analyzed

end Analyzer

/-! ## Reports and the gate -/

theorem SeverityCounts.atOrAbove_eq (counts : SeverityCounts) (level : Severity) :
    counts.atOrAbove level = match level with
      | .information => counts.information + counts.warning + counts.error
      | .warning => counts.warning + counts.error
      | .error => counts.error := by
  cases level with
  | information =>
    show 0 + counts.information + counts.warning + counts.error = _
    rw [Nat.zero_add]
  | warning =>
    show 0 + counts.warning + counts.error = _
    rw [Nat.zero_add]
  | error =>
    show 0 + counts.error = _
    rw [Nat.zero_add]

theorem SeverityCounts.atOrAbove_ofDiagnostics (diagnostics : List Diagnostic) (level : Severity) :
    (ofDiagnostics diagnostics).atOrAbove level = diagnostics.countP (Diagnostic.reaches level) := by
  induction diagnostics with
  | nil => cases level <;> rfl
  | cons diagnostic diagnostics ih =>
    have reached : diagnostic.reaches level = decide (level.rank ≤ diagnostic.severity.rank) := rfl
    rw [List.countP_cons, ← ih, reached]
    simp only [atOrAbove_eq, ofDiagnostics, List.countP_cons]
    cases level <;> cases diagnostic.severity <;> simp [Severity.rank] <;> omega

/-- A gate that looks at nothing below a level decides alike without what is below it. -/
theorem GateReport.outcome_filter {level failThreshold : Severity} (within : level ≤ failThreshold)
    (diagnostics : List Diagnostic) (completed : Bool) :
    (evaluate (diagnostics.filter (Diagnostic.reaches level)) failThreshold completed).outcome =
      (evaluate diagnostics failThreshold completed).outcome := by
  have counted : (diagnostics.filter (Diagnostic.reaches level)).countP (Diagnostic.reaches failThreshold) =
      diagnostics.countP (Diagnostic.reaches failThreshold) := by
    rw [List.countP_filter]
    refine List.countP_congr fun diagnostic _ => ?_
    simp only [Diagnostic.reaches, Bool.and_eq_true, decide_eq_true_eq, and_iff_left_iff_imp]
    exact Nat.le_trans within
  simp only [evaluate, SeverityCounts.atOrAbove_ofDiagnostics, counted]

section Results

variable {analyzer : Analyzer} {results : List UnitResult} (level : Severity)

theorem UnitResult.diagnostics?_reaching (result : UnitResult) :
    (result.reaching level).diagnostics? =
      result.diagnostics?.map fun diagnostics => diagnostics.filter (Diagnostic.reaches level) := by
  cases result <;> rfl

theorem UnitResult.units_reaching (results : List UnitResult) :
    (results.map (reaching level)).filterMap diagnostics? =
      (results.filterMap diagnostics?).map fun diagnostics =>
        diagnostics.filter (Diagnostic.reaches level) := by
  rw [List.filterMap_map, List.map_filterMap]
  refine List.filterMap_congr fun result _ => ?_
  exact result.diagnostics?_reaching level

/-- The diagnostics of a report whose results are cut down to a level are those of the whole report, cut
down to this level. -/
theorem aggregate_reaching (levelled : ∀ result ∈ results, ∀ diagnostics,
      result.diagnostics? = some diagnostics → analyzer.Levelled diagnostics) :
    Diagnostic.aggregate ((results.map (UnitResult.reaching level)).filterMap UnitResult.diagnostics?) =
      (Diagnostic.aggregate (results.filterMap UnitResult.diagnostics?)).filter
        (Diagnostic.reaches level) := by
  have together : analyzer.Levelled (results.filterMap UnitResult.diagnostics?).flatten := by
    intro diagnostic member
    obtain ⟨diagnostics, inside, isMember⟩ := List.mem_flatten.mp member
    obtain ⟨result, isResult, analyzed⟩ := List.mem_filterMap.mp inside
    exact levelled result isResult diagnostics analyzed diagnostic isMember
  rw [Diagnostic.aggregate, Diagnostic.aggregate, UnitResult.units_reaching, ← List.filter_flatten]
  exact together.normalize_filter level

/-- Every count of a report, and its warnings, tell how the sources fared, not what was found in them. -/
theorem stats_reaching (results : List UnitResult) (failThreshold : Severity) (completed : Bool) :
    let shown := RunReport.ofResults failThreshold (results.map (UnitResult.reaching level)) completed
    let whole := RunReport.ofResults failThreshold results completed
    shown.stats = whole.stats ∧ shown.warnings = whole.warnings := by
  have warnings : (results.map (UnitResult.reaching level)).filterMap UnitResult.warning? =
      results.filterMap UnitResult.warning? := by
    rw [List.filterMap_map]
    refine List.filterMap_congr fun result _ => ?_
    cases result <;> rfl
  have counts : ∀ isKind : UnitResult → Bool,
      (∀ result : UnitResult, isKind (result.reaching level) = isKind result) →
        (results.map (UnitResult.reaching level)).countP isKind = results.countP isKind := by
    intro isKind unchanged
    rw [List.countP_map]
    refine List.countP_congr fun result _ => ?_
    simp only [Function.comp_apply, unchanged]
  have excluded := counts UnitResult.isExcluded fun result => by cases result <;> rfl
  have cached := counts UnitResult.isCached fun result => by cases result <;> rfl
  have dispatched := counts UnitResult.isDispatched fun result => by cases result <;> rfl
  have loadFailed := counts UnitResult.isLoadFailed fun result => by cases result <;> rfl
  have abandoned := counts UnitResult.isAbandoned fun result => by cases result <;> rfl
  constructor
  · simp only [RunReport.ofResults, UnitResult.units_reaching, excluded, cached, dispatched, loadFailed,
      abandoned, List.length_map]
  · exact warnings

end Results

/-! ## Whole runs -/

theorem Analyzer.run_of_processAll {analyzer : Analyzer} {inputs : List SourceInput} {state last : RunState}
    {results : List UnitResult} (processed : analyzer.processAll inputs state = (results, last)) :
    (analyzer.run inputs state).1 =
      .ofResults analyzer.config.failThreshold results (!last.token.look.1) := by
  rw [run, processed]

/-- A report threshold only hides. With it, a run without a cache shows what the run that shows everything
has above it, in the same order; nothing else of the report changes, except that the gate may miss what is
hidden if the threshold is above that of the gate. -/
theorem Analyzer.threshold_only_hides {registry : Registry} {profile : Profile} {options : Options}
    {config : Config} (ownIds : registry.OwnIds)
    (resolved : Config.resolve registry profile options = .ok config) (inputs : List SourceInput)
    (token : CancelToken) (tree : FileTree) :
    ∃ everything,
      Config.resolve registry profile { options with reportThreshold := some .information } = .ok everything ∧
      everything = { config with reportThreshold := .information } ∧
      let shown := (run ⟨registry, config⟩ inputs ⟨.disabled, token, tree⟩).1
      let whole := (run ⟨registry, everything⟩ inputs ⟨.disabled, token, tree⟩).1
      shown.diagnostics =
        whole.diagnostics.filter (fun diagnostic => config.reportThreshold ≤ diagnostic.severity) ∧
      shown.warnings = whole.warnings ∧ shown.stats = whole.stats ∧ shown.completed = whole.completed ∧
      (config.reportThreshold ≤ config.failThreshold → shown.gate.outcome = whole.gate.outcome) := by
  refine ⟨config.showing .information, Config.resolve_showing resolved _, rfl, ?_⟩
  obtain ⟨results, last, whole, shown, levelled⟩ := processAll_showing ⟨registry, config⟩ ownIds
    config.reportThreshold inputs {} token tree
  have wholeRun : (run ⟨registry, config.showing .information⟩ inputs ⟨.disabled, token, tree⟩).1 =
      .ofResults config.failThreshold results (!last.token.look.1) := run_of_processAll whole
  have shownRun : (run ⟨registry, config⟩ inputs ⟨.disabled, token, tree⟩).1 = .ofResults config.failThreshold
      (results.map (UnitResult.reaching config.reportThreshold)) (!last.token.look.1) := run_of_processAll shown
  have diagnostics := aggregate_reaching config.reportThreshold levelled
  obtain ⟨stats, warnings⟩ := stats_reaching config.reportThreshold results config.failThreshold
    (!last.token.look.1)
  simp only [wholeRun, shownRun]
  refine ⟨diagnostics, warnings, stats, rfl, fun within => ?_⟩
  simp only [RunReport.ofResults, diagnostics]
  exact GateReport.outcome_filter within _ _

/-- A source with a warning and an error, of which the error alone is shown: the gate fails either way. -/
theorem Analyzer.threshold_only_hides_warning :
    let config : Config := ⟨Config.initialRules .builtin {}, [], [], .error, .error⟩
    let inputs : List SourceInput := [.given ⟨"a.py", "from m import *\neval(x)\n"⟩]
    let shown := (run ⟨.builtin, config⟩ inputs ⟨.disabled, .fresh, ⟨[], []⟩⟩).1
    Config.resolve .builtin {} { reportThreshold := some .error } = .ok config ∧
    shown.diagnostics.length = 1 ∧
    ∃ everything,
      Config.resolve .builtin {} { reportThreshold := some .information } = .ok everything ∧
      let whole := (run ⟨.builtin, everything⟩ inputs ⟨.disabled, .fresh, ⟨[], []⟩⟩).1
      shown.diagnostics = whole.diagnostics.filter (fun diagnostic => .error ≤ diagnostic.severity) ∧
      shown.stats = whole.stats ∧ whole.gate.outcome = .fail := by
  intro config inputs shown
  have resolved : Config.resolve .builtin {} { reportThreshold := some .error } = .ok config := rfl
  have oneShown : shown.diagnostics.length = 1 := by decide +kernel
  have fails : (run ⟨.builtin, config⟩ inputs ⟨.disabled, .fresh, ⟨[], []⟩⟩).1.gate.outcome = .fail := by
    decide +kernel
  obtain ⟨everything, resolvedWhole, _, diagnostics, _, stats, _, gate⟩ :=
    threshold_only_hides Registry.ownIds_builtin resolved inputs .fresh ⟨[], []⟩
  refine ⟨resolved, oneShown, everything, resolvedWhole, diagnostics, stats, ?_⟩
  exact (gate (Nat.le_refl Severity.error.rank)).symm.trans fails

end Lintel
