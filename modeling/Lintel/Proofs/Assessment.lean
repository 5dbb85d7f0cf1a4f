import Lintel.Proofs.CacheSoundness
import Lintel.Proofs.UnitContent

/-!
# The result of a source on its own

What becomes of a source when there is no cache and nobody cancels anything. It is what results are
compared with: a result that comes from a cache, or that is found while other sources are processed and
the run may be cancelled. The key of a source stands for this result as long as no two different texts
have the same digest.
-/

set_option autoImplicit false

namespace Lintel

/-! ## Rules that ask for nothing -/

/-- The registry without the requests of its rules to cancel the run. -/
def Registry.quiet (registry : Registry) : Registry :=
  ⟨registry.rules.map Rule.quiet⟩

namespace Registry

theorem contains_quiet (registry : Registry) (id : String) :
    registry.quiet.contains id = registry.contains id := by
  simp only [contains, get?, quiet, List.find?_map, Option.isSome_map]
  rfl

theorem quiet_eq_of_calm {registry : Registry} (calm : registry.Calm) : registry.quiet = registry := by
  have same : ∀ rule ∈ registry.rules, rule.quiet = rule := by
    intro rule member
    have evaluations : (fun node context => (⟨(rule.evaluate node context).outcome, false⟩ : Evaluation)) =
        rule.evaluate := by
      funext node context
      rw [← calm rule member node context]
    rw [Rule.quiet, evaluations]
  rw [quiet, List.map_congr_left same, List.map_id']

end Registry

/-- Directives depend on a registry only through the ids that it knows. -/
theorem Suppressions.scan_congr {first second : Registry}
    (same : ∀ id, first.contains id = second.contains id) (statements : List (Nat × Nat))
    (source : List Char) : scan first statements source = scan second statements source := by
  have known : Suppression.isKnownId first = Suppression.isKnownId second := by
    funext id
    rw [Suppression.isKnownId, Suppression.isKnownId, same]
  have selectors : Suppression.readSelectors first = Suppression.readSelectors second := by
    funext items
    induction items with
    | nil => rfl
    | cons item items ih => rw [Suppression.readSelectors, Suppression.readSelectors, known, ih]
  have comments : Suppression.readComment first = Suppression.readComment second := by
    funext text
    simp only [Suppression.readComment, Suppression.readBody, selectors]
  have takes : Suppression.Progress.take first = Suppression.Progress.take second := by
    funext layouts statements progress comment
    simp only [Suppression.Progress.take, comments]
  rw [scan, scan, takes]

namespace Analyzer

/-- The analyzer without the requests of its rules to cancel the run. -/
def quiet (analyzer : Analyzer) : Analyzer :=
  { analyzer with registry := analyzer.registry.quiet }

variable {analyzer : Analyzer} {source : Source}

theorem conclude_quiet (analyzer : Analyzer) (source : Source) (output : WalkOutput) :
    analyzer.quiet.conclude source output = analyzer.conclude source output := by
  rw [conclude, conclude]
  simp only [quiet, Suppressions.scan_congr analyzer.registry.contains_quiet]

theorem routingFor_quiet (analyzer : Analyzer) (path : String) :
    analyzer.quiet.routingFor path = (analyzer.routingFor path).quiet := by
  have routes : ∀ rule : Rule, Routing.routeOf? analyzer.config rule.quiet =
      (Routing.routeOf? analyzer.config rule).map fun route => { route with rule := route.rule.quiet } := by
    intro rule
    simp only [Routing.routeOf?, Rule.quiet]
    cases Table.find? rule.id analyzer.config.rules with
    | none => rfl
    | some settings => cases enabled : settings.enabled <;> simp [enabled]
  simp only [routingFor, Routing.ofConfig, Routing.without, Routing.quiet, quiet, Registry.quiet,
    List.filterMap_map, Function.comp_def, routes, ← List.map_filterMap, List.filter_map]
  rfl

/-! ## Results without cache and cancellation -/

/-- What becomes of a source that is walked to the end. -/
def assess (analyzer : Analyzer) (source : Source) : UnitResult :=
  match source.parse with
  | .error cause => .loadFailed cause.message
  | .ok parsed => .dispatched (analyzer.conclude source (analyzer.walkOf source parsed))

/-- What becomes of an input if there is no cache and nobody cancels anything. -/
def alone (analyzer : Analyzer) (tree : FileTree) (input : SourceInput) : UnitResult :=
  if analyzer.config.isExcluded input.path then .excluded
  else match input.load tree with
    | .error cause => .loadFailed cause.message
    | .ok source => analyzer.assess source

/-- The pipeline gives this result if it has no cache, its rules ask for nothing and nobody cancels the
run. Only the counts of the cache change. -/
theorem processUnit_quiet (analyzer : Analyzer) (tree : FileTree) (input : SourceInput)
    (stats : CacheStats) :
    ∃ counted, analyzer.quiet.processUnit input ⟨⟨none, stats⟩, .fresh, tree⟩ =
      (analyzer.alone tree input, ⟨⟨none, counted⟩, .fresh, tree⟩) := by
  have config : analyzer.quiet.config = analyzer.config := rfl
  simp only [processUnit, CancelToken.look_fresh, config, alone]
  split
  · exact ⟨stats, rfl⟩
  · cases loaded : input.load tree with
    | error cause => exact ⟨stats, rfl⟩
    | ok source =>
      simp only [Cache.lookup, analyze, assess]
      cases parses : source.parse with
      | error cause => exact ⟨_, rfl⟩
      | ok parsed =>
        simp only [routingFor_quiet, Dispatch.run_quiet_fresh, Cache.put, Cache.countMiss, conclude_quiet,
          walkOf]
        exact ⟨_, rfl⟩

theorem processAll_quiet (analyzer : Analyzer) (tree : FileTree) (inputs : List SourceInput)
    (stats : CacheStats) :
    ∃ counted, analyzer.quiet.processAll inputs ⟨⟨none, stats⟩, .fresh, tree⟩ =
      (inputs.map (analyzer.alone tree), ⟨⟨none, counted⟩, .fresh, tree⟩) := by
  induction inputs generalizing stats with
  | nil => exact ⟨stats, rfl⟩
  | cons input inputs ih =>
    obtain ⟨counted, first⟩ := analyzer.processUnit_quiet tree input stats
    obtain ⟨later, rest⟩ := ih counted
    exact ⟨later, by simp only [processAll, first, rest, List.map_cons]⟩

/-- The report of a run that has no cache, whose rules ask for nothing and that nobody cancels. -/
theorem run_quiet (analyzer : Analyzer) (tree : FileTree) (inputs : List SourceInput) :
    (analyzer.quiet.run inputs ⟨.disabled, .fresh, tree⟩).1 =
      .ofResults analyzer.config.failThreshold (inputs.map (analyzer.alone tree)) true := by
  obtain ⟨counted, processed⟩ := analyzer.processAll_quiet tree inputs {}
  simp only [run, Cache.disabled, processed, CancelToken.look_fresh, Bool.not_false]
  rfl

/-- The result of a source on its own depends on the rules, their settings, the per-file ignores and the
report threshold only. -/
theorem assess_congr {first second : Analyzer} (registry : first.registry = second.registry)
    (rules : first.config.rules = second.config.rules)
    (ignores : first.config.perFileIgnores = second.config.perFileIgnores)
    (threshold : first.config.reportThreshold = second.config.reportThreshold) (source : Source) :
    first.assess source = second.assess source := by
  obtain ⟨_, _, _, _, _, _⟩ := first
  obtain ⟨_, _, _, _, _, _⟩ := second
  cases registry
  cases rules
  cases ignores
  cases threshold
  rfl

end Analyzer

/-! ## Results that differ only in where they come from -/

/-- The result without saying whether it comes from a cache. -/
def UnitResult.content : UnitResult → UnitResult
  | cached diagnostics => dispatched diagnostics
  | result => result

/-- Reports that differ at most in how many results come from a cache. -/
structure RunReport.Agrees (first second : RunReport) : Prop where
  diagnostics : first.diagnostics = second.diagnostics
  gate : first.gate = second.gate
  warnings : first.warnings = second.warnings
  completed : first.completed = second.completed
  discovered : first.stats.discovered = second.stats.discovered
  excluded : first.stats.excluded = second.stats.excluded
  loadFailed : first.stats.loadFailed = second.stats.loadFailed
  analyzed : first.stats.analyzed = second.stats.analyzed
  abandoned : first.stats.abandoned = second.stats.abandoned
  split : first.stats.cached + first.stats.dispatched = second.stats.cached + second.stats.dispatched

namespace UnitResult

@[simp] theorem diagnostics?_content (result : UnitResult) :
    result.content.diagnostics? = result.diagnostics? := by
  cases result <;> rfl

@[simp] theorem warning?_content (result : UnitResult) : result.content.warning? = result.warning? := by
  cases result <;> rfl

@[simp] theorem isExcluded_content (result : UnitResult) :
    result.content.isExcluded = result.isExcluded := by
  cases result <;> rfl

@[simp] theorem isLoadFailed_content (result : UnitResult) :
    result.content.isLoadFailed = result.isLoadFailed := by
  cases result <;> rfl

@[simp] theorem isAbandoned_content (result : UnitResult) :
    result.content.isAbandoned = result.isAbandoned := by
  cases result <;> rfl

theorem content_of_diagnostics? {result : UnitResult} {diagnostics : List Diagnostic}
    (analyzed : result.diagnostics? = some diagnostics) : result.content = .dispatched diagnostics := by
  cases result with
  | cached found => exact congrArg dispatched (Option.some.inj analyzed)
  | dispatched found => exact congrArg dispatched (Option.some.inj analyzed)
  | _ => cases analyzed

theorem count_analyzed (results : List UnitResult) :
    results.countP isCached + results.countP isDispatched = (results.filterMap diagnostics?).length := by
  induction results with
  | nil => rfl
  | cons result results ih =>
    rw [List.countP_cons, List.countP_cons, List.filterMap_cons]
    cases result <;>
      simp only [isCached, isDispatched, diagnostics?, List.length_cons, if_true, Bool.false_eq_true, if_false] <;>
      omega

end UnitResult

theorem Analyzer.content_alone (analyzer : Analyzer) (tree : FileTree) (input : SourceInput) :
    (analyzer.alone tree input).content = analyzer.alone tree input := by
  rw [alone]
  split
  · rfl
  · split
    · rfl
    · rw [assess]
      split <;> rfl

theorem Analyzer.alone_ne_abandoned (analyzer : Analyzer) (tree : FileTree) (input : SourceInput) :
    analyzer.alone tree input ≠ .abandoned := by
  rw [alone]
  split
  · nofun
  · split
    · nofun
    · rw [assess]
      split <;> nofun

/-- The report of a run says the same wherever the results come from. -/
theorem RunReport.ofResults_agrees {first second : List UnitResult} (failThreshold : Severity)
    (completed : Bool) (same : first.map UnitResult.content = second.map UnitResult.content) :
    (ofResults failThreshold first completed).Agrees (ofResults failThreshold second completed) := by
  have units : first.filterMap UnitResult.diagnostics? = second.filterMap UnitResult.diagnostics? := by
    have mapped := congrArg (List.filterMap UnitResult.diagnostics?) same
    simpa [List.filterMap_map, Function.comp_def] using mapped
  have warnings : first.filterMap UnitResult.warning? = second.filterMap UnitResult.warning? := by
    have mapped := congrArg (List.filterMap UnitResult.warning?) same
    simpa [List.filterMap_map, Function.comp_def] using mapped
  have excluded : first.countP UnitResult.isExcluded = second.countP UnitResult.isExcluded := by
    have mapped := congrArg (List.countP UnitResult.isExcluded) same
    simpa [List.countP_map, Function.comp_def] using mapped
  have loadFailed : first.countP UnitResult.isLoadFailed = second.countP UnitResult.isLoadFailed := by
    have mapped := congrArg (List.countP UnitResult.isLoadFailed) same
    simpa [List.countP_map, Function.comp_def] using mapped
  have abandoned : first.countP UnitResult.isAbandoned = second.countP UnitResult.isAbandoned := by
    have mapped := congrArg (List.countP UnitResult.isAbandoned) same
    simpa [List.countP_map, Function.comp_def] using mapped
  have length : first.length = second.length := by simpa using congrArg List.length same
  constructor <;> simp only [ofResults, UnitResult.count_analyzed, units, warnings, excluded, loadFailed,
    abandoned, length]

/-! ## Keys that stand for results -/

/-- The sources that analyzers have to do with. -/
abbrev KnownSources := Analyzer → Source → Prop

/-- A result that is right for a key: that of a known source with this key, on its own. -/
def Stands (known : KnownSources) (key : CacheKey) (diagnostics : List Diagnostic) : Prop :=
  ∃ analyzer source, known analyzer source ∧ analyzer.keyOf source = key ∧
    analyzer.assess source = .dispatched diagnostics

/-- Known sources with one key have one result. -/
def TellsApart (known : KnownSources) : Prop :=
  ∀ first source second other, known first source → known second other →
    first.keyOf source = second.keyOf other → first.assess source = second.assess other

theorem Stands.assess_eq {known : KnownSources} (tells : TellsApart known) {analyzer : Analyzer}
    {source : Source} {diagnostics : List Diagnostic} (isKnown : known analyzer source)
    (stands : Stands known (analyzer.keyOf source) diagnostics) :
    analyzer.assess source = .dispatched diagnostics := by
  obtain ⟨other, origin, originKnown, same, result⟩ := stands
  rw [← result]
  exact tells analyzer source other origin isKnown originKnown same.symm

end Lintel
