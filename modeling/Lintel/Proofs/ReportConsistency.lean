import Lintel.Proofs.ReportThreshold
import Lintel.Proofs.Schedule

/-!
# What a report says

The counts of a report add up, and its gate says what its diagnostics say, in whatever order the sources were
processed, whatever the cache held and whenever the run was cancelled. A run without a cache fails if and only
if one of its sources fails on its own, because of diagnostics with one identity the most severe is kept. Thus
neither further sources nor a lower threshold can make up for a failure.
-/

set_option autoImplicit false

namespace Lintel

/-! ## The gate -/

namespace GateReport

variable (diagnostics : List Diagnostic) (failThreshold : Severity) (completed : Bool)

theorem counts_evaluate (level : Severity) :
    (evaluate diagnostics failThreshold completed).counts.get level =
      diagnostics.countP fun diagnostic => diagnostic.severity = level := by
  cases level <;> rfl

theorem incomplete_evaluate_iff :
    (evaluate diagnostics failThreshold completed).outcome = .incomplete ↔ completed = false := by
  cases completed with
  | false => exact ⟨fun _ => rfl, fun _ => rfl⟩
  | true =>
    simp only [evaluate, Bool.not_true, Bool.false_eq_true, if_false]
    split <;> simp

theorem fail_evaluate_iff :
    (evaluate diagnostics failThreshold completed).outcome = .fail ↔
      completed = true ∧ ∃ diagnostic ∈ diagnostics, failThreshold ≤ diagnostic.severity := by
  have positive : 0 < (SeverityCounts.ofDiagnostics diagnostics).atOrAbove failThreshold ↔
      ∃ diagnostic ∈ diagnostics, failThreshold ≤ diagnostic.severity := by
    rw [SeverityCounts.atOrAbove_ofDiagnostics, List.countP_pos_iff]
    simp only [Diagnostic.reaches, decide_eq_true_eq]
  rw [← positive]
  cases completed with
  | false => simp [evaluate]
  | true =>
    simp only [evaluate, Bool.not_true, Bool.false_eq_true, if_false, true_and]
    split <;> simp_all

theorem pass_evaluate_iff :
    (evaluate diagnostics failThreshold completed).outcome = .pass ↔
      completed = true ∧ ¬ ∃ diagnostic ∈ diagnostics, failThreshold ≤ diagnostic.severity := by
  have incomplete := incomplete_evaluate_iff diagnostics failThreshold completed
  have fail := fail_evaluate_iff diagnostics failThreshold completed
  cases outcome : (evaluate diagnostics failThreshold completed).outcome <;> simp_all

end GateReport

/-! ## Reports -/

namespace UnitResult

/-- Every result is of one kind. -/
theorem length_eq_add (results : List UnitResult) :
    results.length = results.countP isExcluded + results.countP isLoadFailed +
      results.countP isAbandoned + (results.filterMap diagnostics?).length := by
  induction results with
  | nil => rfl
  | cons result results ih =>
    rw [List.length_cons, ih, List.countP_cons, List.countP_cons, List.countP_cons, List.filterMap_cons]
    cases result <;> simp [isExcluded, isLoadFailed, isAbandoned, diagnostics?] <;> omega

theorem length_warnings (results : List UnitResult) :
    (results.filterMap warning?).length = results.countP isLoadFailed := by
  induction results with
  | nil => rfl
  | cons result results ih =>
    rw [List.filterMap_cons, List.countP_cons, ← ih]
    cases result <;> rfl

end UnitResult

namespace RunReport

/-- A report of a run over so many sources whose parts fit together. -/
structure Consistent (size : Nat) (failThreshold : Severity) (report : RunReport) : Prop where
  size : report.stats.discovered = size
  discovered : report.stats.discovered =
    report.stats.excluded + report.stats.loadFailed + report.stats.abandoned + report.stats.analyzed
  analyzed : report.stats.analyzed = report.stats.cached + report.stats.dispatched
  warnings : report.warnings.length = report.stats.loadFailed
  counts : ∀ level, report.gate.counts.get level =
    report.diagnostics.countP fun diagnostic => diagnostic.severity = level
  threshold : report.gate.failThreshold = failThreshold
  incomplete : report.gate.outcome = .incomplete ↔ report.completed = false
  fail : report.gate.outcome = .fail ↔
    report.completed = true ∧ ∃ diagnostic ∈ report.diagnostics, failThreshold ≤ diagnostic.severity
  pass : report.gate.outcome = .pass ↔
    report.completed = true ∧ ¬ ∃ diagnostic ∈ report.diagnostics, failThreshold ≤ diagnostic.severity

theorem consistent_ofResults (failThreshold : Severity) (results : List UnitResult) (completed : Bool) :
    (ofResults failThreshold results completed).Consistent results.length failThreshold where
  size := rfl
  discovered := UnitResult.length_eq_add results
  analyzed := (UnitResult.count_analyzed results).symm
  warnings := UnitResult.length_warnings results
  counts := GateReport.counts_evaluate _ failThreshold completed
  threshold := rfl
  incomplete := GateReport.incomplete_evaluate_iff _ failThreshold completed
  fail := GateReport.fail_evaluate_iff _ failThreshold completed
  pass := GateReport.pass_evaluate_iff _ failThreshold completed

end RunReport

/-- Whether something of a level was found in a source. -/
def UnitResult.Fails (level : Severity) (result : UnitResult) : Prop :=
  ∃ diagnostics, result.diagnostics? = some diagnostics ∧
    ∃ diagnostic ∈ diagnostics, level ≤ diagnostic.severity

theorem UnitResult.fails_content (level : Severity) (result : UnitResult) :
    result.content.Fails level ↔ result.Fails level := by
  rw [Fails, Fails, diagnostics?_content]

theorem UnitResult.Fails.lower {lower level : Severity} (below : lower ≤ level) {result : UnitResult}
    (fails : result.Fails level) : result.Fails lower := by
  obtain ⟨diagnostics, analyzed, diagnostic, member, reached⟩ := fails
  exact ⟨diagnostics, analyzed, diagnostic, member, Nat.le_trans below reached⟩

/-- A complete run fails through one of its sources. What another source takes out of the report, it puts
something in for that is at least as severe. -/
theorem RunReport.fail_ofResults_iff (failThreshold : Severity) (results : List UnitResult) :
    (ofResults failThreshold results true).gate.outcome = .fail ↔
      ∃ result ∈ results, result.Fails failThreshold := by
  have fail := (consistent_ofResults failThreshold results true).fail
  rw [fail]
  constructor
  · rintro ⟨_, diagnostic, member, reached⟩
    obtain ⟨diagnostics, inside, isMember⟩ := List.mem_flatten.mp (Diagnostic.normalize_subset _ member)
    obtain ⟨result, isResult, analyzed⟩ := List.mem_filterMap.mp inside
    exact ⟨result, isResult, diagnostics, analyzed, diagnostic, isMember, reached⟩
  · rintro ⟨result, isResult, diagnostics, analyzed, diagnostic, isMember, reached⟩
    have inside : diagnostic ∈ (results.filterMap UnitResult.diagnostics?).flatten :=
      List.mem_flatten.mpr ⟨diagnostics, List.mem_filterMap.mpr ⟨result, isResult, analyzed⟩, isMember⟩
    obtain ⟨kept, isKept, _, severer⟩ := Diagnostic.exists_severer_mem_normalize inside
    exact ⟨rfl, kept, isKept, Nat.le_trans reached severer⟩

/-! ## Runs -/

namespace Analyzer

/-- A report that a run may end with, in whatever order it takes its steps and whenever it is cancelled. -/
def Reports (analyzer : Analyzer) (inputs : List SourceInput) (start : RunState) (report : RunReport) :
    Prop :=
  ∃ outcomes last, analyzer.Reaches (.start inputs start) (.done outcomes last) ∧
    report = .ofResults analyzer.config.failThreshold (outcomes.map Prod.snd) (!last.token.look.1)

/-- The analyzer with another level at which a run fails. -/
def failingAt (analyzer : Analyzer) (level : Severity) : Analyzer :=
  { analyzer with config := { analyzer.config with failThreshold := level } }

variable {analyzer : Analyzer} {inputs : List SourceInput} {start : RunState} {report : RunReport}

theorem reports_run (analyzer : Analyzer) (inputs : List SourceInput) (start : RunState) :
    analyzer.Reports inputs start (analyzer.run inputs start).1 := by
  refine ⟨_, _, analyzer.reaches_processAll inputs start, ?_⟩
  rw [results_outcomesOf]
  rfl

theorem Reports.consistent (reports : analyzer.Reports inputs start report) :
    report.Consistent inputs.length analyzer.config.failThreshold := by
  obtain ⟨outcomes, last, reaches, rfl⟩ := reports
  have sameLength : (outcomes.map Prod.snd).length = inputs.length := by
    simpa [Session.start, Session.done] using congrArg List.length (inputs_of_reaches reaches)
  rw [← sameLength]
  exact RunReport.consistent_ofResults _ _ _

/-- A cache that keeps nothing answers with the results that sources have on their own. -/
theorem answers_of_disabled (analyzer : Analyzer) :
    analyzer.Answers (fun _ => True) analyzer.assess none (fun cache _ => cache.isEnabled = false) := by
  have noStore : ∀ {cache : Cache}, cache.isEnabled = false → cache = ⟨none, cache.stats⟩ := by
    rintro ⟨_ | store, stats⟩ disabled
    · rfl
    · cases disabled
  constructor
  · intro cache tree source diagnostics disabled _ found
    rw [noStore disabled] at found
    cases found
  · intros
    rfl
  · intro cache tree source disabled
    rw [noStore disabled]
    rfl
  · intro cache tree source diagnostics disabled _ _ _
    rw [noStore disabled]
    exact ⟨rfl, .refl _ _⟩

/-- A complete run without a cache fails if and only if one of its sources fails on its own. -/
theorem Reports.fail_iff (reports : analyzer.Reports inputs start report)
    (disabled : start.cache.isEnabled = false) (completed : report.completed = true) :
    report.gate.outcome = .fail ↔
      ∃ input ∈ inputs, (analyzer.alone start.tree input).Fails analyzer.config.failThreshold := by
  obtain ⟨outcomes, last, reaches, rfl⟩ := reports
  have looked : last.token.look.1 = false := by simpa [RunReport.ofResults] using completed
  have admissible : ∀ input ∈ inputs, analyzer.Admissible (fun _ => True) none start.tree input := by
    intro input _
    refine ⟨?_, fun _ _ _ => trivial⟩
    cases input with
    | given source => trivial
    | file found =>
      intro place _ root isRoot
      cases isRoot
  obtain ⟨_, sameInputs, sound⟩ :=
    outcomes_sound analyzer.answers_of_disabled admissible ⟨disabled, .refl _ _⟩ reaches
  have contents : (outcomes.map Prod.snd).map UnitResult.content = inputs.map (analyzer.alone start.tree) :=
    contents_of_uncancelled sameInputs sound (CancelToken.cancelled_of_look looked)
  rw [looked, Bool.not_false, RunReport.fail_ofResults_iff]
  constructor
  · rintro ⟨result, isResult, fails⟩
    have member := List.mem_map_of_mem (f := UnitResult.content) isResult
    rw [contents] at member
    obtain ⟨input, isInput, same⟩ := List.mem_map.mp member
    exact ⟨input, isInput, by rwa [same, UnitResult.fails_content]⟩
  · rintro ⟨input, isInput, fails⟩
    have member := List.mem_map_of_mem (f := analyzer.alone start.tree) isInput
    rw [← contents] at member
    obtain ⟨result, isResult, same⟩ := List.mem_map.mp member
    exact ⟨result, isResult, by rwa [← UnitResult.fails_content, same]⟩

/-- What becomes of a source does not depend on the level at which a run fails. -/
theorem alone_failingAt (level : Severity) {tree other : FileTree} {input : SourceInput}
    (same : input.load other = input.load tree) :
    (analyzer.failingAt level).alone other input = analyzer.alone tree input := by
  rw [alone, alone, same]
  rfl

/-- The parts of every report fit together. Where a run without a cache fails, so does every complete run
without a cache over these and further sources, also with a lower threshold. The report of taking one source
after another is among those that are meant. -/
theorem report_consistent_and_failure_persists (analyzer : Analyzer) (inputs : List SourceInput)
    (start : RunState) :
    analyzer.Reports inputs start (analyzer.run inputs start).1 ∧
    ∀ report, analyzer.Reports inputs start report →
      report.Consistent inputs.length analyzer.config.failThreshold ∧
      ∀ (more : List SourceInput) (lower : Severity) (state : RunState) (wider : RunReport),
        (∀ input ∈ inputs, input ∈ more ∧ input.load state.tree = input.load start.tree) →
        lower ≤ analyzer.config.failThreshold → start.cache.isEnabled = false →
        state.cache.isEnabled = false → (analyzer.failingAt lower).Reports more state wider →
        wider.completed = true → report.gate.outcome = .fail → wider.gate.outcome = .fail := by
  refine ⟨analyzer.reports_run inputs start, fun report reports => ⟨reports.consistent, ?_⟩⟩
  intro more lower state wider included below disabled stateDisabled widerReports completed fails
  have firstCompleted := (reports.consistent.fail.mp fails).1
  obtain ⟨input, isInput, failing⟩ := (reports.fail_iff disabled firstCompleted).mp fails
  obtain ⟨isMore, sameSource⟩ := included input isInput
  refine (widerReports.fail_iff stateDisabled completed).mpr ⟨input, isMore, ?_⟩
  rw [alone_failingAt lower sameSource]
  exact failing.lower below

/-- A source that fails goes on failing among others, one of which has its path, and with a lower
threshold. -/
theorem report_consistent_and_failure_persists_repeated :
    let analyzer : Analyzer := ⟨.builtin, ⟨Config.initialRules .builtin {}, [], [], .information, .error⟩⟩
    let inputs : List SourceInput := [.given ⟨"a.py", "eval(x)\n"⟩]
    let more : List SourceInput := [.given ⟨"a.py", "x = 1\n"⟩, .given ⟨"a.py", "eval(x)\n"⟩]
    let start : RunState := ⟨.disabled, .fresh, ⟨[], []⟩⟩
    let wider := ((analyzer.failingAt .warning).run more start).1
    (analyzer.run inputs start).1.gate.outcome = .fail ∧ wider.completed = true ∧
      wider.gate.outcome = .fail := by
  intro analyzer inputs more start wider
  have fails : (analyzer.run inputs start).1.gate.outcome = .fail := by decide +kernel
  have completed : wider.completed = true := by decide +kernel
  obtain ⟨reports, persists⟩ := report_consistent_and_failure_persists analyzer inputs start
  refine ⟨fails, completed, (persists _ reports).2 more .warning start wider ?_ (by decide) rfl rfl
    (reports_run _ more start) completed fails⟩
  intro input member
  obtain rfl := List.mem_singleton.mp member
  exact ⟨by simp [more], rfl⟩

end Analyzer

end Lintel
