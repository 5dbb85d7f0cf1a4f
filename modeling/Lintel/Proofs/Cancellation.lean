import Lintel.Proofs.History

/-!
# What a cancellation can do

A run may be cancelled at any moment, by somebody outside or by one of its rules in the middle of a walk.
Whenever that happens, and in whatever order the sources are processed, a source is abandoned or has the
result that it has when nothing is ever cancelled. A run that abandons a source is incomplete, and the
cache keeps to whole results.
-/

set_option autoImplicit false

namespace Lintel

namespace Round

/-- What becomes of an input of a run if there is no cache and nothing is ever cancelled. -/
def full (round : Round) (input : SourceInput) : UnitResult :=
  (round.analyzer.quiet.processUnit input ⟨.disabled, .fresh, round.start.tree⟩).1

theorem full_eq_alone (round : Round) (input : SourceInput) :
    round.full input = round.analyzer.alone round.start.tree input := by
  obtain ⟨counted, processed⟩ := round.analyzer.processUnit_quiet round.start.tree input {}
  rw [full, Cache.disabled, processed]

/-- The inputs of a run that were analyzed. -/
def analyzedInputs (round : Round) : List SourceInput :=
  (round.outcomes.filter fun outcome => outcome.2.diagnostics?.isSome).map Prod.fst

/-- What holds of a run among others that use its cache, whenever it is cancelled. -/
structure AllOrNothing (rounds : List Round) (round : Round) : Prop where
  /-- A source is abandoned or has its full result. -/
  outcomes : round.outcomes.map Prod.fst = round.inputs ∧ ∀ outcome ∈ round.outcomes,
    outcome.2 = .abandoned ∨ outcome.2.content = round.full outcome.1
  /-- A run that abandons a source is incomplete. -/
  incomplete : 0 < round.report.stats.abandoned →
    round.report.completed = false ∧ round.report.gate.outcome = .incomplete
  /-- The gate decides only about runs all of whose sources have their full results. -/
  decided : round.report.gate.outcome ≠ .incomplete → ∀ outcome ∈ round.outcomes,
    outcome.2 ≠ .abandoned ∧ outcome.2.content = round.full outcome.1
  /-- The report shows the full results of the sources that count as analyzed. -/
  diagnostics : ∃ units : List (List Diagnostic), round.analyzedInputs.map round.full = units.map .dispatched ∧
    round.report.stats.analyzed = units.length ∧
    round.report.diagnostics = Diagnostic.normalize units.flatten
  /-- What the cache holds afterwards is the full result of a source with this key. -/
  entries : ∀ key diagnostics, (round.last.cache.lookup round.last.tree key).1 = some diagnostics →
    ∃ origin ∈ rounds, ∃ input ∈ origin.inputs, ∃ source, input.load origin.start.tree = .ok source ∧
      origin.analyzer.keyOf source = key ∧ origin.full input = .dispatched diagnostics
  /-- A complete run reports what it reports without a cache if nothing is ever cancelled. -/
  complete : round.report.completed = true → round.report.Agrees
    (round.analyzer.quiet.run round.inputs ⟨.disabled, .fresh, round.start.tree⟩).1

variable {known : KnownSources} {round : Round}

/-- A run at whose end a source has been abandoned is found cancelled. -/
theorem Sound.incomplete_of_abandoned (sound : round.Sound known) {outcome : SourceInput × UnitResult}
    (member : outcome ∈ round.outcomes) (abandoned : outcome.2 = .abandoned) :
    round.report.completed = false ∧ round.report.gate.outcome = .incomplete := by
  have cancelled : round.last.token.cancelled = true := by
    rcases sound.outcomes outcome member with ⟨_, cancelled⟩ | result
    · exact cancelled
    · rw [abandoned] at result
      exact absurd result.symm (round.analyzer.alone_ne_abandoned round.start.tree outcome.1)
  simp [report, RunReport.ofResults, GateReport.evaluate, CancelToken.look_of_cancelled cancelled]

theorem Sound.outcome_cases (sound : round.Sound known) {outcome : SourceInput × UnitResult}
    (member : outcome ∈ round.outcomes) :
    outcome.2 = .abandoned ∨ outcome.2.content = round.full outcome.1 := by
  rw [full_eq_alone]
  exact (sound.outcomes outcome member).imp And.left id

theorem Sound.full_of_analyzed (sound : round.Sound known) {outcome : SourceInput × UnitResult}
    (member : outcome ∈ round.outcomes) {diagnostics : List Diagnostic}
    (analyzed : outcome.2.diagnostics? = some diagnostics) :
    round.full outcome.1 = .dispatched diagnostics := by
  rcases sound.outcome_cases member with abandoned | result
  · rw [abandoned] at analyzed
    cases analyzed
  · rw [← result, UnitResult.content_of_diagnostics? analyzed]

theorem Sound.results_analyzed (sound : round.Sound known) :
    round.analyzedInputs.map round.full =
      ((round.outcomes.map Prod.snd).filterMap UnitResult.diagnostics?).map .dispatched := by
  have analyzed : ∀ outcome ∈ round.outcomes, ∀ diagnostics,
      outcome.2.diagnostics? = some diagnostics → round.full outcome.1 = .dispatched diagnostics :=
    fun _ member _ => sound.full_of_analyzed member
  rw [analyzedInputs]
  generalize round.outcomes = outcomes at analyzed
  induction outcomes with
  | nil => rfl
  | cons outcome outcomes ih =>
    have later := ih fun other member => analyzed other (List.mem_cons_of_mem _ member)
    rw [List.filter_cons, List.map_cons, List.filterMap_cons]
    cases found : outcome.2.diagnostics? with
    | none => exact later
    | some diagnostics =>
      have here := analyzed outcome List.mem_cons_self diagnostics found
      simp only [Option.isSome_some, if_true, List.map_cons, here, later]

theorem Sound.allOrNothing {rounds : List Round} (sound : round.Sound (knownOf rounds)) :
    round.AllOrNothing rounds where
  outcomes := ⟨sound.inputs, fun _ member => sound.outcome_cases member⟩
  incomplete := by
    intro positive
    have counted : 0 < (round.outcomes.map Prod.snd).countP UnitResult.isAbandoned := positive
    obtain ⟨result, member, abandoned⟩ := List.countP_pos_iff.mp counted
    obtain ⟨outcome, inside, rfl⟩ := List.mem_map.mp member
    refine sound.incomplete_of_abandoned inside ?_
    cases isResult : outcome.2 <;> simp_all [UnitResult.isAbandoned]
  decided := by
    intro decided outcome member
    have notAbandoned : outcome.2 ≠ .abandoned := fun abandoned =>
      decided (sound.incomplete_of_abandoned member abandoned).2
    exact ⟨notAbandoned, (sound.outcome_cases member).resolve_left notAbandoned⟩
  diagnostics := ⟨_, sound.results_analyzed, rfl, rfl⟩
  entries := by
    intro key diagnostics found
    obtain ⟨_, source, ⟨origin, member, rfl, input, inside, included, loaded⟩, same, result⟩ :=
      Cache.truth_of_lookup sound.keeps found
    refine ⟨origin, member, input, inside, source, loaded, same, ?_⟩
    rw [full_eq_alone, Analyzer.alone_of_load included loaded, result]
  complete := sound.report_agrees

end Round

/-- Cancellation is all or nothing. A walk ends with nothing, and then it is cancelled, or with the output
that it has when nothing is ever cancelled. In runs of one analyzer that share a cache, whatever the order
of their steps and whenever they are cancelled, it is the same for each source, in the report and in the
cache. If the cache is on disk, the sources are read outside its directory (`Round.outside`). -/
theorem cancellation_all_or_nothing {analyzer : Analyzer} {rounds : List Round}
    (sameAnalyzer : ∀ round ∈ rounds, round.analyzer = analyzer)
    (sources : Digest.Separates (sourceTexts rounds)) (shared : ShareCache rounds) :
    (∀ routing source body token, ∃ output,
      Dispatch.run routing.quiet source body .fresh = (some output, .fresh) ∧
        ((Dispatch.run routing source body token).1 = some output ∨
          (Dispatch.run routing source body token).1 = none ∧
            (Dispatch.run routing source body token).2.cancelled = true)) ∧
      ∀ round ∈ rounds, round.AllOrNothing rounds := by
  constructor
  · intro routing source body token
    refine ⟨_, Dispatch.run_quiet_fresh routing source body, ?_⟩
    rcases Dispatch.run_cases routing source body token with ⟨after, walked⟩ | ⟨after, walked, cancelled⟩
    · exact .inl (congrArg Prod.fst walked)
    · exact .inr ⟨congrArg Prod.fst walked, by rw [walked]; exact cancelled⟩
  · intro round member
    have tells : TellsApart (knownOf rounds) := by
      refine tellsApart_knownOf sources fun first firstMember second secondMember _ source => ?_
      rw [sameAnalyzer first firstMember, sameAnalyzer second secondMember]
    exact (shared.sound tells round member).allOrNothing

section Instance

/-- A rule that asks for the run to be cancelled at every call. -/
def stopAtCalls : Rule :=
  ⟨"stop-at-calls", "Stops at the first call", .error, true, [.call], [], fun _ _ => ⟨.findings [], true⟩⟩

/-- An analyzer with this rule only. -/
def stopper : Analyzer :=
  ⟨⟨[stopAtCalls]⟩, ⟨Config.initialRules ⟨[stopAtCalls]⟩ {}, [], [], .information, .error⟩⟩

/-- A run of this analyzer over one source with a call. -/
def stoppedRound (cache : Cache) : Round :=
  .inOrder stopper [.given ⟨"a.py", "eval(x)\n"⟩] ⟨cache, .fresh, ⟨[], []⟩⟩
    (by simp [SourceInput.Outside])

private theorem text_stoppedRound {cache : Cache} {source : Source} (loads : (stoppedRound cache).Loads source) :
    source.text = "eval(x)\n" := by
  obtain ⟨input, inside, _, loaded⟩ := loads
  obtain rfl := List.mem_singleton.mp inside
  cases loaded
  rfl

private theorem inMemory_stoppedRound {rounds : List Round} {cache : Cache} (history : InMemory rounds cache) :
    InMemory (stoppedRound cache :: rounds) (stoppedRound cache).last.cache :=
  .run (stoppedRound cache) history

private theorem abandoned_stoppedRound : (stoppedRound .memory).report.stats.abandoned = 1 := by
  decide +kernel

end Instance

/-- Two runs, the first of which is cancelled by its rule in the middle of a walk. -/
theorem cancellation_all_or_nothing_stopped :
    let first := stoppedRound .memory
    let second := stoppedRound first.last.cache
    first.report.stats.abandoned = 1 ∧ first.AllOrNothing [second, first] ∧
      second.AllOrNothing [second, first] := by
  intro first second
  have each : ∀ {P : Round → Prop}, (∀ cache, P (stoppedRound cache)) →
      ∀ round ∈ [second, first], P round := by
    intro P always round member
    simp only [List.mem_cons, List.not_mem_nil, or_false] at member
    rcases member with rfl | rfl
    · exact always first.last.cache
    · exact always .memory
  have texts : ∀ round ∈ [second, first], ∀ source, round.Loads source → source.text = "eval(x)\n" :=
    each fun _ _ => text_stoppedRound
  have sameAnalyzer : ∀ round ∈ [second, first], round.analyzer = stopper := each fun _ => rfl
  have sources : Digest.Separates (sourceTexts [second, first]) := by
    rintro _ _ ⟨round, member, source, loaded, rfl⟩ ⟨other, otherMember, text, otherLoaded, rfl⟩ _
    rw [texts round member source loaded, texts other otherMember text otherLoaded]
  have shared : ShareCache [second, first] :=
    .inr ⟨second.last.cache, inMemory_stoppedRound (inMemory_stoppedRound .start)⟩
  have holds := (cancellation_all_or_nothing sameAnalyzer sources shared).2
  exact ⟨abandoned_stoppedRound, holds first (by simp), holds second List.mem_cons_self⟩

end Lintel
