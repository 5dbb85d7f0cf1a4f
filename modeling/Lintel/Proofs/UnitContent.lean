import Lintel.Proofs.BuiltinRules
import Lintel.Proofs.DiagnosticOrder
import Lintel.Proofs.Directives
import Lintel.Proofs.Routes
import Lintel.Proofs.Walk

/-!
# What is said about one source

The result for a source that goes through the whole pipeline, described without the pipeline: which
diagnostics are in it, for which reason, and in which order they stand.
-/

set_option autoImplicit false

namespace Lintel

namespace Analyzer

/-- A rule that takes part at a path: it is on with the given settings, and not ignored there. -/
structure Applies (analyzer : Analyzer) (path : String) (rule : Rule) (settings : RuleSettings) :
    Prop where
  registered : rule ∈ analyzer.registry.rules
  configured : Table.find? rule.id analyzer.config.rules = some settings
  enabled : settings.enabled = true
  notIgnored : rule.id ∉ analyzer.config.ignoredRules path

/-- The first and last lines of the statements that the walk of a source visits. -/
def statementsOf (source : Source) (parsed : ParsedSource) : List (Nat × Nat) :=
  (Dispatch.visitsOf parsed.body).flatMap fun visit => Dispatch.statementLines ⟨source.path, parsed.lines⟩ visit.1

section Directives

open Suppression

/-- The directives of a source, each in its place. -/
def directivesOf (analyzer : Analyzer) (source : Source) : List PlacedDirective :=
  placedDirectives analyzer.registry (scanComments source.text.toList).2

/-- Whether a directive of a source covers what a rule says on a line: one of its selectors is about the rule, and
the line is among those that the directive exempts for this selector. A region ends with the first `enable` that
closes it, or by itself. -/
def Covers (analyzer : Analyzer) (source : Source) (parsed : ParsedSource) (ruleId : String)
    (line : Nat) : Prop :=
  let layouts := (scanComments source.text.toList).1
  let directives := analyzer.directivesOf source
  ∃ placed ∈ directives, placed.directive.action ≠ .enable ∧
    ∃ selector ∈ placed.directive.selectors, selector.isAbout ruleId = true ∧
      placed.firstLine layouts ≤ line ∧
      line ≤ placed.lastLine layouts (statementsOf source parsed) directives selector

/-- What is wrong on a line with a directive of a source: the text of its comment, or an `enable` for which no
region is waiting. -/
def Faulty (analyzer : Analyzer) (source : Source) (line : Nat) (fault : Fault) : Prop :=
  ∃ comment ∈ (scanComments source.text.toList).2,
    (line, fault) ∈ faultsOf analyzer.registry (scanComments source.text.toList).1 (analyzer.directivesOf source)
      comment

end Directives

/-- How the evaluation of a rule at a visited node of a source ends. -/
def outcomeAt (source : Source) (parsed : ParsedSource) (rule : Rule) (settings : RuleSettings)
    (visit : Node × Position) : Outcome :=
  (rule.evaluate visit.1 ⟨⟨source.path, parsed.lines⟩, visit.2, settings.parameters⟩).outcome

/-- The diagnostics that a source gives rise to, whatever their severity: the findings of the rules that
take part, with the severities of the configuration; the failures of these rules; and what is wrong with
the directives of the source. Directives cover the first two. -/
inductive Says (analyzer : Analyzer) (source : Source) (parsed : ParsedSource) : Diagnostic → Prop where
  | finding {rule : Rule} {settings : RuleSettings} {visit : Node × Position} {found : List Finding}
      {finding : Finding} :
      analyzer.Applies source.path rule settings → visit ∈ Dispatch.visitsOf parsed.body →
      visit.1.kind ∈ rule.subscriptions →
      outcomeAt source parsed rule settings visit = .findings found → finding ∈ found →
      ¬ analyzer.Covers source parsed rule.id finding.span.startLine →
      Says analyzer source parsed
        ⟨finding.ruleId, source.path, finding.span, finding.message, settings.severity⟩
  | failure {rule : Rule} {settings : RuleSettings} {visit : Node × Position} {reason : String} :
      analyzer.Applies source.path rule settings → visit ∈ Dispatch.visitsOf parsed.body →
      visit.1.kind ∈ rule.subscriptions →
      Dispatch.failureReason? (outcomeAt source parsed rule settings visit) = some reason →
      ¬ analyzer.Covers source parsed ruleFailureId
        (Span.ofExtent parsed.lines visit.1.extent).startLine →
      Says analyzer source parsed
        ⟨ruleFailureId, source.path, Span.ofExtent parsed.lines visit.1.extent,
          s!"Rule '{rule.id}' failed: {reason}", .warning⟩
  | fault {line : Nat} {fault : Suppression.Fault} :
      analyzer.Faulty source line fault →
      Says analyzer source parsed
        ⟨invalidSuppressionId, source.path, Span.ofLine line, fault.message, .information⟩

end Analyzer

/-- The routes of a node at a path are those of the rules that take part there and subscribe to its
kind. -/
theorem Analyzer.mem_routes_iff (analyzer : Analyzer) (path : String) (kind : NodeKind) (route : Route) :
    route ∈ (analyzer.routingFor path).routes kind ↔
      ∃ rule settings, analyzer.Applies path rule settings ∧ kind ∈ rule.subscriptions ∧
        route = ⟨rule, settings.parameters⟩ := by
  simp only [Routing.mem_routes_iff, Analyzer.routingFor, Routing.without, List.mem_filter,
    Routing.mem_all_ofConfig_iff, Bool.not_eq_true', List.contains_eq_mem, decide_eq_false_iff_not]
  constructor
  · rintro ⟨⟨⟨rule, registered, settings, on, rfl⟩, notIgnored⟩, subscribed⟩
    exact ⟨rule, settings, ⟨registered, on.configured, on.enabled, notIgnored⟩, subscribed, rfl⟩
  · rintro ⟨rule, settings, applies, subscribed, rfl⟩
    have on : analyzer.config.TurnsOn rule settings := ⟨applies.configured, applies.enabled⟩
    exact ⟨⟨⟨rule, applies.registered, settings, on, rfl⟩, applies.notIgnored⟩, subscribed⟩

namespace Suppressions

open Suppression in
theorem mem_exemptions_placed_iff {layouts : List LineLayout} {statements : List (Nat × Nat)}
    {directives : List PlacedDirective} {placed : PlacedDirective} {ruleId : String} {line : Nat} :
    (∃ exemption ∈ placed.exemptions layouts statements directives, exemption.covers ruleId line = true) ↔
      placed.directive.action ≠ .enable ∧ ∃ selector ∈ placed.directive.selectors,
        selector.isAbout ruleId = true ∧ placed.firstLine layouts ≤ line ∧
          line ≤ placed.lastLine layouts statements directives selector := by
  unfold PlacedDirective.exemptions
  split
  next isEnable => simp [isEnable]
  next notEnable =>
    simp [notEnable, PlacedDirective.exemption, Exemption.covers, Bool.and_eq_true, decide_eq_true_eq]

theorem isSuppressed_iff (suppressions : Suppressions) {ruleId : String}
    (ordinary : ruleId ≠ invalidSuppressionId) (line : Nat) :
    suppressions.isSuppressed ruleId line = true ↔
      ∃ exemption ∈ suppressions.exemptions, exemption.covers ruleId line = true := by
  simp [isSuppressed, ordinary]

end Suppressions

namespace Analyzer

variable {analyzer : Analyzer} {source : Source} {parsed : ParsedSource}

/-- What a source gives rise to, before the report threshold and the final order apply. -/
def statedDiagnostics (analyzer : Analyzer) (source : Source) (output : WalkOutput) : List Diagnostic :=
  let suppressions := Suppressions.scan analyzer.registry output.statements source.text.toList
  suppressions.keep (output.findings.map (diagnosticOf analyzer.config source.path)
    ++ output.failures.map (failureDiagnostic source.path)) ++ suppressions.faultDiagnostics source.path

theorem conclude_eq (output : WalkOutput) :
    analyzer.conclude source output = Diagnostic.normalize
      ((analyzer.statedDiagnostics source output).filter fun diagnostic =>
        analyzer.config.reports diagnostic.severity) := rfl

/-- The walk over a parsed source, with nothing cut short. -/
def walkOf (analyzer : Analyzer) (source : Source) (parsed : ParsedSource) : WalkOutput :=
  Dispatch.fullOutput (analyzer.routingFor source.path) ⟨source.path, parsed.lines⟩ parsed.body

theorem mem_findings_walkOf {finding : Finding} :
    finding ∈ (analyzer.walkOf source parsed).findings ↔
      ∃ rule settings visit found, analyzer.Applies source.path rule settings ∧
        visit ∈ Dispatch.visitsOf parsed.body ∧ visit.1.kind ∈ rule.subscriptions ∧
        outcomeAt source parsed rule settings visit = .findings found ∧ finding ∈ found := by
  simp only [walkOf, Dispatch.fullOutput, Dispatch.mem_findings_outputOf, mem_routes_iff]
  constructor
  · rintro ⟨visit, visited, route, ⟨rule, settings, applies, subscribed, rfl⟩, found, outcome, member⟩
    exact ⟨rule, settings, visit, found, applies, visited, subscribed, outcome, member⟩
  · rintro ⟨rule, settings, visit, found, applies, visited, subscribed, outcome, member⟩
    exact ⟨visit, visited, _, ⟨rule, settings, applies, subscribed, rfl⟩, found, outcome, member⟩

theorem mem_failures_walkOf {failure : RuleFailure} :
    failure ∈ (analyzer.walkOf source parsed).failures ↔
      ∃ rule settings visit reason, analyzer.Applies source.path rule settings ∧
        visit ∈ Dispatch.visitsOf parsed.body ∧ visit.1.kind ∈ rule.subscriptions ∧
        Dispatch.failureReason? (outcomeAt source parsed rule settings visit) = some reason ∧
        failure = ⟨rule.id, Span.ofExtent parsed.lines visit.1.extent, reason⟩ := by
  simp only [walkOf, Dispatch.fullOutput, Dispatch.mem_failures_outputOf, mem_routes_iff]
  constructor
  · rintro ⟨visit, visited, route, ⟨rule, settings, applies, subscribed, rfl⟩, reason, failed, rfl⟩
    exact ⟨rule, settings, visit, reason, applies, visited, subscribed, failed, rfl⟩
  · rintro ⟨rule, settings, visit, reason, applies, visited, subscribed, failed, rfl⟩
    exact ⟨visit, visited, _, ⟨rule, settings, applies, subscribed, rfl⟩, reason, failed, rfl⟩

theorem statements_walkOf : (analyzer.walkOf source parsed).statements = statementsOf source parsed := by
  rw [walkOf, Dispatch.fullOutput, Dispatch.statements_outputOf, statementsOf]

/-- The walk of a source and the scan of its comments suppress what directives cover. -/
theorem isSuppressed_walkOf_iff {ruleId : String} (ordinary : ruleId ≠ invalidSuppressionId) (line : Nat) :
    (Suppressions.scan analyzer.registry (analyzer.walkOf source parsed).statements
        source.text.toList).isSuppressed ruleId line = true ↔
      analyzer.Covers source parsed ruleId line := by
  rw [Suppressions.isSuppressed_iff _ ordinary, Suppressions.exemptions_scan, statements_walkOf, Covers, directivesOf]
  constructor
  · intro ⟨exemption, member, covers⟩
    obtain ⟨placed, isPlaced, inside⟩ := List.mem_flatMap.mp member
    exact ⟨placed, isPlaced, Suppressions.mem_exemptions_placed_iff.mp ⟨exemption, inside, covers⟩⟩
  · intro ⟨placed, isPlaced, covered⟩
    obtain ⟨exemption, inside, covers⟩ := Suppressions.mem_exemptions_placed_iff.mpr covered
    exact ⟨exemption, List.mem_flatMap.mpr ⟨placed, isPlaced, inside⟩, covers⟩

theorem mem_faults_walkOf_iff {line : Nat} {fault : Suppression.Fault} :
    (line, fault) ∈ (Suppressions.scan analyzer.registry (analyzer.walkOf source parsed).statements
        source.text.toList).faults ↔ analyzer.Faulty source line fault := by
  rw [Suppressions.faults_scan, List.mem_flatMap, Faulty, directivesOf]

theorem diagnosticOf_eq {rule : Rule} {settings : RuleSettings} {finding : Finding}
    (applies : analyzer.Applies source.path rule settings) (labelled : finding.ruleId = rule.id) :
    diagnosticOf analyzer.config source.path finding =
      ⟨finding.ruleId, source.path, finding.span, finding.message, settings.severity⟩ := by
  simp only [diagnosticOf, labelled, applies.configured, Option.map_some, Option.getD_some]

/-- The stages before the threshold say exactly what a source gives rise to. -/
theorem mem_statedDiagnostics_iff (ownIds : analyzer.registry.OwnIds) (diagnostic : Diagnostic) :
    diagnostic ∈ analyzer.statedDiagnostics source (analyzer.walkOf source parsed) ↔
      analyzer.Says source parsed diagnostic := by
  simp only [statedDiagnostics, Suppressions.keep, Suppressions.faultDiagnostics,
    List.mem_append, List.mem_filter, List.mem_map, mem_findings_walkOf, mem_failures_walkOf,
    Bool.not_eq_true', Bool.eq_false_iff]
  have failureIsOrdinary : ruleFailureId ≠ invalidSuppressionId := by decide
  constructor
  · rintro (⟨⟨finding, ⟨rule, settings, visit, found, applies, visited, subscribed, outcome, member⟩, rfl⟩
      | ⟨failure, ⟨rule, settings, visit, reason, applies, visited, subscribed, failed, rfl⟩, rfl⟩,
        unsuppressed⟩ | ⟨⟨line, fault⟩, faulty, rfl⟩)
    · have labelled := ownIds.labelled rule applies.registered _ _ found outcome finding member
      rw [diagnosticOf_eq applies labelled] at unsuppressed ⊢
      refine .finding applies visited subscribed outcome member fun covers => unsuppressed ?_
      dsimp only
      rw [labelled]
      exact (isSuppressed_walkOf_iff (ownIds.notSuppression rule applies.registered) _).mpr covers
    · refine .failure applies visited subscribed failed fun covers => unsuppressed ?_
      exact (isSuppressed_walkOf_iff failureIsOrdinary _).mpr covers
    · exact .fault (mem_faults_walkOf_iff.mp faulty)
  · intro said
    cases said with
    | finding applies visited subscribed outcome member uncovered =>
      have labelled := ownIds.labelled _ applies.registered _ _ _ outcome _ member
      refine .inl ⟨.inl ⟨_, ⟨_, _, _, _, applies, visited, subscribed, outcome, member⟩,
        diagnosticOf_eq applies labelled⟩, fun suppressed => uncovered ?_⟩
      dsimp only at suppressed
      rw [labelled] at suppressed
      exact (isSuppressed_walkOf_iff (ownIds.notSuppression _ applies.registered) _).mp suppressed
    | failure applies visited subscribed failed uncovered =>
      refine .inl ⟨.inr ⟨_, ⟨_, _, _, _, applies, visited, subscribed, failed, rfl⟩, rfl⟩,
        fun suppressed => uncovered ?_⟩
      exact (isSuppressed_walkOf_iff failureIsOrdinary _).mp suppressed
    | fault faulty => exact .inr ⟨_, mem_faults_walkOf_iff.mpr faulty, rfl⟩

/-- The severity under which an id is reported. -/
def levelOf (analyzer : Analyzer) (ruleId : String) : Severity :=
  if ruleId = ruleFailureId then .warning
  else if ruleId = invalidSuppressionId then .information
  else ((Table.find? ruleId analyzer.config.rules).map RuleSettings.severity).getD .information

theorem Says.severity_eq (ownIds : analyzer.registry.OwnIds) {diagnostic : Diagnostic}
    (said : analyzer.Says source parsed diagnostic) :
    diagnostic.severity = analyzer.levelOf diagnostic.ruleId := by
  cases said with
  | finding applies _ _ outcome member _ =>
    have labelled := ownIds.labelled _ applies.registered _ _ _ outcome _ member
    simp only [levelOf, labelled, ownIds.notFailure _ applies.registered,
      ownIds.notSuppression _ applies.registered, if_false, applies.configured, Option.map_some,
      Option.getD_some]
  | failure => rfl
  | fault => rfl

theorem Says.file_eq {diagnostic : Diagnostic} (said : analyzer.Says source parsed diagnostic) :
    diagnostic.file = source.path := by
  cases said <;> rfl

theorem Says.eq_of_sameIdentity (ownIds : analyzer.registry.OwnIds) {first second : Diagnostic}
    (firstSaid : analyzer.Says source parsed first) (secondSaid : analyzer.Says source parsed second)
    (same : first.orderIdentity second = .eq) : first = second := by
  rw [Diagnostic.orderIdentity_eq_eq_iff] at same
  simp only [Diagnostic.sameIdentity, Bool.and_eq_true, decide_eq_true_eq] at same
  obtain ⟨⟨⟨ruleId, _⟩, span⟩, message⟩ := same
  have file := firstSaid.file_eq.trans secondSaid.file_eq.symm
  have severity : first.severity = second.severity := by
    rw [firstSaid.severity_eq ownIds, secondSaid.severity_eq ownIds, ruleId]
  cases first
  cases second
  simp_all

theorem mem_conclude_iff (ownIds : analyzer.registry.OwnIds) (diagnostic : Diagnostic) :
    diagnostic ∈ analyzer.conclude source (analyzer.walkOf source parsed) ↔
      analyzer.config.reportThreshold ≤ diagnostic.severity ∧
        analyzer.Says source parsed diagnostic := by
  have said : ∀ stated ∈ (analyzer.statedDiagnostics source (analyzer.walkOf source parsed)).filter
      (fun diagnostic => analyzer.config.reports diagnostic.severity),
      analyzer.Says source parsed stated := by
    intro stated member
    exact (mem_statedDiagnostics_iff ownIds stated).mp (List.mem_filter.mp member).1
  rw [conclude_eq, Diagnostic.mem_normalize_iff fun first firstMember second secondMember =>
    (said first firstMember).eq_of_sameIdentity ownIds (said second secondMember), List.mem_filter,
    mem_statedDiagnostics_iff ownIds, Config.reports, decide_eq_true_eq, and_comm]

/-- A source that is not excluded, loads, parses and is not in the cache is abandoned, or its result is
that of the whole walk, which is stored. -/
theorem processUnit_of_miss {input : SourceInput} {state : RunState}
    (included : analyzer.config.isExcluded input.path = false)
    (loaded : input.load state.tree = .ok source) (parses : source.parse = .ok parsed)
    (missed : (state.cache.lookup state.tree (analyzer.keyOf source)).1 = none) :
    (analyzer.processUnit input state).1 = .abandoned ∨
      (analyzer.processUnit input state).1 =
          .dispatched (analyzer.conclude source (analyzer.walkOf source parsed)) ∧
        ((analyzer.processUnit input state).2.cache, (analyzer.processUnit input state).2.tree) =
          (state.cache.lookup state.tree (analyzer.keyOf source)).2.put state.tree
            (analyzer.keyOf source) (analyzer.conclude source (analyzer.walkOf source parsed)) := by
  obtain ⟨cache, token, tree⟩ := state
  rcases token.look_cases with ⟨after, look, _⟩ | ⟨after, look, _⟩
  · exact .inl (by simp only [processUnit, look])
  · rcases looked : cache.lookup tree (analyzer.keyOf source) with ⟨answer, counted⟩
    simp only [looked] at missed
    subst answer
    rcases Dispatch.run_cases (analyzer.routingFor source.path) ⟨source.path, parsed.lines⟩ parsed.body
      after with ⟨last, walked⟩ | ⟨last, walked, _⟩
    · refine .inr ?_
      simp [processUnit, look, included, loaded, looked, analyze, parses, walked, walkOf]
    · exact .inl (by simp [processUnit, look, included, loaded, looked, analyze, parses, walked])

/-- The result for a source that goes through the whole pipeline is what is stored. It stands in strictly
ascending order of file, rule, span and message, and it holds exactly what the source gives rise to and
the report threshold lets through. -/
theorem processUnit_content {input : SourceInput} {state : RunState}
    (ownIds : analyzer.registry.OwnIds) (included : analyzer.config.isExcluded input.path = false)
    (loaded : input.load state.tree = .ok source) (parses : source.parse = .ok parsed)
    (missed : (state.cache.lookup state.tree (analyzer.keyOf source)).1 = none)
    (finished : (analyzer.processUnit input state).1 ≠ .abandoned) :
    ∃ diagnostics, (analyzer.processUnit input state).1 = .dispatched diagnostics ∧
      ((analyzer.processUnit input state).2.cache, (analyzer.processUnit input state).2.tree) =
        (state.cache.lookup state.tree (analyzer.keyOf source)).2.put state.tree
          (analyzer.keyOf source) diagnostics ∧
      diagnostics.Pairwise (fun first second => first.orderIdentity second = .lt) ∧
      ∀ diagnostic, diagnostic ∈ diagnostics ↔
        analyzer.config.reportThreshold ≤ diagnostic.severity ∧
          analyzer.Says source parsed diagnostic := by
  rcases processUnit_of_miss included loaded parses missed with abandoned | ⟨result, stored⟩
  · exact absurd abandoned finished
  · exact ⟨_, result, stored, Diagnostic.normalize_ascending _, mem_conclude_iff ownIds⟩

/-- The rules that come with the program on one source, without a cache. -/
theorem processUnit_content_builtin :
    let analyzer : Analyzer := ⟨.builtin, ⟨Config.initialRules .builtin {}, [], [], .information, .error⟩⟩
    let source : Source := ⟨"a.py", "eval(x)\n"⟩
    ∃ parsed, source.parse = .ok parsed ∧ ∃ diagnostics,
      (analyzer.processUnit (.given source) ⟨.disabled, .fresh, ⟨[], []⟩⟩).1 = .dispatched diagnostics ∧
      ∀ diagnostic, diagnostic ∈ diagnostics ↔
        .information ≤ diagnostic.severity ∧ analyzer.Says source parsed diagnostic := by
  intro analyzer source
  have isOk : source.parse.isOk = true := by decide +kernel
  have finished : (analyzer.processUnit (.given source) ⟨.disabled, .fresh, ⟨[], []⟩⟩).1 ≠ .abandoned := by
    decide +kernel
  cases parses : source.parse with
  | error cause =>
    rw [parses] at isOk
    cases isOk
  | ok parsed =>
    obtain ⟨diagnostics, result, _, _, content⟩ :=
      processUnit_content Registry.ownIds_builtin rfl rfl parses rfl finished
    exact ⟨parsed, rfl, diagnostics, result, content⟩

end Analyzer

end Lintel
