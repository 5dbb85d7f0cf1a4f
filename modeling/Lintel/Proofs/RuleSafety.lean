import Lintel.Proofs.LineIndex
import Lintel.Proofs.Resolution

/-!
# Built-in rules do not fail

A configuration that was accepted gives every rule the parameters that it declares, each of them a whole
number. The rules that come with the program need nothing else: with these parameters they list findings
at every node, whatever the extents in the tree and whatever the text of the source. What they compute on
the way is within bounds: no count goes below zero, and every offset has a line.
-/

set_option autoImplicit false

namespace Lintel

/-! ## Computations within bounds -/

/-- The span of an extent, if both of its ends can be looked up. -/
def Span.ofExtent? (index : Text.LineIndex) (extent : Python.Extent) : Option Span := do
  let first ← index.lineColumn? extent.start
  let last ← index.lineColumn? extent.stop
  return ⟨first.line, first.column, last.line, last.column⟩

theorem Span.ofExtent?_eq_some (text : String) (extent : Python.Extent) :
    ofExtent? (.ofString text) extent = some (ofExtent (.ofString text) extent) := by
  have found : ∀ offset, (Text.LineIndex.ofString text).lineColumn? offset =
      some ((Text.LineIndex.ofString text).lineColumn offset) :=
    Text.LineIndex.lineColumn?_eq_some text.toList
  simp only [ofExtent?, found, Option.bind_eq_bind, Option.bind_some, Option.pure_def]
  rfl

namespace Rule

/-- How many parameters a caller has to know, if leaving out the receiver leaves a count. -/
def parameterCount? (position : Position) (parameters : Python.Parameters) : Option Nat :=
  if position.parent = some .classDef && hasReceiver parameters then subtract? parameters.all.length 1
  else some parameters.all.length

theorem one_le_length_of_hasReceiver {parameters : Python.Parameters}
    (received : hasReceiver parameters = true) : 1 ≤ parameters.all.length := by
  rw [hasReceiver] at received
  split at received
  · rename_i first isFirst
    have member := List.mem_of_head? isFirst
    rw [List.mem_append] at member
    have counted : first ∈ parameters.all := by
      rw [Python.Parameters.all, Python.Parameters.ordinary]
      simp only [List.mem_append]
      rcases member with early | later
      · exact .inl (.inl (.inl (.inl early)))
      · exact .inl (.inl (.inl (.inr later)))
    exact List.length_pos_of_mem counted
  · cases received

theorem parameterCount?_eq_some (position : Position) (parameters : Python.Parameters) :
    parameterCount? position parameters = some (parameterCount position parameters) := by
  rw [parameterCount?, parameterCount]
  split
  · rename_i method
    have received : hasReceiver parameters = true := (Bool.and_eq_true_iff.mp method).2
    exact subtract?_of_le (one_le_length_of_hasReceiver received)
  · rfl

/-! ## Rules that need their parameters only -/

/-- A rule that lists findings at every node once it is given whole numbers for its parameters. -/
def Dependable (rule : Rule) : Prop :=
  ∀ node context, (∀ spec ∈ rule.parameters, ∃ value, context.parameters.integer spec.name = .ok value) →
    ∃ found, rule.evaluate node context = .found found

theorem Dependable.of_found {rule : Rule} {list : Node → RuleContext → List Finding}
    (evaluates : ∀ node context, rule.evaluate node context = .found (list node context)) :
    rule.Dependable := by
  intro node context _
  exact ⟨list node context, evaluates node context⟩

theorem Dependable.of_withInteger {rule : Rule} {spec : ParameterSpec}
    {list : Node → RuleContext → Nat → List Finding} (declared : spec ∈ rule.parameters)
    (evaluates : ∀ node context,
      rule.evaluate node context = .withInteger context spec.name (list node context)) :
    rule.Dependable := by
  intro node context given
  obtain ⟨value, isValue⟩ := given spec declared
  refine ⟨list node context value, ?_⟩
  rw [evaluates, Evaluation.withInteger, isValue]

theorem dependable_builtin : ∀ rule ∈ Registry.builtin.rules, rule.Dependable := by
  intro rule member
  have listed := Registry.mem_of_mem_ofRules member
  simp only [Registry.builtinRules, List.mem_cons, List.not_mem_nil, or_false] at listed
  rcases listed with rfl | rfl | rfl | rfl | rfl | rfl | rfl | rfl | rfl | rfl | rfl
  · exact .of_found fun _ _ => rfl
  · exact .of_found fun _ _ => rfl
  · exact .of_found fun _ _ => rfl
  · exact .of_found fun _ _ => rfl
  · exact .of_withInteger List.mem_cons_self fun _ _ => rfl
  · exact .of_withInteger List.mem_cons_self fun _ _ => rfl
  · exact .of_found fun _ _ => rfl
  · exact .of_found fun _ _ => rfl
  · exact .of_found fun _ _ => rfl
  · exact .of_withInteger List.mem_cons_self fun _ _ => rfl
  · exact .of_found fun _ _ => rfl

end Rule

/-! ## Parameters of accepted configurations -/

theorem ParameterValues.integer_of_number {values : ParameterValues} {name : String} {value : Nat}
    (found : Table.find? name values = some (.ofNat value)) : values.integer name = .ok value := by
  rw [integer, found]
  rfl

/-- A resolved configuration has a whole number for every parameter that a rule declares. -/
theorem Config.integer_of_resolve {registry : Registry} (ascending : Registry.Ascending registry.rules)
    {profile : Profile} {options : Options} {config : Config}
    (resolved : resolve registry profile options = .ok config) {rule : Rule}
    (registered : rule ∈ registry.rules) {settings : RuleSettings}
    (found : Table.find? rule.id config.rules = some settings) {spec : ParameterSpec}
    (declared : spec ∈ rule.parameters) :
    ∃ value, ParameterValues.integer settings.parameters spec.name = .ok value := by
  have fits := (fitted_of_resolve ascending resolved).fits_of_find? ascending registered found
  have numbers := (regular_of_resolve resolved).numbers _ (Table.mem_of_find? found)
  obtain ⟨held, isHeld⟩ := Option.isSome_iff_exists.mp ((fits.names spec.name).mpr ⟨spec, declared, rfl⟩)
  obtain ⟨value, isNumber⟩ := numbers _ (Table.mem_of_find? isHeld)
  dsimp only at isNumber
  rw [isNumber] at isHeld
  exact ⟨value, ParameterValues.integer_of_number isHeld⟩

namespace Routing

/-- Every evaluation of a built-in rule under an accepted configuration lists findings. -/
theorem evaluate_builtin {profile : Profile} {options : Options} {config : Config}
    (resolved : Config.resolve .builtin profile options = .ok config) {route : Route}
    (member : route ∈ (ofConfig .builtin config).all) (source : SourceContext) (node : Node)
    (position : Position) : ∃ found, Dispatch.evaluate source node position route = .found found := by
  obtain ⟨rule, registered, settings, on, rfl⟩ := mem_all_ofConfig_iff.mp member
  refine Rule.dependable_builtin rule registered node _ fun spec declared => ?_
  exact Config.integer_of_resolve (Registry.ascending_ofRules _) resolved registered on.configured declared

end Routing

namespace Dispatch

section Listing

variable {routing : Routing} {source : SourceContext}
  (lists : ∀ route ∈ routing.all, ∀ node position, ∃ found, evaluate source node position route = .found found)

include lists

/-- Rules that list findings at every node ask for no cancellation. -/
theorem atNode_of_lists (node : Node) (position : Position) :
    (atNode routing source node position).2 = false := by
  simp only [atNode, List.any_map, List.any_eq_false, Function.comp_apply]
  intro route member
  obtain ⟨found, isFound⟩ := lists route ((Routing.mem_routes_iff.mp member).1) node position
  rw [isFound]
  exact Bool.false_ne_true

theorem failures_of_lists (body : List Python.Stmt) : (fullOutput routing source body).failures = [] := by
  refine List.eq_nil_iff_forall_not_mem.mpr fun failure member => ?_
  obtain ⟨visit, _, route, routed, reason, failed, _⟩ := (mem_failures_outputOf routing source).mp member
  obtain ⟨found, isFound⟩ := lists route ((Routing.mem_routes_iff.mp routed).1) visit.1 visit.2
  rw [isFound] at failed
  cases failed

end Listing

/-- No accepted configuration makes a built-in rule fail. The walk of any tree over any text, with the
routes of the configuration or without some of them, completes without a failure unless it is cancelled from
outside; at every node every rule lists findings. The computations that could leave their bounds stay within
them: spans of any extent, and counts of any parameters. -/
theorem builtin_rules_never_fail {profile : Profile} {options : Options} {config : Config}
    (resolved : Config.resolve .builtin profile options = .ok config) (ids : List String)
    (path text : String) (body : List Python.Stmt) :
    let routing := (Routing.ofConfig .builtin config).without ids
    let source : SourceContext := ⟨path, .ofString text⟩
    (∃ output, run routing source body .fresh = (some output, .fresh) ∧ output.failures = []) ∧
      (∀ token output, (run routing source body token).1 = some output → output.failures = []) ∧
      (∀ route ∈ routing.all, ∀ node position, ∃ found,
        (evaluate source node position route).outcome = .findings found) ∧
      (∀ extent, Span.ofExtent? source.lines extent = some (Span.ofExtent source.lines extent)) ∧
      ∀ position parameters,
        Rule.parameterCount? position parameters = some (Rule.parameterCount position parameters) := by
  intro routing source
  have lists : ∀ route ∈ routing.all, ∀ node position, ∃ found,
      evaluate source node position route = .found found := by
    intro route member node position
    exact Routing.evaluate_builtin resolved (List.mem_filter.mp member).1 source node position
  have clean := failures_of_lists lists body
  refine ⟨⟨_, run_fresh routing source body (atNode_of_lists lists), clean⟩, ?_, ?_,
    Span.ofExtent?_eq_some text, Rule.parameterCount?_eq_some⟩
  · intro token output walked
    rcases run_cases routing source body token with ⟨after, whole⟩ | ⟨after, stopped, _⟩
    · rw [whole] at walked
      rw [← Option.some.inj walked]
      exact clean
    · rw [stopped] at walked
      cases walked
  · intro route member node position
    obtain ⟨found, isFound⟩ := lists route member node position
    exact ⟨found, by rw [isFound]; rfl⟩

section Instance

/-- A method `f(self, x)` in a class. The extents start inside a character, lie behind the end of the source
or run backwards. -/
def strayMethod : List Python.Stmt :=
  [.classDef ⟨1, 900⟩ [] "C" [] [] []
    [.functionDef ⟨7, 1⟩ false [] "f" [] ⟨[], [⟨"self", none, none⟩, ⟨"x", none, none⟩], none, [], none⟩ none
      [.pass ⟨40, 41⟩]]]

/-- Limits of zero for the depth of blocks and the number of parameters. -/
def zeroLimits : Profile where
  rules := [("max-nesting-depth", { parameters := [("maxDepth", .ofNat 0)] }),
    ("too-many-parameters", { parameters := [("max", .ofNat 0)] })]

end Instance

/-- Strict limits and stray extents: three findings and no failure. -/
theorem builtin_rules_never_fail_stray :
    let config : Config :=
      ⟨Table.insert "too-many-parameters" ⟨true, .information, [("max", .ofNat 0)]⟩
        (Table.insert "max-nesting-depth" ⟨true, .information, [("maxDepth", .ofNat 0)]⟩
          (Config.initialRules .builtin {})), [], [], .information, .error⟩
    let routing := (Routing.ofConfig .builtin config).without ["no-eval"]
    Config.resolve .builtin zeroLimits {} = .ok config ∧
      ∃ output, run routing ⟨"a.py", .ofString "é"⟩ strayMethod .fresh = (some output, .fresh) ∧
        output.findings.length = 3 ∧ output.failures = [] := by
  intro config routing
  have resolved : Config.resolve .builtin zeroLimits {} = .ok config := rfl
  have found : (run routing ⟨"a.py", .ofString "é"⟩ strayMethod .fresh).1.map
    (fun output => output.findings.length) = some 3 := by decide +kernel
  obtain ⟨⟨output, walked, clean⟩, _⟩ :=
    builtin_rules_never_fail resolved ["no-eval"] "a.py" "é" strayMethod
  rw [walked, Option.map_some, Option.some.injEq] at found
  exact ⟨resolved, output, walked, found, clean⟩

end Dispatch

end Lintel
