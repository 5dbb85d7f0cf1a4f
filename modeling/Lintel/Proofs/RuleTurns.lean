import Lintel.Proofs.DispatchOutput
import Lintel.Proofs.RuleSafety

/-!
# The turns of one rule

A rule that is on has one route, so a node goes to it as often as the rule subscribes to the node's kind. What
a walk finds under the id of the rule is what these turns find.
-/

set_option autoImplicit false

namespace Lintel

/-- Each rule has one route. -/
theorem Routing.Built.filter_id {routing : Routing} (built : routing.Built) {route : Route}
    (member : route ∈ routing.all) :
    (routing.all.filter fun other => other.rule.id = route.rule.id) = [route] := by
  have ascending := built.ascending
  generalize routing.all = routes at ascending member
  induction routes with
  | nil => cases member
  | cons first routes ih =>
    obtain ⟨below, ascending⟩ := List.pairwise_cons.mp ascending
    have differs : ∀ other ∈ routes, first.rule.id ≠ other.rule.id :=
      fun other inside => ne_of_orderText_lt (below other inside)
    rcases List.mem_cons.mp member with rfl | later
    · rw [List.filter_cons_of_pos (by simp), List.cons.injEq]
      refine ⟨rfl, List.filter_eq_nil_iff.mpr fun other inside => ?_⟩
      simpa using (differs other inside).symm
    · rw [List.filter_cons_of_neg (by simpa using differs route later)]
      exact ih ascending later

/-- A node goes to a rule as often as the rule subscribes to its kind. -/
theorem Routing.Built.filter_routes {routing : Routing} (built : routing.Built) {route : Route}
    (member : route ∈ routing.all) (kind : NodeKind) :
    ((routing.routes kind).filter fun other => other.rule.id = route.rule.id) =
      (route.rule.subscriptions.filter fun wanted => wanted = kind).map fun _ => route := by
  have apart : (routing.all.filter fun other => other.rule.id = route.rule.id).flatMap (fun other =>
        (other.rule.subscriptions.filter fun wanted => wanted = kind).map fun _ => other) =
      (routing.routes kind).filter fun other => other.rule.id = route.rule.id := by
    refine flatMap_filter fun repeated _ other inside => ?_
    obtain ⟨_, _, rfl⟩ := List.mem_map.mp inside
    rfl
  rw [← apart, built.filter_id member, List.flatMap_singleton]

/-- A rule that is on and not left out is routed with its parameters. -/
theorem Routing.mem_all_without {registry : Registry} {config : Config} {rule : Rule} {settings : RuleSettings}
    {ids : List String} (registered : rule ∈ registry.rules)
    (configured : Table.find? rule.id config.rules = some settings) (enabled : settings.enabled = true)
    (kept : rule.id ∉ ids) :
    (⟨rule, settings.parameters⟩ : Route) ∈ ((ofConfig registry config).without ids).all := by
  have routed : (⟨rule, settings.parameters⟩ : Route) ∈ (ofConfig registry config).all :=
    mem_all_ofConfig_iff.mpr ⟨rule, registered, settings, ⟨configured, enabled⟩, rfl⟩
  exact List.mem_filter.mpr ⟨routed, by simpa using kept⟩

/-- What a turn finds goes under the id of its rule. -/
theorem Turn.ruleId_of_found {registry : Registry} (ownIds : registry.OwnIds) {config : Config}
    {ids : List String} {source : SourceContext} {body : List Python.Stmt} {turn : Turn} {finding : Finding}
    (member : turn ∈ all ((Routing.ofConfig registry config).without ids) body)
    (inside : finding ∈ turn.found source) : finding.ruleId = turn.route.rule.id := by
  obtain ⟨lineage, _, taken⟩ := List.mem_flatMap.mp member
  obtain ⟨route, routed, rfl⟩ := List.mem_map.mp taken
  have kept := List.mem_filter.mp (Routing.mem_routes_iff.mp routed).1
  obtain ⟨rule, registered, settings, _, rfl⟩ := Routing.mem_all_ofConfig_iff.mp kept.1
  unfold found at inside
  split at inside
  · rename_i found outcome
    exact ownIds.labelled rule registered _ _ found outcome finding inside
  · cases inside
  · cases inside

namespace Dispatch

variable {config : Config} {ids : List String} {route : Route}

/-- What a walk finds under the id of a rule is what the rule finds in its turns. -/
theorem findings_of_route (member : route ∈ ((Routing.ofConfig .builtin config).without ids).all)
    (source : SourceContext) (body : List Python.Stmt) :
    ((fullOutput ((Routing.ofConfig .builtin config).without ids) source body).findings.filter fun finding =>
        finding.ruleId = route.rule.id) =
      (lineagesOf body).flatMap fun lineage =>
        (route.rule.subscriptions.filter fun wanted => wanted = lineage.1.kind).flatMap fun _ =>
          Turn.found source ⟨lineage.1, lineage.2, route⟩ := by
  have built : ((Routing.ofConfig .builtin config).without ids).Built :=
    .without _ (.ofConfig Registry.builtinRules config)
  have filtered : ((Turn.all ((Routing.ofConfig .builtin config).without ids) body).filter fun turn =>
      turn.route.rule.id = route.rule.id).flatMap (Turn.found source) =
      ((Turn.all ((Routing.ofConfig .builtin config).without ids) body).flatMap (Turn.found source)).filter
        fun finding => finding.ruleId = route.rule.id := by
    refine flatMap_filter fun turn inside finding found => ?_
    rw [Turn.ruleId_of_found Registry.ownIds_builtin inside found]
  rw [(accounts_fullOutput _ source body).findings, ← filtered, Turn.all, List.filter_flatMap,
    List.flatMap_assoc]
  congr 1
  funext lineage
  have routes := built.filter_routes member lineage.1.kind
  simp only [List.filter_map, Function.comp_def, routes, List.map_map, List.flatMap_map]

end Dispatch

end Lintel
