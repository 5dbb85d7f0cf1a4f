import Lintel.Routing

/-!
# Routes

Which rules a configuration routes, and which of them a node goes to.
-/

set_option autoImplicit false

namespace Lintel

/-- A configuration knows a rule, with these settings, and has it on. -/
structure Config.TurnsOn (config : Config) (rule : Rule) (settings : RuleSettings) : Prop where
  configured : Table.find? rule.id config.rules = some settings
  enabled : settings.enabled = true

namespace Routing

variable {registry : Registry} {config : Config} {rule : Rule} {route : Route}

theorem routeOf?_eq_some_iff :
    routeOf? config rule = some route ↔
      ∃ settings, config.TurnsOn rule settings ∧ route = ⟨rule, settings.parameters⟩ := by
  constructor
  · intro routed
    unfold routeOf? at routed
    split at routed
    · rename_i settings configured
      split at routed
      · rename_i enabled
        exact ⟨settings, ⟨configured, enabled⟩, (Option.some.inj routed).symm⟩
      · cases routed
    · cases routed
  · rintro ⟨settings, on, rfl⟩
    simp [routeOf?, on.configured, on.enabled]

theorem mem_all_ofConfig_iff :
    route ∈ (ofConfig registry config).all ↔
      ∃ rule ∈ registry.rules, ∃ settings, config.TurnsOn rule settings ∧
        route = ⟨rule, settings.parameters⟩ := by
  simp only [ofConfig, List.mem_filterMap, routeOf?_eq_some_iff]

/-- A node goes to the routed rules that subscribe to its kind. -/
theorem mem_routes_iff {routing : Routing} {kind : NodeKind} :
    route ∈ routing.routes kind ↔ route ∈ routing.all ∧ kind ∈ route.rule.subscriptions := by
  simp only [routes, List.mem_flatMap, List.mem_map, List.mem_filter, decide_eq_true_eq]
  constructor
  · rintro ⟨routed, inside, _, ⟨subscribed, rfl⟩, rfl⟩
    exact ⟨inside, subscribed⟩
  · rintro ⟨inside, subscribed⟩
    exact ⟨route, inside, kind, ⟨subscribed, rfl⟩, rfl⟩

end Routing

end Lintel
