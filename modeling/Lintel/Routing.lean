import Lintel.Config

/-!
# Routing

Which rules a node is handed to. A rule that is on in the configuration is routed once for each
subscription to the node's kind.
-/

set_option autoImplicit false

namespace Lintel

/-- A rule that is on, with the values of its parameters. -/
structure Route where
  rule : Rule
  parameters : ParameterValues

/-- The rules of a walk, in ascending order of id. -/
structure Routing where
  all : List Route

namespace Routing

/-- The route of a rule, if the configuration knows the rule and has it on. -/
def routeOf? (config : Config) (rule : Rule) : Option Route :=
  match Table.find? rule.id config.rules with
  | some settings => if settings.enabled then some ⟨rule, settings.parameters⟩ else none
  | none => none

/-- The routing of a registry under a configuration. -/
def ofConfig (registry : Registry) (config : Config) : Routing :=
  ⟨registry.rules.filterMap (routeOf? config)⟩

/-- The routes of a node, as often as its kind is subscribed to. -/
def routes (routing : Routing) (kind : NodeKind) : List Route :=
  routing.all.flatMap fun route =>
    (route.rule.subscriptions.filter fun wanted => wanted = kind).map fun _ => route

/-- The routing without some rules. -/
def without (routing : Routing) (ids : List String) : Routing :=
  ⟨routing.all.filter fun route => !ids.contains route.rule.id⟩

/-- The ids of the rules that some node could be handed to. -/
def ruleIds (routing : Routing) : List String :=
  (routing.all.filter fun route => !route.rule.subscriptions.isEmpty).map fun route => route.rule.id

end Routing

end Lintel
