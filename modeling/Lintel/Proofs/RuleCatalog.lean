import Lintel.Proofs.RuleTurns
import Lintel.Proofs.Search
import Lintel.Proofs.Settings
import Mathlib.Data.Finset.Card
import Mathlib.Data.List.Destutter

/-!
# The catalog of rules

A registry keeps the first rule of each id, in ascending order of id, as sorting does that leaves rules with one
id in their order and then drops all but the first of them. So a look-up finds the first rule of the list that
was given, the registry has as many rules as there are ids, and its version depends on the set of ids only. The
routes of a node are those of the rules in the registry that are on and subscribe to its kind.
-/

set_option autoImplicit false

namespace Lintel

/-- Compares rules by their ids. -/
def Rule.orderId (first second : Rule) : Ordering :=
  orderText first.id second.id

instance : Std.TransCmp Rule.orderId :=
  transCmp_by Rule.id orderText

namespace Registry

/-- The rules of a list in the order of their ids, of those with one id the first in the list: a sorting that
leaves rules with one id as they stand, and of each run of these all but the first are dropped. -/
def sortedById (rules : List Rule) : List Rule :=
  (rules.mergeSort fun first second => first.orderId second != .gt).destutter fun first second =>
    first.id ≠ second.id

theorem find?_destutter (rules : List Rule) (id : String) :
    (rules.destutter fun first second => first.id ≠ second.id).find? (fun rule => rule.id = id) =
      rules.find? fun rule => rule.id = id := by
  cases rules with
  | nil => rfl
  | cons first rest =>
    rw [List.destutter_cons']
    induction rest generalizing first with
    | nil => rfl
    | cons second rest ih =>
      by_cases same : first.id = second.id
      · rw [List.destutter'_cons_neg _ (not_not.mpr same), ih, List.find?_cons, List.find?_cons,
          List.find?_cons, same]
        split <;> rfl
      · rw [List.destutter'_cons_pos _ same, List.find?_cons, ih]
        rfl

theorem find?_mergeSort (rules : List Rule) (id : String) :
    (rules.mergeSort fun first second => first.orderId second != .gt).find? (fun rule => rule.id = id) =
      rules.find? fun rule => rule.id = id := by
  rw [← List.head?_filter, ← List.head?_filter, filter_mergeSort Rule.orderId]
  intro first second isFirst isSecond
  rw [Rule.orderId, of_decide_eq_true isFirst, of_decide_eq_true isSecond]
  exact Std.ReflCmp.compare_self

theorem find?_sortedById (rules : List Rule) (id : String) :
    (sortedById rules).find? (fun rule => rule.id = id) = rules.find? fun rule => rule.id = id := by
  rw [sortedById, find?_destutter, find?_mergeSort]

/-- In ascending order, rules that differ from the ones in front of them differ from all. -/
theorem ascending_of_isChain {rules : List Rule}
    (sorted : rules.Pairwise fun first second => (first.orderId second).isLE = true)
    (apart : rules.IsChain fun first second => first.id ≠ second.id) : Ascending rules := by
  induction rules with
  | nil => exact .nil
  | cons first rest ih =>
    obtain ⟨leading, remaining⟩ := List.pairwise_cons.mp sorted
    refine List.pairwise_cons.mpr ⟨?_, ih remaining apart.tail⟩
    cases rest with
    | nil => exact fun other member => absurd member List.not_mem_nil
    | cons second rest =>
      have differs : first.id ≠ second.id := (List.isChain_cons_cons.mp apart).1
      have below : first.orderId second = .lt := by
        have ordered := leading second List.mem_cons_self
        cases result : first.orderId second with
        | lt => rfl
        | eq =>
          have same : orderText first.id second.id = .eq := result
          exact absurd (Std.LawfulEqCmp.eq_of_compare same) differs
        | gt => simp [result] at ordered
      intro other member
      rcases List.mem_cons.mp member with rfl | later
      · exact below
      · exact Std.TransCmp.lt_of_lt_of_isLE below ((List.pairwise_cons.mp remaining).1 other later)

theorem ascending_sortedById (rules : List Rule) : Ascending (sortedById rules) :=
  ascending_of_isChain ((pairwise_mergeSort rules).sublist (List.destutter_sublist _ _))
    (List.isChain_destutter _ _)

theorem find?_eq_none_of_behind {rules : List Rule} {id : String}
    (behind : ∀ rule ∈ rules, orderText id rule.id = .lt) : rules.find? (fun rule => rule.id = id) = none := by
  rw [List.find?_eq_none]
  intro rule member isAsked
  exact ne_of_orderText_lt (behind rule member) (of_decide_eq_true isAsked).symm

/-- Inserting a rule changes the search for its own id, and only if there was no rule with it. -/
theorem find?_insertRule (inserted : Rule) {rules : List Rule} (ascending : Ascending rules) (id : String) :
    (insertRule inserted rules).find? (fun rule => rule.id = id) =
      (rules.find? fun rule => rule.id = id).or (if inserted.id = id then some inserted else none) := by
  induction rules with
  | nil => by_cases asked : inserted.id = id <;> simp [insertRule, asked]
  | cons first rest ih =>
    obtain ⟨leading, remaining⟩ := List.pairwise_cons.mp ascending
    rw [insertRule]
    by_cases taken : inserted.id = first.id
    · rw [if_pos taken, taken]
      by_cases asked : first.id = id <;> simp [asked]
    · rw [if_neg taken]
      by_cases earlier : Table.keyPrecedes inserted.id first.id = true
      · have below : orderText inserted.id first.id = .lt := by simp [orderText, taken, earlier]
        have absent : (first :: rest).find? (fun rule => rule.id = inserted.id) = none := by
          refine find?_eq_none_of_behind fun other member => ?_
          rcases List.mem_cons.mp member with rfl | later
          · exact below
          · exact Std.TransCmp.lt_trans below (leading other later)
        rw [if_pos earlier]
        by_cases asked : inserted.id = id
        · subst asked
          rw [absent]
          simp
        · simp [asked]
      · rw [if_neg earlier, List.find?_cons, List.find?_cons, ih remaining]
        by_cases asked : first.id = id <;> simp [asked]

/-- Of several rules with one id a registry has the first. -/
theorem find?_ofRules (given : List Rule) (id : String) :
    (ofRules given).rules.find? (fun rule => rule.id = id) = given.find? fun rule => rule.id = id := by
  -- what is kept so far answers first, and the rules still to come only for other ids
  have grown : ∀ (later kept : List Rule), Ascending kept →
      (later.foldl (fun kept rule => insertRule rule kept) kept).find? (fun rule => rule.id = id) =
        (kept.find? fun rule => rule.id = id).or (later.find? fun rule => rule.id = id) := by
    intro later
    induction later with
    | nil => exact fun kept _ => (Option.or_none).symm
    | cons rule later ih =>
      intro kept ascending
      rw [List.foldl_cons, ih _ (ascending_insertRule rule ascending), find?_insertRule rule ascending,
        Option.or_assoc, List.find?_cons]
      by_cases asked : rule.id = id <;> simp [asked]
  exact (grown given [] .nil).trans Option.none_or

theorem get?_ofRules (given : List Rule) (id : String) :
    (ofRules given).get? id = given.find? fun rule => rule.id = id :=
  find?_ofRules given id

/-- The rule that a search by halving finds under an id. -/
def halved? (registry : Registry) (id : String) : Option Rule :=
  match search registry.rules fun rule => orderText rule.id id with
  | .ok place => registry.rules[place]?
  | .error _ => none

/-- In ascending order there is no need to look at every rule. -/
theorem Ascending.halved?_eq_get? {registry : Registry} (ascending : Ascending registry.rules) (id : String) :
    registry.halved? id = registry.get? id := by
  have parted : Parted registry.rules fun rule => orderText rule.id id := by
    apply List.Pairwise.imp _ ascending
    intro first second ordered
    by_cases front : orderText first.id id = .lt
    · exact .inl front
    · right
      have notBehind : (orderText id first.id).isLE = true := by
        rw [← Std.OrientedCmp.isGE_iff_isLE]
        cases side : orderText first.id id with
        | lt => exact absurd side front
        | eq => rfl
        | gt => rfl
      exact Std.OrientedCmp.gt_iff_lt.mpr (Std.TransCmp.lt_of_isLE_of_lt notBehind ordered)
  have sameTest : (fun rule : Rule => decide (orderText rule.id id = .eq)) = fun rule => decide (rule.id = id) := by
    funext rule
    simp only [Std.LawfulEqCmp.compare_eq_iff_eq]
  rw [halved?, get?, ← sameTest]
  exact getElem?_search parted

/-- Rules in ascending order are determined by which rule a search for an id comes to first. -/
theorem Ascending.eq_of_find? {first second : List Rule} (firstAscending : Ascending first)
    (secondAscending : Ascending second)
    (same : ∀ id, first.find? (fun rule => rule.id = id) = second.find? fun rule => rule.id = id) :
    first = second := by
  have members : ∀ {rules : List Rule}, Ascending rules → ∀ rule,
      rule ∈ rules ↔ rules.find? (fun other => other.id = rule.id) = some rule := by
    intro rules ascending rule
    exact ⟨@get?_of_mem ⟨rules⟩ ascending rule, List.mem_of_find?_eq_some⟩
  refine @eq_of_strictly_ascending _ Rule.orderId _ _ _ firstAscending secondAscending fun rule => ?_
  rw [members firstAscending, members secondAscending, same]

theorem rules_ofRules (given : List Rule) : (ofRules given).rules = sortedById given :=
  (ascending_ofRules given).eq_of_find? (ascending_sortedById given) fun id => by
    rw [find?_ofRules, find?_sortedById]

theorem mem_ids_ofRules {given : List Rule} {id : String} :
    id ∈ (ofRules given).ids ↔ id ∈ given.map Rule.id := by
  have found : ∀ rules : List Rule, id ∈ rules.map Rule.id ↔
      (rules.find? fun rule => rule.id = id).isSome = true := by
    intro rules
    simp [List.find?_isSome]
  rw [ids, found, found, find?_ofRules]

theorem ascending_ids (given : List Rule) :
    (ofRules given).ids.Pairwise fun first second => orderText first second = .lt :=
  List.pairwise_map.mpr (ascending_ofRules given)

theorem ids_eq_of_same {given others : List Rule}
    (same : ∀ id, id ∈ given.map Rule.id ↔ id ∈ others.map Rule.id) :
    (ofRules given).ids = (ofRules others).ids := by
  refine eq_of_strictly_ascending (ascending_ids given) (ascending_ids others) fun id => ?_
  rw [mem_ids_ofRules, mem_ids_ofRules, same]

theorem size_ofRules (given : List Rule) : (ofRules given).size = (given.map Rule.id).toFinset.card := by
  have distinct : (ofRules given).ids.Nodup := (ascending_ids given).imp ne_of_orderText_lt
  have same : (ofRules given).ids.toFinset = (given.map Rule.id).toFinset := by
    ext id
    rw [List.mem_toFinset, List.mem_toFinset, mem_ids_ofRules]
  rw [← same, List.toFinset_card_of_nodup distinct, ids, List.length_map, size]

/-- A registry is a catalog of the rules of a list: it has the first rule of each id, in strictly ascending order
of id, and a look-up finds it at the one place where it stands, by halving too. -/
structure Catalogs (registry : Registry) (given : List Rule) : Prop where
  ascending : Ascending registry.rules
  sorted : registry.rules = sortedById given
  first : ∀ id, registry.get? id = given.find? fun rule => rule.id = id
  absent : ∀ id, registry.get? id = none ↔ ∀ rule ∈ given, rule.id ≠ id
  place : ∀ id rule, registry.get? id = some rule ↔ rule ∈ registry.rules ∧ rule.id = id
  halved : ∀ id, registry.halved? id = registry.get? id
  contains : ∀ id, registry.contains id = true ↔ id ∈ given.map Rule.id
  size : registry.size = (given.map Rule.id).toFinset.card

theorem catalogs_ofRules (given : List Rule) : (ofRules given).Catalogs given where
  ascending := ascending_ofRules given
  sorted := rules_ofRules given
  first := get?_ofRules given
  absent id := by simp [get?_ofRules]
  place id rule := by
    refine ⟨of_get?, ?_⟩
    rintro ⟨member, rfl⟩
    exact get?_of_mem (ascending_ofRules given) member
  halved := (ascending_ofRules given).halved?_eq_get?
  contains id := by simp [Registry.contains, get?_ofRules, List.find?_isSome]
  size := size_ofRules given

end Registry

namespace Routing

/-- A routing lists the rules of a registry that a configuration has on: a node goes to those that subscribe to
its kind, in the order of their ids and to each as often as it subscribes, and the rules of the routing are those
that some node goes to. -/
structure Lists (routing : Routing) (registry : Registry) (config : Config) : Prop where
  ordered : ∀ kind, (routing.routes kind).Pairwise fun first second =>
    (orderText first.rule.id second.rule.id).isLE = true
  routed : ∀ kind route, route ∈ routing.routes kind ↔ ∃ rule ∈ registry.rules, ∃ settings,
    config.TurnsOn rule settings ∧ kind ∈ rule.subscriptions ∧ route = ⟨rule, settings.parameters⟩
  repeated : ∀ kind, ∀ rule ∈ registry.rules, ∀ settings, config.TurnsOn rule settings →
    ((routing.routes kind).filter fun route => route.rule.id = rule.id) =
      List.replicate (rule.subscriptions.count kind) ⟨rule, settings.parameters⟩
  idsAscending : routing.ruleIds.Pairwise fun first second => orderText first second = .lt
  ids : ∀ id, id ∈ routing.ruleIds ↔
    ∃ rule ∈ registry.rules, rule.id = id ∧ rule.subscriptions ≠ [] ∧ ∃ settings, config.TurnsOn rule settings
  idsRouted : ∀ id, id ∈ routing.ruleIds ↔ ∃ kind, ∃ route ∈ routing.routes kind, route.rule.id = id

theorem mem_ruleIds_iff {routing : Routing} {id : String} :
    id ∈ routing.ruleIds ↔ ∃ route ∈ routing.all, route.rule.subscriptions ≠ [] ∧ route.rule.id = id := by
  simp [ruleIds, and_assoc]

theorem lists_ofConfig (given : List Rule) (config : Config) :
    (ofConfig (.ofRules given) config).Lists (.ofRules given) config := by
  have built : (ofConfig (.ofRules given) config).Built := .ofConfig given config
  constructor
  case ordered => exact built.routes_ordered
  case routed =>
    intro kind route
    rw [mem_routes_iff, mem_all_ofConfig_iff]
    constructor
    · rintro ⟨⟨rule, registered, settings, on, rfl⟩, subscribed⟩
      exact ⟨rule, registered, settings, on, subscribed, rfl⟩
    · rintro ⟨rule, registered, settings, on, subscribed, rfl⟩
      exact ⟨⟨rule, registered, settings, on, rfl⟩, subscribed⟩
  case repeated =>
    intro kind rule registered settings on
    have member : (⟨rule, settings.parameters⟩ : Route) ∈ (ofConfig (.ofRules given) config).all :=
      mem_all_ofConfig_iff.mpr ⟨rule, registered, settings, on, rfl⟩
    rw [built.filter_routes member kind, List.map_const', ← List.countP_eq_length_filter,
      List.count_eq_countP]
    rfl
  case idsAscending => exact List.pairwise_map.mpr (built.ascending.filter _)
  case ids =>
    intro id
    rw [mem_ruleIds_iff]
    constructor
    · rintro ⟨route, routed, subscribes, rfl⟩
      obtain ⟨rule, registered, settings, on, rfl⟩ := mem_all_ofConfig_iff.mp routed
      exact ⟨rule, registered, rfl, subscribes, settings, on⟩
    · rintro ⟨rule, registered, rfl, subscribes, settings, on⟩
      exact ⟨_, mem_all_ofConfig_iff.mpr ⟨rule, registered, settings, on, rfl⟩, subscribes, rfl⟩
  case idsRouted =>
    intro id
    simp only [mem_ruleIds_iff, mem_routes_iff]
    constructor
    · rintro ⟨route, routed, subscribes, same⟩
      obtain ⟨kind, subscribed⟩ := List.exists_mem_of_ne_nil _ subscribes
      exact ⟨kind, route, ⟨routed, subscribed⟩, same⟩
    · rintro ⟨kind, route, ⟨routed, subscribed⟩, same⟩
      exact ⟨route, routed, List.ne_nil_of_mem subscribed, same⟩

end Routing

/-- The registry of any list of rules is a catalog of it, lists with the same ids have one version, and under any
configuration the routes are those of the rules that the registry has and the configuration has on. -/
theorem Registry.ofRules_faithful (given : List Rule) :
    (ofRules given).Catalogs given ∧
    (∀ others : List Rule, (∀ id, id ∈ given.map Rule.id ↔ id ∈ others.map Rule.id) →
      (ofRules given).version = (ofRules others).version) ∧
    ∀ config : Config, (Routing.ofConfig (.ofRules given) config).Lists (.ofRules given) config := by
  refine ⟨catalogs_ofRules given, fun others same => ?_, Routing.lists_ofConfig given⟩
  rw [version, version, ids_eq_of_same same]

open Dispatch in
/-- A rule that subscribes to calls twice comes before another rule with its id: that one is dropped, and calls go
to the first one twice. -/
theorem Registry.ofRules_faithful_twice :
    let twice : Rule := { callFinder with subscriptions := [.call, .name, .call] }
    let given := [twice, callCrasher, callFinder]
    let config : Config := ⟨Config.initialRules (.ofRules given) {}, [], [], .information, .error⟩
    let route : Route := ⟨twice, []⟩
    (ofRules given).get? "call-finder" = some twice ∧ (ofRules given).size = 2 ∧
      (ofRules given).version = (ofRules [callFinder, callCrasher]).version ∧
      (((Routing.ofConfig (.ofRules given) config).routes .call).filter fun other =>
        other.rule.id = "call-finder") = [route, route] := by
  intro twice given config route
  obtain ⟨catalog, sameVersion, lists⟩ := ofRules_faithful given
  have found : (ofRules given).get? "call-finder" = some twice := catalog.first "call-finder"
  have member := ((catalog.place "call-finder" twice).mp found).1
  have configured : Table.find? twice.id config.rules = some ⟨true, .warning, []⟩ := by
    show Table.find? "call-finder" (Config.initialRules (.ofRules given) {}) = _
    rw [Config.find?_initialRules, found]
    rfl
  refine ⟨found, catalog.size.trans rfl, sameVersion _ fun id => ?_,
    (lists config).repeated .call twice member _ ⟨configured, rfl⟩⟩
  simp only [given, twice, List.map_cons, List.map_nil, List.mem_cons, List.not_mem_nil, or_false]
  tauto

end Lintel
