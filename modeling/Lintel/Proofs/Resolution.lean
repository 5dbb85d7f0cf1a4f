import Lintel.Proofs.ConfigView
import Lintel.Proofs.DispatchOutput

/-!
# How a profile becomes a configuration

What the stages of a resolution make of the settings of the rules. Whatever a profile says, the settings
of a rule have exactly the parameters that the rule declares. Excluding rules switches them off and leaves
everything else as it is.
-/

set_option autoImplicit false

namespace Lintel

/-! ## Patterns -/

/-- The excluded patterns are those of the profile and then those of the options. -/
theorem Config.exclude_of_resolve {registry : Registry} {profile : Profile} {options : Options}
    {config : Config} (resolved : resolve registry profile options = .ok config) :
    config.exclude.map Glob.pattern = profile.exclude ++ options.exclude := by
  have read := (resolve_eq_ok_iff.mp resolved).exclude
  generalize profile.exclude ++ options.exclude = patterns at read
  generalize config.exclude = globs at read
  induction patterns generalizing globs with
  | nil =>
    cases read
    rfl
  | cons pattern patterns ih =>
    rw [List.mapM_cons] at read
    obtain ⟨glob, isGlob, read⟩ := bind_eq_ok read
    obtain ⟨later, isLater, read⟩ := bind_eq_ok read
    cases read
    rw [List.map_cons, Glob.pattern_of_parse (readGlob_eq_ok_iff.mp isGlob), ih later isLater]

/-! ## Rules that are excluded -/

namespace Config

theorem foldlM_applyExclusion {registry : Registry} {ids : List String}
    (registered : ∀ id ∈ ids, registry.contains id = true) (rules : Table RuleSettings) :
    ids.foldlM (applyExclusion registry) rules = .ok (ids.foldl switchOff rules) := by
  induction ids generalizing rules with
  | nil => rfl
  | cons id ids ih =>
    have here := registered id List.mem_cons_self
    have later := ih (fun other member => registered other (List.mem_cons_of_mem _ member))
    rw [List.foldlM_cons, applyExclusion_of_contains here, List.foldl_cons]
    exact later (switchOff rules id)

theorem find?_switchOff (key id : String) (rules : Table RuleSettings) :
    Table.find? key (switchOff rules id) =
      (Table.find? key rules).map fun settings => if key = id then settings.off else settings := by
  rw [switchOff]
  cases found : Table.find? id rules with
  | none =>
    by_cases same : key = id
    · simp [same, found]
    · simp [same]
  | some settings =>
    by_cases same : key = id
    · simp [Table.find?_insert, same, found]
    · simp [Table.find?_insert, same]

/-- Excluding rules switches off exactly these, also where one of them is listed twice. -/
theorem find?_foldl_switchOff (key : String) (ids : List String) (rules : Table RuleSettings) :
    Table.find? key (ids.foldl switchOff rules) =
      (Table.find? key rules).map fun settings => if key ∈ ids then settings.off else settings := by
  induction ids generalizing rules with
  | nil => simp
  | cons id ids ih =>
    rw [List.foldl_cons, ih, find?_switchOff, Option.map_map]
    congr 1
    funext settings
    by_cases same : key = id
    · by_cases again : key ∈ ids <;> simp [same, RuleSettings.off]
    · simp [same]

end Config

/-! ## Settings and the rules they belong to -/

/-- Settings with the parameters of a rule, each of them once. -/
structure RuleSettings.Fits (rule : Rule) (settings : RuleSettings) : Prop where
  ordered : Table.Ascending settings.parameters
  names : ∀ name, (Table.find? name settings.parameters).isSome = true ↔
    ∃ spec ∈ rule.parameters, spec.name = name

namespace RuleSettings

theorem fits_initial (includeDefaultRules : Bool) (rule : Rule) :
    (initial includeDefaultRules rule).Fits rule where
  ordered := Table.ascending_ofList _
  names name := by
    rw [initial, Table.isSome_find?_ofList, List.map_map, List.mem_map]
    exact Iff.rfl

theorem Fits.setParameter {rule : Rule} {settings next : RuleSettings} {entry : String × Json.Value}
    (fits : settings.Fits rule) (set : setParameter rule settings entry = .ok next) : next.Fits rule := by
  obtain ⟨declared, _, rfl⟩ := setParameter_eq_ok_iff.mp set
  refine ⟨Table.ascending_insert _ _ fits.ordered, fun name => ?_⟩
  rw [Table.find?_insert, ← fits.names]
  by_cases same : name = entry.1
  · have known := (fits.names entry.1).mpr declared
    simp [same, known]
  · simp [same]

theorem Fits.override {rule : Rule} {settings next : RuleSettings} {entry : RuleOverride}
    (fits : settings.Fits rule) (overridden : settings.override rule entry = .ok next) :
    next.Fits rule := by
  obtain ⟨severity, _, folded⟩ := override_eq_ok_iff.mp overridden
  exact foldlM_invariant (Fits rule) folded (fun _ _ _ => Fits.setParameter) ⟨fits.ordered, fits.names⟩

end RuleSettings

theorem Registry.of_get? {registry : Registry} {id : String} {rule : Rule}
    (got : registry.get? id = some rule) : rule ∈ registry.rules ∧ rule.id = id := by
  rw [get?] at got
  exact ⟨List.mem_of_find?_eq_some got, by simpa using List.find?_some got⟩

theorem Registry.Ascending.eq_of_id {rules : List Rule} (ascending : Ascending rules) {first second : Rule}
    (firstMember : first ∈ rules) (secondMember : second ∈ rules) (same : first.id = second.id) :
    first = second := by
  have := transCmp_by Rule.id orderText
  have equal : orderText first.id second.id = .eq := by simp [orderText, same]
  exact eq_of_order_eq ascending firstMember secondMember equal

namespace Config

/-- The settings of the rules of a registry: in order, and each fit for the rule whose id it has. -/
structure Fitted (registry : Registry) (rules : Table RuleSettings) : Prop where
  ordered : Table.Ascending rules
  fits : ∀ entry ∈ rules, ∃ rule ∈ registry.rules, rule.id = entry.1 ∧ entry.2.Fits rule

variable {registry : Registry} {rules next : Table RuleSettings}

theorem fitted_initialRules (ascending : Registry.Ascending registry.rules) (profile : Profile) :
    Fitted registry (initialRules registry profile) where
  ordered := List.pairwise_map.mpr ascending
  fits entry member := by
    obtain ⟨rule, registered, rfl⟩ := List.mem_map.mp member
    exact ⟨rule, registered, rfl, RuleSettings.fits_initial _ rule⟩

theorem Fitted.insert (fitted : Fitted registry rules) {rule : Rule} (registered : rule ∈ registry.rules)
    {settings : RuleSettings} (fits : settings.Fits rule) :
    Fitted registry (Table.insert rule.id settings rules) where
  ordered := Table.ascending_insert _ _ fitted.ordered
  fits entry member := by
    rcases Table.mem_insert member with rfl | earlier
    · exact ⟨rule, registered, rfl, fits⟩
    · exact fitted.fits entry earlier

/-- The rule whose settings these are is the one that has the id. -/
theorem Fitted.fits_of_find? (ascending : Registry.Ascending registry.rules) (fitted : Fitted registry rules)
    {rule : Rule} (registered : rule ∈ registry.rules) {settings : RuleSettings}
    (found : Table.find? rule.id rules = some settings) : settings.Fits rule := by
  obtain ⟨owner, isRegistered, sameId, fits⟩ := fitted.fits _ (Table.mem_of_find? found)
  rw [ascending.eq_of_id registered isRegistered sameId.symm]
  exact fits

theorem Fitted.applySection (ascending : Registry.Ascending registry.rules)
    {entry : String × RuleOverride} (fitted : Fitted registry rules)
    (applied : applySection registry rules entry = .ok next) : Fitted registry next := by
  obtain ⟨rule, got, applied⟩ := applySection_eq_ok applied
  cases applied with
  | inl overridden =>
    obtain ⟨settings, after, found, isAfter, rfl⟩ := overridden
    obtain ⟨registered, sameId⟩ := Registry.of_get? got
    rw [← sameId] at found ⊢
    exact fitted.insert registered ((fitted.fits_of_find? ascending registered found).override isAfter)
  | inr untouched =>
    obtain ⟨_, rfl⟩ := untouched
    exact fitted

theorem Fitted.applyExclusion {id : String} (fitted : Fitted registry rules)
    (applied : applyExclusion registry rules id = .ok next) : Fitted registry next := by
  obtain ⟨_, rfl⟩ := applyExclusion_eq_ok_iff.mp applied
  rw [switchOff]
  cases found : Table.find? id rules with
  | none => exact fitted
  | some settings =>
    obtain ⟨rule, registered, rfl, fits⟩ := fitted.fits _ (Table.mem_of_find? found)
    exact fitted.insert registered ⟨fits.ordered, fits.names⟩

/-- Whatever a profile says, the settings that come out belong to the rules of the registry. -/
theorem fitted_of_resolve (ascending : Registry.Ascending registry.rules) {profile : Profile}
    {options : Options} {config : Config} (resolved : resolve registry profile options = .ok config) :
    Fitted registry config.rules := by
  obtain ⟨sections, isSections, isRules⟩ := (resolve_eq_ok_iff.mp resolved).rules
  have start := fitted_initialRules ascending profile
  have fitted := foldlM_invariant (Fitted registry) isSections
    (fun _ _ _ => Fitted.applySection ascending) start
  exact foldlM_invariant (Fitted registry) isRules (fun _ _ _ => Fitted.applyExclusion) fitted

end Config

end Lintel
