import Lintel.Proofs.PathIgnores
import Lintel.Proofs.ProfileOrder

/-!
# What a configuration says

Defaults, a profile and the options of an invocation are layered field by field. The settings of a rule come
from what the rule declares, from its own section and from two lists that are about all rules; thresholds,
excluded paths and ignored rules come from the profile and the options alone.
-/

set_option autoImplicit false

namespace Lintel

/-! ## One rule -/

/-- The value that a rule declares for a parameter. Of two declarations of one name the later counts. -/
def Rule.declared? (rule : Rule) (name : String) : Option Nat :=
  (rule.parameters.reverse.find? fun spec => spec.name = name).map ParameterSpec.initial

/-- The settings of a rule under its section of a profile. A section that is missing says nothing. -/
structure RuleSettings.Prescribed (rule : Rule) (includeDefaultRules : Bool) (excluded : Prop)
    (entry : RuleOverride) (settings : RuleSettings) : Prop where
  enabled : settings.enabled = true ↔ ¬ excluded ∧
    (entry.enable = some true ∨
      entry.enable = none ∧ includeDefaultRules = true ∧ rule.onByDefault = true)
  severity : SettledLevel none entry.severity rule.severity settings.severity
  ordered : Table.Ascending settings.parameters
  names : ∀ name, name ∈ settings.parameters.map Prod.fst ↔ ∃ spec ∈ rule.parameters, spec.name = name
  values : ∀ name, Table.find? name settings.parameters =
    (Table.find? name entry.parameters).or ((rule.declared? name).map .ofNat)
  numbers : ∀ parameter ∈ settings.parameters, ∃ number, parameter.2 = .ofNat number

namespace RuleSettings

/-- Nothing but the rule, its section and whether it is on the two lists counts for its settings. -/
theorem Prescribed.unique {rule : Rule} {includeDefaultRules : Bool} {excluded excludedToo : Prop}
    {entry : RuleOverride} {first second : RuleSettings} (same : excluded ↔ excludedToo)
    (isFirst : Prescribed rule includeDefaultRules excluded entry first)
    (isSecond : Prescribed rule includeDefaultRules excludedToo entry second) : first = second := by
  have enabled : first.enabled = second.enabled := by
    rw [Bool.eq_iff_iff, isFirst.enabled, isSecond.enabled, same]
  have severity := isFirst.severity.unique isSecond.severity
  have parameters : first.parameters = second.parameters := by
    refine isFirst.ordered.eq_of_find? isSecond.ordered fun name => ?_
    rw [isFirst.values, isSecond.values]
  cases first
  cases second
  simp_all

variable {rule : Rule} {settings next : RuleSettings}

/-- Setting parameters one after another changes nothing else, and each parameter that is set has the value
that is given for it. -/
theorem foldlM_setParameter {entries : Table Json.Value} (distinct : (entries.map Prod.fst).Nodup)
    (folded : entries.foldlM (setParameter rule) settings = .ok next) :
    next.enabled = settings.enabled ∧ next.severity = settings.severity ∧
      ∀ name, Table.find? name next.parameters =
        (Table.find? name entries).or (Table.find? name settings.parameters) := by
  induction entries generalizing settings with
  | nil =>
    cases folded
    exact ⟨rfl, rfl, fun _ => rfl⟩
  | cons entry entries ih =>
    obtain ⟨fresh, distinct⟩ := List.nodup_cons.mp distinct
    rw [List.foldlM_cons] at folded
    obtain ⟨middle, isSet, folded⟩ := bind_eq_ok folded
    obtain ⟨_, _, rfl⟩ := setParameter_eq_ok_iff.mp isSet
    obtain ⟨enabled, severity, found⟩ := ih distinct folded
    refine ⟨enabled, severity, fun name => ?_⟩
    rw [found, Table.find?_insert, Table.find?]
    by_cases same : name = entry.1
    · rw [same, Table.find?_eq_none_iff.mpr fresh]
      simp
    · simp only [same, if_false]

/-- A section that says nothing changes nothing. -/
theorem override_empty (rule : Rule) (settings : RuleSettings) : settings.override rule {} = .ok settings := rfl

theorem override_eq_ok {entry : RuleOverride} (distinct : (entry.parameters.map Prod.fst).Nodup)
    (overridden : settings.override rule entry = .ok next) :
    next.enabled = entry.enable.getD settings.enabled ∧
      SettledLevel none entry.severity settings.severity next.severity ∧
      ∀ name, Table.find? name next.parameters =
        (Table.find? name entry.parameters).or (Table.find? name settings.parameters) := by
  obtain ⟨severity, settled, folded⟩ := override_eq_ok_iff.mp overridden
  obtain ⟨enabled, same, found⟩ := foldlM_setParameter distinct folded
  rw [same]
  exact ⟨enabled, settled, found⟩

end RuleSettings

/-! ## All rules -/

theorem RuleSettings.find?_initial (includeDefaultRules : Bool) (rule : Rule) (name : String) :
    Table.find? name (initial includeDefaultRules rule).parameters = (rule.declared? name).map .ofNat := by
  rw [initial, Table.find?_ofList, Rule.declared?, ← List.map_reverse]
  generalize rule.parameters.reverse = specs
  induction specs with
  | nil => rfl
  | cons spec specs ih =>
    rw [List.map_cons, Table.find?, ih, List.find?_cons]
    by_cases same : name = spec.name
    · simp [same]
    · simp [same, Ne.symm same]

namespace Registry

theorem get?_of_mem {registry : Registry} (ascending : Ascending registry.rules) {rule : Rule}
    (registered : rule ∈ registry.rules) : registry.get? rule.id = some rule := by
  cases got : registry.get? rule.id with
  | none =>
    rw [get?, List.find?_eq_none] at got
    exact absurd (decide_eq_true rfl) (got rule registered)
  | some found =>
    obtain ⟨isRegistered, sameId⟩ := of_get? got
    rw [ascending.eq_of_id isRegistered registered sameId]

end Registry

namespace Config

variable {registry : Registry} {rules next : Table RuleSettings} {rule : Rule} {settings : RuleSettings}

theorem find?_initialRules (registry : Registry) (profile : Profile) (id : String) :
    Table.find? id (initialRules registry profile) =
      (registry.get? id).map (RuleSettings.initial profile.includeDefaultRules) := by
  rw [initialRules, Registry.get?]
  induction registry.rules with
  | nil => rfl
  | cons rule rules ih =>
    rw [List.map_cons, Table.find?, ih, List.find?_cons]
    by_cases same : id = rule.id
    · simp [same]
    · simp [same, Ne.symm same]

/-- A section changes the settings of its own rule. -/
theorem find?_applySection {id : String} {entry : String × RuleOverride} (got : registry.get? id = some rule)
    (found : Table.find? id rules = some settings) (applied : applySection registry rules entry = .ok next) :
    ∃ after, Table.find? id next = some after ∧
      settings.override rule (if id = entry.1 then entry.2 else {}) = .ok after := by
  obtain ⟨owner, isOwner, applied⟩ := applySection_eq_ok applied
  by_cases same : id = entry.1
  · rw [← same, got] at isOwner
    rw [← same, found] at applied
    cases isOwner
    cases applied with
    | inl overridden =>
      obtain ⟨_, after, isSettings, isAfter, rfl⟩ := overridden
      cases isSettings
      rw [if_pos same, Table.find?_insert, if_pos rfl]
      exact ⟨after, rfl, isAfter⟩
    | inr untouched => cases untouched.1
  · rw [if_neg same]
    refine ⟨settings, ?_, RuleSettings.override_empty rule settings⟩
    cases applied with
    | inl overridden =>
      obtain ⟨_, _, _, _, rfl⟩ := overridden
      rw [Table.find?_insert, if_neg same]
      exact found
    | inr untouched => rw [untouched.2, found]

theorem find?_foldlM_applySection {id : String} {sections : Table RuleOverride}
    (distinct : (sections.map Prod.fst).Nodup) (got : registry.get? id = some rule)
    (found : Table.find? id rules = some settings)
    (folded : sections.foldlM (applySection registry) rules = .ok next) :
    ∃ after, Table.find? id next = some after ∧
      settings.override rule ((Table.find? id sections).getD {}) = .ok after := by
  induction sections generalizing rules settings with
  | nil =>
    cases folded
    exact ⟨settings, found, RuleSettings.override_empty rule settings⟩
  | cons entry sections ih =>
    obtain ⟨fresh, distinct⟩ := List.nodup_cons.mp distinct
    rw [List.foldlM_cons] at folded
    obtain ⟨middle, applied, folded⟩ := bind_eq_ok folded
    obtain ⟨between, isBetween, overridden⟩ := find?_applySection got found applied
    obtain ⟨after, isAfter, later⟩ := ih distinct isBetween folded
    refine ⟨after, isAfter, ?_⟩
    rw [Table.find?]
    by_cases same : id = entry.1
    · -- the section is the only one for this rule, so the later ones leave its settings alone
      rw [if_pos same] at overridden
      rw [same, Table.find?_eq_none_iff.mpr fresh, Option.getD_none, RuleSettings.override_empty] at later
      cases later
      rw [if_pos same]
      exact overridden
    · rw [if_neg same, RuleSettings.override_empty] at overridden
      cases overridden
      rw [if_neg same]
      exact later

theorem contains_of_foldlM_applyExclusion {ids : List String}
    (folded : ids.foldlM (applyExclusion registry) rules = .ok next) :
    ∀ id ∈ ids, registry.contains id = true := by
  intro id member
  obtain ⟨_, _, applied⟩ := exists_ok_of_foldlM folded id member
  exact (applyExclusion_eq_ok_iff.mp applied).1

theorem find?_foldlM_applyExclusion {ids : List String} (id : String)
    (folded : ids.foldlM (applyExclusion registry) rules = .ok next) :
    Table.find? id next =
      (Table.find? id rules).map fun settings => if id ∈ ids then settings.off else settings := by
  rw [foldlM_applyExclusion (contains_of_foldlM_applyExclusion folded)] at folded
  cases folded
  exact find?_foldl_switchOff id ids rules

end Config

/-! ## The whole configuration -/

/-- The section of a rule; a section that is missing says nothing. -/
def Profile.sectionOf (profile : Profile) (id : String) : RuleOverride :=
  (Table.find? id profile.rules).getD {}

namespace Config

/-- A configuration that says what its registry, its profile and its options say together. -/
structure Follows (registry : Registry) (profile : Profile) (options : Options) (config : Config) : Prop where
  ids : config.rules.map Prod.fst = registry.ids
  settings : ∀ rule ∈ registry.rules, ∃ settings, Table.find? rule.id config.rules = some settings ∧
    config.isEnabled rule.id = settings.enabled ∧
      settings.Prescribed rule profile.includeDefaultRules (rule.id ∈ profile.excludeRules)
        (profile.sectionOf rule.id)
  reportThreshold : SettledLevel options.reportThreshold profile.severityReportThreshold .information
    config.reportThreshold
  failThreshold : SettledLevel options.failThreshold profile.failThreshold .error config.failThreshold
  exclude : config.exclude.map Glob.pattern = profile.exclude ++ options.exclude
  ignoredAscending : ∀ path,
    (config.ignoredRules path).Pairwise fun first second => orderText first second = .lt
  ignored : ∀ path id, id ∈ config.ignoredRules path ↔
    ∃ entry ∈ profile.perFileIgnores, id ∈ entry.2 ∧
      ∃ glob, Glob.parse entry.1 = .ok glob ∧ glob.isMatch path = true

variable {registry : Registry} {profile : Profile} {options : Options} {config : Config}

theorem distinct_parameters (inOrder : profile.InOrder) (id : String) :
    ((profile.sectionOf id).parameters.map Prod.fst).Nodup := by
  unfold Profile.sectionOf
  cases found : Table.find? id profile.rules with
  | none => exact List.nodup_nil
  | some entry =>
    have ordered := inOrder.sections (id, entry) (Table.mem_of_find? found)
    exact Table.Ascending.nodup_keys ordered

/-- What a section leaves of the settings of a rule, switched off if the rule is excluded, is what the
section prescribes. -/
theorem prescribed_of_override {rule : Rule} {entry : RuleOverride} {includeDefaultRules : Bool}
    (excluded : Bool) {between : RuleSettings} (distinct : (entry.parameters.map Prod.fst).Nodup)
    (overridden : (RuleSettings.initial includeDefaultRules rule).override rule entry = .ok between)
    (fits : between.Fits rule) (numbers : between.HasNumbers) :
    RuleSettings.Prescribed rule includeDefaultRules (excluded = true) entry
      (if excluded = true then between.off else between) := by
  obtain ⟨enabled, severity, values⟩ := RuleSettings.override_eq_ok distinct overridden
  have same : (if excluded = true then between.off else between) =
      { between with enabled := !excluded && between.enabled } := by
    cases excluded with
    | false => rfl
    | true => rfl
  rw [same]
  refine ⟨?_, severity, fits.ordered, fun name => ?_, fun name => ?_, numbers⟩
  · simp only [enabled, RuleSettings.initial]
    cases entry.enable with
    | none => simp
    | some enable => simp
  · rw [← fits.names, Option.isSome_iff_ne_none, ne_eq, Table.find?_eq_none_iff, not_not]
  · simp only [values, RuleSettings.find?_initial]

theorem prescribed_of_resolve (ascending : Registry.Ascending registry.rules) (inOrder : profile.InOrder)
    (resolved : resolve registry profile options = .ok config) {rule : Rule}
    (registered : rule ∈ registry.rules) :
    ∃ settings, Table.find? rule.id config.rules = some settings ∧
      settings.Prescribed rule profile.includeDefaultRules (rule.id ∈ profile.excludeRules)
        (profile.sectionOf rule.id) := by
  obtain ⟨sections, isSections, isRules⟩ := (resolve_eq_ok_iff.mp resolved).rules
  have got := Registry.get?_of_mem ascending registered
  have start := find?_initialRules registry profile rule.id
  rw [got, Option.map_some] at start
  obtain ⟨between, isBetween, overridden⟩ :=
    find?_foldlM_applySection inOrder.rules.nodup_keys got start isSections
  have found := find?_foldlM_applyExclusion rule.id isRules
  rw [isBetween, Option.map_some] at found
  have fits := (RuleSettings.fits_initial profile.includeDefaultRules rule).override overridden
  have numbers := RuleSettings.override_hasNumbers (RuleSettings.hasNumbers_initial _ rule) overridden
  have prescribed := prescribed_of_override (decide (rule.id ∈ profile.excludeRules))
    (distinct_parameters inOrder rule.id) overridden fits numbers
  simp only [decide_eq_true_eq] at prescribed
  exact ⟨_, found, prescribed⟩

/-- A configuration has settings for the rules of its registry and for no others. -/
theorem ids_of_resolve (ascending : Registry.Ascending registry.rules) (inOrder : profile.InOrder)
    (resolved : resolve registry profile options = .ok config) :
    config.rules.map Prod.fst = registry.ids := by
  have fitted := fitted_of_resolve ascending resolved
  apply eq_of_strictly_ascending (List.pairwise_map.mpr fitted.ordered) (List.pairwise_map.mpr ascending)
  intro id
  constructor
  · intro member
    obtain ⟨entry, inside, rfl⟩ := List.mem_map.mp member
    obtain ⟨rule, registered, sameId, _⟩ := fitted.fits entry inside
    exact sameId ▸ List.mem_map_of_mem registered
  · intro member
    obtain ⟨rule, registered, rfl⟩ := List.mem_map.mp member
    obtain ⟨settings, found, _⟩ := prescribed_of_resolve ascending inOrder resolved registered
    exact List.mem_map_of_mem (Table.mem_of_find? found)

theorem mem_ignoredRules_of_resolve (resolved : resolve registry profile options = .ok config)
    (path id : String) :
    id ∈ config.ignoredRules path ↔ ∃ entry ∈ profile.perFileIgnores, id ∈ entry.2 ∧
      ∃ glob, Glob.parse entry.1 = .ok glob ∧ glob.isMatch path = true := by
  have ignores := (resolve_eq_ok_iff.mp resolved).perFileIgnores
  rw [mem_ignoredRules]
  constructor
  · rintro ⟨ignore, inside, isMatch, listed⟩
    obtain ⟨entry, member, read⟩ := (mem_mapM_iff ignores ignore).mp inside
    obtain ⟨_, parsed, same⟩ := readIgnore_eq_ok_iff.mp read
    exact ⟨entry, member, same ▸ listed, ignore.glob, parsed, isMatch⟩
  · rintro ⟨entry, member, listed, glob, parsed, isMatch⟩
    obtain ⟨ignore, inside, read⟩ := exists_of_mapM ignores entry member
    obtain ⟨_, parsedToo, same⟩ := readIgnore_eq_ok_iff.mp read
    rw [parsed] at parsedToo
    cases parsedToo
    exact ⟨ignore, inside, isMatch, same ▸ listed⟩

theorem ascending_ignoredRules (config : Config) (path : String) :
    (config.ignoredRules path).Pairwise fun first second => orderText first second = .lt :=
  List.pairwise_map.mpr (Table.ascending_ofList _)

/-- A configuration that is accepted says what its registry, its profile and its options say together. The
settings of a rule do not change with anything but its own section, its place on the list of excluded rules
and the switch for all defaults: not with other rules, other sections or the options. -/
theorem resolve_follows {rules : List Rule} {profile : Profile} {options : Options} {config : Config}
    (inOrder : profile.InOrder) (resolved : resolve (.ofRules rules) profile options = .ok config) :
    config.Follows (.ofRules rules) profile options ∧
      ∀ (others : List Rule) (other : Profile) (otherOptions : Options) (second : Config),
        other.InOrder → resolve (.ofRules others) other otherOptions = .ok second →
          ∀ rule ∈ (Registry.ofRules rules).rules, rule ∈ (Registry.ofRules others).rules →
            other.includeDefaultRules = profile.includeDefaultRules →
            (rule.id ∈ profile.excludeRules ↔ rule.id ∈ other.excludeRules) →
            other.sectionOf rule.id = profile.sectionOf rule.id →
              Table.find? rule.id second.rules = Table.find? rule.id config.rules := by
  have ascending := Registry.ascending_ofRules rules
  constructor
  · have stages := resolve_eq_ok_iff.mp resolved
    refine {
      ids := ids_of_resolve ascending inOrder resolved
      settings := ?_
      reportThreshold := threshold_eq_ok_iff.mp stages.reportThreshold
      failThreshold := threshold_eq_ok_iff.mp stages.failThreshold
      exclude := exclude_of_resolve resolved
      ignoredAscending := config.ascending_ignoredRules
      ignored := mem_ignoredRules_of_resolve resolved }
    intro rule registered
    obtain ⟨settings, found, prescribed⟩ := prescribed_of_resolve ascending inOrder resolved registered
    refine ⟨settings, found, ?_, prescribed⟩
    rw [isEnabled, found]
  · intro others other otherOptions second otherInOrder otherResolved rule registered isOther included
      excluded entry
    obtain ⟨settings, found, prescribed⟩ := prescribed_of_resolve ascending inOrder resolved registered
    obtain ⟨otherSettings, otherFound, prescribedToo⟩ :=
      prescribed_of_resolve (Registry.ascending_ofRules others) otherInOrder otherResolved isOther
    rw [included, entry] at prescribedToo
    rw [found, otherFound, prescribed.unique excluded prescribedToo]

/-- A rule that is switched on and excluded is off, and a limit for another rule leaves `no-eval` as it is under
no profile at all. -/
theorem resolve_follows_excluded :
    let text := "rules:\n  no-print:\n    enable: true\n  max-nesting-depth:\n    parameters:\n" ++
      "      maxDepth: 2\nexcludeRules:\n- no-print\n"
    ∃ profile config plain, Profile.ofText ".skylos.yaml" text = .ok profile ∧
      resolve .builtin profile {} = .ok config ∧ resolve .builtin {} {} = .ok plain ∧
      config.Follows .builtin profile {} ∧ config.isEnabled "no-print" = false ∧
      Table.find? "no-eval" plain.rules = Table.find? "no-eval" config.rules := by
  intro text
  have facts : ((Profile.ofText ".skylos.yaml" text).bind fun profile =>
      (resolve .builtin profile {}).map fun config => (config.isEnabled "no-print",
        profile.includeDefaultRules, profile.excludeRules, Table.contains profile.rules "no-eval")) =
      .ok (false, true, ["no-print"], false) := by decide +kernel
  obtain ⟨profile, read, facts⟩ := bind_eq_ok facts
  cases resolved : resolve .builtin profile {} with
  | error cause =>
    rw [resolved] at facts
    cases facts
  | ok config =>
    rw [resolved] at facts
    simp only [Except.map, Except.ok.injEq, Prod.mk.injEq] at facts
    obtain ⟨isOff, included, excluded, absent⟩ := facts
    have plainResolved : resolve .builtin {} {} =
        .ok ⟨initialRules .builtin {}, [], [], .information, .error⟩ := rfl
    have registered := (Registry.of_get? (show Registry.builtin.get? "no-eval" = some Rule.noEval from rfl)).1
    have noSection : profile.sectionOf "no-eval" = {} := by
      rw [Table.contains, Option.isSome_eq_false_iff, Option.isNone_iff_eq_none] at absent
      rw [Profile.sectionOf, absent, Option.getD_none]
    obtain ⟨follows, same⟩ := resolve_follows (Profile.inOrder_ofText read) resolved
    have empty : Profile.InOrder {} := ⟨.nil, fun _ member => absurd member List.not_mem_nil, .nil⟩
    refine ⟨profile, config, _, read, resolved, plainResolved, follows, isOff, ?_⟩
    refine same Registry.builtinRules {} {} _ empty plainResolved Rule.noEval registered registered
      included.symm ?_ noSection.symm
    rw [excluded]
    decide

end Config

end Lintel
