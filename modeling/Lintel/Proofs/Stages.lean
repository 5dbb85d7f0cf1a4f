import Lintel.Config
import Mathlib.Data.List.Basic

/-!
# The stages of a resolution

What each stage can do when it succeeds, said once. Readings succeed for what can be read, a section takes
its rule from settings to settings, an exclusion switches its rule off, and a resolution succeeds if all of
its stages do.
-/

set_option autoImplicit false

namespace Lintel

/-! ## Computations that can fail -/

theorem bind_eq_ok {ε α β : Type} {first : Except ε α} {next : α → Except ε β} {result : β}
    (success : first >>= next = .ok result) : ∃ value, first = .ok value ∧ next value = .ok result := by
  cases first with
  | error cause => cases success
  | ok value => exact ⟨value, rfl, success⟩

theorem foldlM_invariant {ε σ α : Type} {step : σ → α → Except ε σ} (Holds : σ → Prop)
    {items : List α} {state last : σ} (folded : items.foldlM step state = .ok last)
    (keeps : ∀ state item next, Holds state → step state item = .ok next → Holds next)
    (holds : Holds state) : Holds last := by
  induction items generalizing state with
  | nil => exact Except.ok.inj folded ▸ holds
  | cons item items ih =>
    rw [List.foldlM_cons] at folded
    obtain ⟨next, stepped, later⟩ := bind_eq_ok folded
    exact ih later (keeps state item next holds stepped)

theorem mem_mapM_iff {ε α β : Type} {read : α → Except ε β} {items : List α} {values : List β}
    (mapped : items.mapM read = .ok values) (value : β) :
    value ∈ values ↔ ∃ item ∈ items, read item = .ok value := by
  induction items generalizing values with
  | nil =>
    rw [List.mapM_nil] at mapped
    cases mapped
    simp
  | cons item items ih =>
    rw [List.mapM_cons] at mapped
    obtain ⟨first, isFirst, mapped⟩ := bind_eq_ok mapped
    obtain ⟨later, isLater, mapped⟩ := bind_eq_ok mapped
    cases mapped
    rw [List.mem_cons, ih isLater, List.exists_mem_cons_iff, isFirst, Except.ok.injEq, eq_comm]

theorem exists_of_mapM {ε α β : Type} {read : α → Except ε β} {items : List α} {values : List β}
    (mapped : items.mapM read = .ok values) : ∀ item ∈ items, ∃ value ∈ values, read item = .ok value := by
  induction items generalizing values with
  | nil => exact fun _ member => absurd member List.not_mem_nil
  | cons item items ih =>
    rw [List.mapM_cons] at mapped
    obtain ⟨first, isFirst, mapped⟩ := bind_eq_ok mapped
    obtain ⟨later, isLater, mapped⟩ := bind_eq_ok mapped
    cases mapped
    intro other member
    cases List.mem_cons.mp member with
    | inl isHead => exact ⟨first, List.mem_cons_self, isHead ▸ isFirst⟩
    | inr inside =>
      obtain ⟨value, isValue, read⟩ := ih isLater other inside
      exact ⟨value, List.mem_cons_of_mem _ isValue, read⟩

theorem bind_eq_error {ε α β : Type} {first : Except ε α} {next : α → Except ε β} {cause : ε}
    (failure : first >>= next = .error cause) :
    first = .error cause ∨ ∃ value, first = .ok value ∧ next value = .error cause := by
  cases first with
  | error found =>
    cases failure
    exact .inl rfl
  | ok value => exact .inr ⟨value, rfl, failure⟩

theorem exists_of_foldlM_error {ε σ α : Type} {step : σ → α → Except ε σ} {items : List α} {state : σ}
    {cause : ε} (failure : items.foldlM step state = .error cause) :
    ∃ item ∈ items, ∃ before, step before item = .error cause := by
  induction items generalizing state with
  | nil => cases failure
  | cons item items ih =>
    rw [List.foldlM_cons] at failure
    cases bind_eq_error failure with
    | inl here => exact ⟨item, List.mem_cons_self, state, here⟩
    | inr later =>
      obtain ⟨next, _, failure⟩ := later
      obtain ⟨other, member, before, failed⟩ := ih failure
      exact ⟨other, List.mem_cons_of_mem _ member, before, failed⟩

theorem exists_of_mapM_error {ε α β : Type} {read : α → Except ε β} {items : List α} {cause : ε}
    (failure : items.mapM read = .error cause) : ∃ item ∈ items, read item = .error cause := by
  induction items with
  | nil =>
    rw [List.mapM_nil] at failure
    cases failure
  | cons item items ih =>
    rw [List.mapM_cons] at failure
    cases bind_eq_error failure with
    | inl here => exact ⟨item, List.mem_cons_self, here⟩
    | inr later =>
      obtain ⟨value, _, failure⟩ := later
      cases bind_eq_error failure with
      | inl behind =>
        obtain ⟨other, member, failed⟩ := ih behind
        exact ⟨other, List.mem_cons_of_mem _ member, failed⟩
      | inr finished =>
        obtain ⟨_, _, impossible⟩ := finished
        cases impossible

theorem exists_of_forM_error {ε α : Type} {check : α → Except ε Unit} {items : List α} {cause : ε}
    (failure : items.forM check = .error cause) : ∃ item ∈ items, check item = .error cause := by
  induction items with
  | nil => cases failure
  | cons item items ih =>
    rw [List.forM] at failure
    cases bind_eq_error failure with
    | inl here => exact ⟨item, List.mem_cons_self, here⟩
    | inr later =>
      obtain ⟨_, _, failure⟩ := later
      obtain ⟨other, member, failed⟩ := ih failure
      exact ⟨other, List.mem_cons_of_mem _ member, failed⟩

/-- Every step of a fold that succeeds is taken from a state in which the invariant holds. -/
theorem exists_step_of_foldlM {ε σ α : Type} {step : σ → α → Except ε σ} (Holds : σ → Prop)
    {items : List α} {state last : σ} (folded : items.foldlM step state = .ok last)
    (keeps : ∀ state item next, Holds state → step state item = .ok next → Holds next)
    (holds : Holds state) : ∀ item ∈ items, ∃ before after, Holds before ∧ step before item = .ok after := by
  induction items generalizing state with
  | nil => exact fun _ member => absurd member List.not_mem_nil
  | cons item items ih =>
    rw [List.foldlM_cons] at folded
    obtain ⟨next, stepped, later⟩ := bind_eq_ok folded
    intro other member
    cases List.mem_cons.mp member with
    | inl isFirst => exact ⟨state, next, holds, isFirst ▸ stepped⟩
    | inr inside => exact ih later (keeps state item next holds stepped) other inside

theorem exists_ok_of_foldlM {ε σ α : Type} {step : σ → α → Except ε σ} {items : List α} {state last : σ}
    (folded : items.foldlM step state = .ok last) :
    ∀ item ∈ items, ∃ before after, step before item = .ok after := by
  intro item member
  obtain ⟨before, after, _, stepped⟩ :=
    exists_step_of_foldlM (fun _ => True) folded (fun _ _ _ _ _ => trivial) trivial item member
  exact ⟨before, after, stepped⟩

/-! ## Readings -/

theorem Registry.check_eq_ok_iff {registry : Registry} {id context : String} :
    registry.check id context = .ok () ↔ registry.contains id = true := by
  unfold check
  split
  · rename_i known
    simp [known]
  · rename_i unknown
    simp [unknown]

theorem Registry.forM_check_eq_ok_iff {registry : Registry} {ids : List String} {context : String} :
    (ids.forM fun id => registry.check id context) = .ok () ↔ ∀ id ∈ ids, registry.contains id = true := by
  induction ids with
  | nil => simp [List.forM, pure, Except.pure]
  | cons id ids ih =>
    rw [List.forM, List.forall_mem_cons]
    constructor
    · intro checked
      obtain ⟨_, here, later⟩ := bind_eq_ok checked
      exact ⟨check_eq_ok_iff.mp here, ih.mp later⟩
    · rintro ⟨here, later⟩
      rw [check_eq_ok_iff.mpr here]
      exact ih.mpr later

theorem Glob.pattern_of_parse {pattern : String} {glob : Glob} (parsed : parse pattern = .ok glob) :
    glob.pattern = pattern := by
  obtain ⟨tokens, _, isGlob⟩ := bind_eq_ok (show (readTokens .refused .start pattern.toList >>=
    fun tokens => Except.ok ⟨pattern, tokens⟩) = .ok glob from parsed)
  cases isGlob
  rfl

theorem readGlob_eq_ok_iff {pattern : String} {glob : Glob} :
    readGlob pattern = .ok glob ↔ Glob.parse pattern = .ok glob := by
  unfold readGlob
  cases Glob.parse pattern with
  | ok found => simp
  | error fault => simp

theorem readLevel_eq_ok_iff {text context : String} {level : Severity} :
    readLevel text context = .ok level ↔ Severity.parse? text = some level := by
  unfold readLevel
  cases Severity.parse? text with
  | none => simp
  | some found => simp

/-! ## Levels that are given, written or left out -/

/-- The level that counts: the one given, else the one written, else the initial one. -/
inductive SettledLevel : Option Severity → Option String → Severity → Severity → Prop where
  | given {level : Severity} {written : Option String} {initial : Severity} :
      SettledLevel (some level) written initial level
  | written {text : String} {level initial : Severity} :
      Severity.parse? text = some level → SettledLevel none (some text) initial level
  | initial {level : Severity} : SettledLevel none none level level

theorem SettledLevel.unique {given : Option Severity} {written : Option String} {initial first second : Severity}
    (isFirst : SettledLevel given written initial first)
    (isSecond : SettledLevel given written initial second) : first = second := by
  cases isFirst with
  | given =>
    cases isSecond
    rfl
  | written read =>
    cases isSecond with
    | written readAgain => exact Option.some.inj (read.symm.trans readAgain)
  | initial =>
    cases isSecond
    rfl

theorem Config.threshold_eq_ok_iff {given : Option Severity} {written : Option String} {context : String}
    {initial level : Severity} :
    threshold given written context initial = .ok level ↔ SettledLevel given written initial level := by
  constructor
  · intro settled
    unfold threshold at settled
    cases given with
    | some given =>
      cases settled
      exact .given
    | none =>
      cases written with
      | some text => exact .written (readLevel_eq_ok_iff.mp settled)
      | none =>
        cases settled
        exact .initial
  · intro settled
    cases settled with
    | given => rfl
    | written read =>
      rw [threshold]
      exact readLevel_eq_ok_iff.mpr read
    | initial => rfl

/-! ## One rule -/

theorem ParameterKind.accepts_iff (kind : ParameterKind) (value : Json.Value) :
    kind.accepts value = true ↔ ∃ number, value = .ofNat number := by
  constructor
  · intro accepted
    cases kind
    unfold accepts at accepted
    split at accepted
    · rename_i number _
      exact ⟨number, rfl⟩
    · cases accepted
  · rintro ⟨number, rfl⟩
    rfl

namespace RuleSettings

variable {rule : Rule} {settings next : RuleSettings}

theorem setParameter_eq_ok_iff {entry : String × Json.Value} :
    setParameter rule settings entry = .ok next ↔
      (∃ spec ∈ rule.parameters, spec.name = entry.1) ∧ (∃ number, entry.2 = .ofNat number) ∧
        next = { settings with parameters := Table.insert entry.1 entry.2 settings.parameters } := by
  rw [setParameter]
  cases found : rule.parameters.find? fun spec => spec.name = entry.1 with
  | none =>
    have undeclared : ¬ ∃ spec ∈ rule.parameters, spec.name = entry.1 := by
      simpa using found
    simp [undeclared]
  | some spec =>
    have declared : ∃ spec ∈ rule.parameters, spec.name = entry.1 :=
      ⟨spec, List.mem_of_find?_eq_some found, by simpa using List.find?_some found⟩
    simp only [declared, true_and]
    split
    · rename_i accepted
      simp only [(ParameterKind.accepts_iff _ _).mp accepted, true_and, Except.ok.injEq]
      exact eq_comm
    · rename_i refused
      rw [ParameterKind.accepts_iff] at refused
      simp [refused]

/-- A section sets the switch and the severity that it has, and then its parameters one after another. -/
theorem override_eq_ok_iff {entry : RuleOverride} :
    settings.override rule entry = .ok next ↔
      ∃ severity, SettledLevel none entry.severity settings.severity severity ∧
        entry.parameters.foldlM (setParameter rule)
          { settings with enabled := entry.enable.getD settings.enabled, severity } = .ok next := by
  rw [override]
  cases entry.severity with
  | none =>
    constructor
    · exact fun overridden => ⟨settings.severity, .initial, overridden⟩
    · rintro ⟨severity, settled, overridden⟩
      cases settled
      exact overridden
  | some text =>
    constructor
    · intro overridden
      obtain ⟨severity, isSeverity, overridden⟩ := bind_eq_ok overridden
      exact ⟨severity, .written (readLevel_eq_ok_iff.mp isSeverity), overridden⟩
    · rintro ⟨severity, settled, overridden⟩
      cases settled with
      | written read =>
        simp only [readLevel_eq_ok_iff.mpr read]
        exact overridden

end RuleSettings

/-- The settings with the rule switched off. -/
def RuleSettings.off (settings : RuleSettings) : RuleSettings :=
  { settings with enabled := false }

/-! ## Sections, exclusions and ignores -/

namespace Config

variable {registry : Registry} {rules next : Table RuleSettings}

/-- A section is that of a rule of the registry, whose settings it overrides if there are any. -/
theorem applySection_eq_ok {item : String × RuleOverride}
    (applied : applySection registry rules item = .ok next) :
    ∃ rule, registry.get? item.1 = some rule ∧
      ((∃ settings after, Table.find? item.1 rules = some settings ∧
          settings.override rule item.2 = .ok after ∧ next = Table.insert item.1 after rules) ∨
        Table.find? item.1 rules = none ∧ next = rules) := by
  rw [applySection] at applied
  obtain ⟨_, checked, applied⟩ := bind_eq_ok applied
  have known := Registry.check_eq_ok_iff.mp checked
  rw [Registry.contains, Option.isSome_iff_exists] at known
  obtain ⟨rule, got⟩ := known
  refine ⟨rule, got, ?_⟩
  rw [got] at applied
  cases found : Table.find? item.1 rules with
  | none =>
    rw [found] at applied
    cases applied
    exact .inr ⟨rfl, rfl⟩
  | some settings =>
    rw [found] at applied
    obtain ⟨after, overridden, applied⟩ := bind_eq_ok applied
    cases applied
    exact .inl ⟨settings, after, rfl, overridden, rfl⟩

/-- The settings of all rules with one rule switched off. -/
def switchOff (rules : Table RuleSettings) (id : String) : Table RuleSettings :=
  match Table.find? id rules with
  | some settings => Table.insert id settings.off rules
  | none => rules

theorem applyExclusion_of_contains {id : String} (known : registry.contains id = true)
    (rules : Table RuleSettings) : applyExclusion registry rules id = .ok (switchOff rules id) := by
  rw [applyExclusion, Registry.check_eq_ok_iff.mpr known, switchOff]
  cases Table.find? id rules with
  | none => rfl
  | some settings => rfl

theorem applyExclusion_eq_ok_iff {id : String} :
    applyExclusion registry rules id = .ok next ↔ registry.contains id = true ∧ next = switchOff rules id := by
  constructor
  · intro applied
    have known : registry.contains id = true := by
      rw [applyExclusion] at applied
      obtain ⟨_, checked, _⟩ := bind_eq_ok applied
      exact Registry.check_eq_ok_iff.mp checked
    rw [applyExclusion_of_contains known] at applied
    cases applied
    exact ⟨known, rfl⟩
  · rintro ⟨known, rfl⟩
    exact applyExclusion_of_contains known rules

theorem readIgnore_eq_ok_iff {registry : Registry} {entry : String × List String} {ignore : PathIgnore} :
    readIgnore registry entry = .ok ignore ↔
      (∀ id ∈ entry.2, registry.contains id = true) ∧ Glob.parse entry.1 = .ok ignore.glob ∧
        ignore.rules = entry.2 := by
  unfold readIgnore
  constructor
  · intro read
    obtain ⟨_, checked, read⟩ := bind_eq_ok read
    obtain ⟨glob, isGlob, read⟩ := bind_eq_ok read
    cases read
    exact ⟨Registry.forM_check_eq_ok_iff.mp checked, readGlob_eq_ok_iff.mp isGlob, rfl⟩
  · rintro ⟨known, parsed, same⟩
    rw [Registry.forM_check_eq_ok_iff.mpr known, readGlob_eq_ok_iff.mpr parsed, ← same]
    rfl

end Config

/-! ## The whole resolution -/

/-- The results of the stages of a resolution, put together. -/
structure Config.Resolved (registry : Registry) (profile : Profile) (options : Options)
    (config : Config) : Prop where
  rules : ∃ sections,
    profile.rules.foldlM (applySection registry) (initialRules registry profile) = .ok sections ∧
      profile.excludeRules.foldlM (applyExclusion registry) sections = .ok config.rules
  reportThreshold : threshold options.reportThreshold profile.severityReportThreshold
    "severityReportThreshold" .information = .ok config.reportThreshold
  failThreshold : threshold options.failThreshold profile.failThreshold "failThreshold" .error =
    .ok config.failThreshold
  exclude : (profile.exclude ++ options.exclude).mapM readGlob = .ok config.exclude
  perFileIgnores : profile.perFileIgnores.mapM (readIgnore registry) = .ok config.perFileIgnores

theorem Config.resolve_eq_ok_iff {registry : Registry} {profile : Profile} {options : Options}
    {config : Config} :
    resolve registry profile options = .ok config ↔ Resolved registry profile options config := by
  rw [resolve]
  constructor
  · intro resolved
    obtain ⟨sections, isSections, resolved⟩ := bind_eq_ok resolved
    obtain ⟨rules, isRules, resolved⟩ := bind_eq_ok resolved
    obtain ⟨shown, isShown, resolved⟩ := bind_eq_ok resolved
    obtain ⟨failing, isFailing, resolved⟩ := bind_eq_ok resolved
    obtain ⟨exclude, isExclude, resolved⟩ := bind_eq_ok resolved
    obtain ⟨ignores, isIgnores, resolved⟩ := bind_eq_ok resolved
    cases resolved
    exact ⟨⟨sections, isSections, isRules⟩, isShown, isFailing, isExclude, isIgnores⟩
  · rintro ⟨⟨sections, isSections, isRules⟩, isShown, isFailing, isExclude, isIgnores⟩
    simp only [isSections, isRules, isShown, isFailing, isExclude, isIgnores, bind, Except.bind]

end Lintel
