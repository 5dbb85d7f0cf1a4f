import Lintel.Proofs.JsonText
import Lintel.Proofs.Stages
import Lintel.Proofs.Table

/-!
# What the view of a configuration shows

The text that is hashed for a configuration determines everything that can change the result for a
source: the settings of the rules, the per-file ignores and the report threshold. This rests on how
configurations come about. Their parameters are whole numbers, and their globs are readings of the
patterns that the view shows.
-/

set_option autoImplicit false

namespace Lintel

/-! ## How configurations come about -/

/-- Settings whose parameters are whole numbers. -/
def RuleSettings.HasNumbers (settings : RuleSettings) : Prop :=
  ∀ entry ∈ settings.parameters, ∃ value, entry.2 = .ofNat value

/-- What every configuration that was resolved is like. -/
structure Config.Regular (config : Config) : Prop where
  numbers : ∀ entry ∈ config.rules, entry.2.HasNumbers
  readings : ∀ ignore ∈ config.perFileIgnores, Glob.parse ignore.glob.pattern = .ok ignore.glob

namespace RuleSettings

theorem hasNumbers_initial (includeDefaultRules : Bool) (rule : Rule) :
    (initial includeDefaultRules rule).HasNumbers := by
  intro entry member
  obtain ⟨spec, _, rfl⟩ := List.mem_map.mp (Table.mem_of_mem_ofList member)
  exact ⟨spec.initial, rfl⟩

theorem setParameter_hasNumbers {rule : Rule} {settings next : RuleSettings}
    {entry : String × Json.Value} (numbers : settings.HasNumbers)
    (set : setParameter rule settings entry = .ok next) : next.HasNumbers := by
  obtain ⟨_, isNumber, rfl⟩ := setParameter_eq_ok_iff.mp set
  intro other member
  cases Table.mem_insert member with
  | inl isSet => exact isSet ▸ isNumber
  | inr earlier => exact numbers other earlier

theorem override_hasNumbers {rule : Rule} {settings next : RuleSettings} {entry : RuleOverride}
    (numbers : settings.HasNumbers) (overridden : settings.override rule entry = .ok next) :
    next.HasNumbers := by
  obtain ⟨severity, _, folded⟩ := override_eq_ok_iff.mp overridden
  exact foldlM_invariant HasNumbers folded (fun _ _ _ => setParameter_hasNumbers) numbers

end RuleSettings

namespace Config

/-- Every set of parameters in a table of settings consists of whole numbers. -/
private def AllNumbers (rules : Table RuleSettings) : Prop := ∀ entry ∈ rules, entry.2.HasNumbers

private theorem AllNumbers.insert {rules : Table RuleSettings} {id : String} {settings : RuleSettings}
    (numbers : AllNumbers rules) (here : settings.HasNumbers) :
    AllNumbers (Table.insert id settings rules) := by
  intro entry member
  rcases Table.mem_insert member with rfl | earlier
  · exact here
  · exact numbers entry earlier

private theorem applySection_numbers {registry : Registry} {rules next : Table RuleSettings}
    {entry : String × RuleOverride} (numbers : AllNumbers rules)
    (applied : applySection registry rules entry = .ok next) : AllNumbers next := by
  obtain ⟨rule, _, applied⟩ := applySection_eq_ok applied
  cases applied with
  | inl overridden =>
    obtain ⟨settings, after, found, isAfter, rfl⟩ := overridden
    exact numbers.insert (RuleSettings.override_hasNumbers (numbers _ (Table.mem_of_find? found)) isAfter)
  | inr untouched =>
    obtain ⟨_, rfl⟩ := untouched
    exact numbers

private theorem applyExclusion_numbers {registry : Registry} {rules next : Table RuleSettings} {id : String}
    (numbers : AllNumbers rules) (applied : applyExclusion registry rules id = .ok next) :
    AllNumbers next := by
  obtain ⟨_, rfl⟩ := applyExclusion_eq_ok_iff.mp applied
  rw [switchOff]
  cases found : Table.find? id rules with
  | none => exact numbers
  | some settings => exact numbers.insert (numbers _ (Table.mem_of_find? found))

theorem regular_of_resolve {registry : Registry} {profile : Profile} {options : Options} {config : Config}
    (resolved : resolve registry profile options = .ok config) : config.Regular := by
  obtain ⟨⟨sections, isSections, isRules⟩, _, _, _, isIgnores⟩ := resolve_eq_ok_iff.mp resolved
  have start : AllNumbers (initialRules registry profile) := by
    intro entry member
    obtain ⟨rule, _, rfl⟩ := List.mem_map.mp member
    exact RuleSettings.hasNumbers_initial _ rule
  have numbers := foldlM_invariant AllNumbers isSections (fun _ _ _ => applySection_numbers) start
  refine ⟨foldlM_invariant AllNumbers isRules (fun _ _ _ => applyExclusion_numbers) numbers,
    fun ignore member => ?_⟩
  obtain ⟨_, _, read⟩ := (mem_mapM_iff isIgnores ignore).mp member
  obtain ⟨_, parsed, _⟩ := readIgnore_eq_ok_iff.mp read
  rw [Glob.pattern_of_parse parsed]
  exact parsed

/-! ## What the view determines -/

private theorem isWhole_settingsJson {settings : RuleSettings} (numbers : settings.HasNumbers) :
    Json.IsWhole (settingsJson settings) := by
  have parameters : Json.HaveWhole settings.parameters := by
    refine Json.haveWhole_of_forall fun entry member => ?_
    obtain ⟨value, isNumber⟩ := numbers entry member
    rw [isNumber]
    trivial
  exact ⟨trivial, trivial, parameters, trivial⟩

theorem isWhole_view {config : Config} (regular : config.Regular) : Json.IsWhole config.view := by
  refine ⟨Json.haveWhole_of_forall ?_, Json.areWhole_of_forall ?_, Json.areWhole_of_forall ?_, trivial,
    trivial⟩
  · intro member isMember
    obtain ⟨entry, inside, rfl⟩ := List.mem_map.mp isMember
    exact isWhole_settingsJson (regular.numbers entry inside)
  · intro item isItem
    obtain ⟨glob, _, rfl⟩ := List.mem_map.mp isItem
    trivial
  · intro item isItem
    obtain ⟨ignore, _, rfl⟩ := List.mem_map.mp isItem
    refine ⟨trivial, Json.areWhole_of_forall ?_, trivial⟩
    intro rule isRule
    obtain ⟨id, _, rfl⟩ := List.mem_map.mp isRule
    trivial

private theorem severity_name_inj {first second : Severity} (same : first.name = second.name) :
    first = second := by
  cases first <;> cases second <;> first | rfl | simp [Severity.name] at same

private theorem settingsJson_inj {first second : RuleSettings}
    (same : settingsJson first = settingsJson second) : first = second := by
  obtain ⟨firstEnabled, firstSeverity, firstParameters⟩ := first
  obtain ⟨secondEnabled, secondSeverity, secondParameters⟩ := second
  simp only [settingsJson, Json.Value.object.injEq, List.cons.injEq, Prod.mk.injEq, true_and, and_true,
    Json.Value.bool.injEq, Json.Value.string.injEq] at same
  obtain ⟨rfl, level, rfl⟩ := same
  rw [severity_name_inj level]

private theorem eq_of_map_eq {α β : Type} {image : α → β} {first second : List α}
    (tells : ∀ a ∈ first, ∀ b ∈ second, image a = image b → a = b)
    (same : first.map image = second.map image) : first = second := by
  induction first generalizing second with
  | nil => cases second with
    | nil => rfl
    | cons b second => cases same
  | cons a first ih =>
    cases second with
    | nil => cases same
    | cons b second =>
      obtain ⟨here, later⟩ := List.cons.inj same
      rw [tells a List.mem_cons_self b List.mem_cons_self here, ih (fun x inside y other =>
        tells x (List.mem_cons_of_mem _ inside) y (List.mem_cons_of_mem _ other)) later]

/-- Configurations with one view agree on everything that can change the result for a source. -/
theorem eq_of_view {first second : Config} (firstRegular : first.Regular) (secondRegular : second.Regular)
    (same : first.view = second.view) :
    first.rules = second.rules ∧ first.perFileIgnores = second.perFileIgnores ∧
      first.reportThreshold = second.reportThreshold := by
  simp only [view, Json.Value.object.injEq, Json.Value.array.injEq, Json.Value.string.injEq,
    List.cons.injEq, Prod.mk.injEq, true_and, and_true] at same
  obtain ⟨rules, _, ignores, level⟩ := same
  refine ⟨eq_of_map_eq ?_ rules, eq_of_map_eq ?_ ignores, severity_name_inj level⟩
  · rintro ⟨id, settings⟩ _ ⟨other, others⟩ _ equal
    simp only [Prod.mk.injEq] at equal
    obtain ⟨rfl, settingsEqual⟩ := equal
    rw [settingsJson_inj settingsEqual]
  · rintro ⟨glob, ids⟩ inside ⟨other, others⟩ otherInside equal
    simp only [Json.Value.array.injEq, List.cons.injEq, Json.Value.string.injEq, and_true] at equal
    obtain ⟨pattern, rules⟩ := equal
    have sameGlob : glob = other := by
      have reading := firstRegular.readings _ inside
      rw [pattern, secondRegular.readings _ otherInside] at reading
      exact (Except.ok.inj reading).symm
    have sameRules : ids = others := eq_of_map_eq (fun _ _ _ _ => Json.Value.string.inj) rules
    rw [sameGlob, sameRules]

/-- The hashed text of a configuration determines everything that can change the result for a source. -/
theorem eq_of_viewText {first second : Config} (firstRegular : first.Regular)
    (secondRegular : second.Regular) (same : first.view.compactText = second.view.compactText) :
    first.rules = second.rules ∧ first.perFileIgnores = second.perFileIgnores ∧
      first.reportThreshold = second.reportThreshold :=
  eq_of_view firstRegular secondRegular
    (Json.compactText_inj (isWhole_view firstRegular) (isWhole_view secondRegular) same)

end Config

end Lintel
