import Lintel.Proofs.Resolution

/-!
# The text behind a fingerprint

Two resolved configurations have the same hashed text exactly if they agree on everything that can change
the result for a source. Settings are compared by what look-ups find in them: how a profile is written, and
the order in which it says things, leave no trace in the text.
-/

set_option autoImplicit false

namespace Lintel

/-- Look-ups that find no settings, or settings that agree in every value. -/
inductive SameSettings : Option RuleSettings → Option RuleSettings → Prop where
  | absent : SameSettings none none
  | present {first second : RuleSettings} : first.enabled = second.enabled →
      first.severity = second.severity →
      (∀ name, Table.find? name first.parameters = Table.find? name second.parameters) →
      SameSettings (some first) (some second)

theorem SameSettings.refl (settings : Option RuleSettings) : SameSettings settings settings := by
  cases settings with
  | none => exact .absent
  | some settings => exact .present rfl rfl fun _ => rfl

/-- Settings in order that agree in every value are equal. -/
theorem SameSettings.eq {first second : Option RuleSettings} (same : SameSettings first second)
    (firstOrdered : ∀ settings, first = some settings → Table.Ascending settings.parameters)
    (secondOrdered : ∀ settings, second = some settings → Table.Ascending settings.parameters) :
    first = second := by
  cases same with
  | absent => rfl
  | @present left right enabled severity found =>
    have parameters := (firstOrdered left rfl).eq_of_find? (secondOrdered right rfl) found
    obtain ⟨_, _, _⟩ := left
    obtain ⟨_, _, _⟩ := right
    simp_all

namespace Config

/-- The patterns of the per-file ignores with their rules. -/
def ignoreLists (config : Config) : List (String × List String) :=
  config.perFileIgnores.map fun ignore => (ignore.glob.pattern, ignore.rules)

/-- Configurations that agree on everything that can change the result for a source. -/
structure SameState (first second : Config) : Prop where
  rules : ∀ id, SameSettings (Table.find? id first.rules) (Table.find? id second.rules)
  exclude : first.exclude.map Glob.pattern = second.exclude.map Glob.pattern
  perFileIgnores : first.ignoreLists = second.ignoreLists
  reportThreshold : first.reportThreshold = second.reportThreshold

theorem view_eq (config : Config) :
    config.view = .object
      [("rules", .object (config.rules.map fun (id, settings) => (id, settingsJson settings))),
        ("exclude", .array ((config.exclude.map Glob.pattern).map .string)),
        ("per_file_ignores", .array (config.ignoreLists.map fun (pattern, ids) =>
          .array [.string pattern, .array (ids.map .string)])),
        ("report_threshold", .string config.reportThreshold.name)] := by
  simp only [view, ignoreLists, List.map_map]
  rfl

theorem exclude_of_view {first second : Config} (same : first.view = second.view) :
    first.exclude.map Glob.pattern = second.exclude.map Glob.pattern := by
  rw [view_eq, view_eq] at same
  simp only [Json.Value.object.injEq, Json.Value.array.injEq, List.cons.injEq, Prod.mk.injEq,
    true_and] at same
  exact List.map_injective_iff.mpr (fun _ _ => Json.Value.string.inj) same.2.1

/-- In order, the settings of all rules are determined by what look-ups find. -/
theorem SameState.rules_eq {first second : Config} {registry other : Registry}
    (firstFitted : Fitted registry first.rules) (secondFitted : Fitted other second.rules)
    (same : first.SameState second) : first.rules = second.rules := by
  have inOrder : ∀ {registry : Registry} {rules : Table RuleSettings}, Fitted registry rules →
      ∀ id settings, Table.find? id rules = some settings → Table.Ascending settings.parameters := by
    intro registry rules fitted id settings found
    obtain ⟨rule, _, _, fits⟩ := fitted.fits _ (Table.mem_of_find? found)
    exact fits.ordered
  refine firstFitted.ordered.eq_of_find? secondFitted.ordered fun id => ?_
  exact (same.rules id).eq (inOrder firstFitted id) (inOrder secondFitted id)

/-- The hashed texts of two configurations are equal exactly if the configurations have the same settings
for every rule, the same excluded patterns and per-file ignores in the same order, and the same report
threshold. They may come from different registries, profiles and options. -/
theorem viewText_eq_iff {rules others : List Rule} {profile otherProfile : Profile}
    {options otherOptions : Options} {first second : Config}
    (firstResolved : resolve (.ofRules rules) profile options = .ok first)
    (secondResolved : resolve (.ofRules others) otherProfile otherOptions = .ok second) :
    first.view.compactText = second.view.compactText ↔ first.SameState second := by
  have firstRegular := regular_of_resolve firstResolved
  have secondRegular := regular_of_resolve secondResolved
  constructor
  · intro sameText
    have sameView := Json.compactText_inj (isWhole_view firstRegular) (isWhole_view secondRegular) sameText
    obtain ⟨sameRules, sameIgnores, sameThreshold⟩ := eq_of_view firstRegular secondRegular sameView
    refine ⟨fun id => ?_, exclude_of_view sameView, ?_, sameThreshold⟩
    · rw [sameRules]
      exact .refl _
    · rw [ignoreLists, ignoreLists, sameIgnores]
  · intro same
    have firstFitted := fitted_of_resolve (Registry.ascending_ofRules rules) firstResolved
    have secondFitted := fitted_of_resolve (Registry.ascending_ofRules others) secondResolved
    rw [view_eq, view_eq, same.rules_eq firstFitted secondFitted, same.exclude, same.perFileIgnores,
      same.reportThreshold]

/-- A profile that spells the defaults out has the text of the empty one, whatever it says about failing.
Two patterns do not have the text of one pattern that holds the quotes and the comma between them. -/
theorem viewText_eq_iff_quoted :
    let spelledOut : Profile :=
      { failThreshold := some "warning"
        rules := [("no-eval", { enable := some true, severity := some " ERROR " })] }
    (∃ plain spelled, resolve .builtin {} {} = .ok plain ∧ resolve .builtin spelledOut {} = .ok spelled ∧
      plain.view.compactText = spelled.view.compactText) ∧
    ∃ two one, resolve .builtin { exclude := ["a", "b"] } {} = .ok two ∧
      resolve .builtin { exclude := ["a\",\"b"] } {} = .ok one ∧
      two.view.compactText ≠ one.view.compactText := by
  intro spelledOut
  have resolves : ∀ patterns, (resolve .builtin { exclude := patterns } {}).isOk = true →
      ∃ config, resolve .builtin { exclude := patterns } {} = .ok config := by
    intro patterns isOk
    cases resolved : resolve .builtin { exclude := patterns } {} with
    | error cause =>
      rw [resolved] at isOk
      cases isOk
    | ok config => exact ⟨config, rfl⟩
  constructor
  · let plain : Config := ⟨initialRules .builtin {}, [], [], .information, .error⟩
    let spelled : Config := ⟨initialRules .builtin {}, [], [], .information, .warning⟩
    have plainResolved : resolve .builtin {} {} = .ok plain := rfl
    have spelledResolved : resolve .builtin spelledOut {} = .ok spelled := rfl
    have same : plain.SameState spelled := ⟨fun _ => .refl _, rfl, rfl, rfl⟩
    exact ⟨plain, spelled, plainResolved, spelledResolved,
      (viewText_eq_iff plainResolved spelledResolved).mpr same⟩
  · obtain ⟨two, twoResolved⟩ := resolves ["a", "b"] (by decide +kernel)
    obtain ⟨one, oneResolved⟩ := resolves ["a\",\"b"] (by decide +kernel)
    refine ⟨two, one, twoResolved, oneResolved, fun sameText => ?_⟩
    have samePatterns := ((viewText_eq_iff twoResolved oneResolved).mp sameText).exclude
    rw [exclude_of_resolve twoResolved, exclude_of_resolve oneResolved] at samePatterns
    exact absurd samePatterns (by decide)

end Config

end Lintel
