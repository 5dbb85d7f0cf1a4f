import Lintel.Proofs.Settings

/-!
# Why a configuration is refused

A profile and the options of an invocation are refused exactly if something is wrong with them, and the error
names something that is. A threshold that is given on invocation hides the one of the profile, whose text is
then not looked at.
-/

set_option autoImplicit false

namespace Lintel

/-! ## Defects -/

namespace Config

/-- What is wrong with a profile and options, with the error that says so. -/
inductive Defect (registry : Registry) (profile : Profile) (options : Options) : ConfigError → Prop where
  | unknownSection {id : String} {entry : RuleOverride} : (id, entry) ∈ profile.rules →
      registry.contains id = false → Defect registry profile options (.unknownRule id "rules")
  | unknownExclusion {id : String} : id ∈ profile.excludeRules → registry.contains id = false →
      Defect registry profile options (.unknownRule id "excludeRules")
  | unknownIgnore {pattern id : String} {ids : List String} : (pattern, ids) ∈ profile.perFileIgnores →
      id ∈ ids → registry.contains id = false →
      Defect registry profile options (.unknownRule id s!"perFileIgnores.{pattern}")
  | ruleSeverity {id text : String} {entry : RuleOverride} : (id, entry) ∈ profile.rules →
      entry.severity = some text → Severity.parse? text = none →
      Defect registry profile options (.invalidSeverity text s!"rules.{id}.severity")
  | reportThreshold {text : String} : profile.severityReportThreshold = some text →
      Severity.parse? text = none →
      Defect registry profile options (.invalidSeverity text "severityReportThreshold")
  | failThreshold {text : String} : profile.failThreshold = some text → Severity.parse? text = none →
      Defect registry profile options (.invalidSeverity text "failThreshold")
  | unknownParameter {rule : Rule} {entry : RuleOverride} {name : String} {value : Json.Value} :
      rule ∈ registry.rules → (rule.id, entry) ∈ profile.rules → (name, value) ∈ entry.parameters →
      (∀ spec ∈ rule.parameters, spec.name ≠ name) →
      Defect registry profile options (.unknownParameter rule.id name)
  | invalidParameter {rule : Rule} {entry : RuleOverride} {name : String} {value : Json.Value} :
      rule ∈ registry.rules → (rule.id, entry) ∈ profile.rules → (name, value) ∈ entry.parameters →
      (∀ number, value ≠ .ofNat number) →
      Defect registry profile options (.invalidParameter rule.id name "non-negative integer")
  | excludedPattern {pattern : String} {fault : Glob.Fault} : pattern ∈ profile.exclude ++ options.exclude →
      Glob.parse pattern = .error fault → Defect registry profile options (.invalidGlob pattern fault)
  | ignoredPattern {pattern : String} {ids : List String} {fault : Glob.Fault} :
      (pattern, ids) ∈ profile.perFileIgnores → Glob.parse pattern = .error fault →
      Defect registry profile options (.invalidGlob pattern fault)

/-- Errors about a threshold that the options give. The threshold of the profile is then not read. -/
def Overlooked (options : Options) : ConfigError → Prop
  | .invalidSeverity _ context =>
    context = "severityReportThreshold" ∧ options.reportThreshold ≠ none ∨
      context = "failThreshold" ∧ options.failThreshold ≠ none
  | _ => False

end Config

/-! ## What the error of a stage tells -/

variable {registry : Registry} {profile : Profile} {options : Options} {cause : ConfigError}

theorem readLevel_eq_error {text context : String} (failed : readLevel text context = .error cause) :
    Severity.parse? text = none ∧ cause = .invalidSeverity text context := by
  unfold readLevel at failed
  cases parsed : Severity.parse? text with
  | none =>
    rw [parsed] at failed
    cases failed
    exact ⟨rfl, rfl⟩
  | some level =>
    rw [parsed] at failed
    cases failed

theorem readGlob_eq_error {pattern : String} (failed : readGlob pattern = .error cause) :
    ∃ fault, Glob.parse pattern = .error fault ∧ cause = .invalidGlob pattern fault := by
  unfold readGlob at failed
  cases parsed : Glob.parse pattern with
  | ok glob =>
    rw [parsed] at failed
    cases failed
  | error fault =>
    rw [parsed] at failed
    cases failed
    exact ⟨fault, rfl, rfl⟩

theorem Registry.check_eq_error {id context : String} (failed : registry.check id context = .error cause) :
    registry.contains id = false ∧ cause = .unknownRule id context := by
  unfold check at failed
  split at failed
  · cases failed
  · rename_i unknown
    cases failed
    exact ⟨Bool.eq_false_iff.mpr unknown, rfl⟩

namespace RuleSettings

variable {rule : Rule} {settings after : RuleSettings} {entry : RuleOverride}

theorem setParameter_eq_error {parameter : String × Json.Value}
    (failed : setParameter rule settings parameter = .error cause) :
    (∀ spec ∈ rule.parameters, spec.name ≠ parameter.1) ∧ cause = .unknownParameter rule.id parameter.1 ∨
      (∀ number, parameter.2 ≠ .ofNat number) ∧
        cause = .invalidParameter rule.id parameter.1 "non-negative integer" := by
  rw [setParameter] at failed
  split at failed
  · rename_i missing
    cases failed
    left
    exact ⟨by simpa using missing, rfl⟩
  · rename_i spec _
    split at failed
    · cases failed
    · rename_i refused
      rw [ParameterKind.accepts_iff, not_exists] at refused
      cases failed
      right
      exact ⟨refused, by cases spec.kind; rfl⟩

theorem override_eq_error (failed : settings.override rule entry = .error cause) :
    (∃ text, entry.severity = some text ∧ Severity.parse? text = none ∧
      cause = .invalidSeverity text s!"rules.{rule.id}.severity") ∨
    ∃ parameter ∈ entry.parameters, ∃ before, setParameter rule before parameter = .error cause := by
  rw [override] at failed
  split at failed
  · exact .inr (exists_of_foldlM_error failed)
  · rename_i text written
    cases bind_eq_error failed with
    | inl atSeverity =>
      obtain ⟨unread, named⟩ := readLevel_eq_error atSeverity
      exact .inl ⟨text, written, unread, named⟩
    | inr atParameters =>
      obtain ⟨_, _, failed⟩ := atParameters
      exact .inr (exists_of_foldlM_error failed)

/-- A section that is applied has a level that can be read and parameters that the rule has. -/
theorem sound_of_override (overridden : settings.override rule entry = .ok after) :
    (∀ text, entry.severity = some text → Severity.parse? text ≠ none) ∧
      ∀ parameter ∈ entry.parameters, (∃ spec ∈ rule.parameters, spec.name = parameter.1) ∧
        ∃ number, parameter.2 = .ofNat number := by
  obtain ⟨severity, settled, folded⟩ := override_eq_ok_iff.mp overridden
  constructor
  · intro text written
    rw [written] at settled
    cases settled with
    | written read =>
      rw [read]
      exact Option.some_ne_none severity
  · intro parameter member
    obtain ⟨_, _, isSet⟩ := exists_ok_of_foldlM folded parameter member
    obtain ⟨declared, isNumber, _⟩ := setParameter_eq_ok_iff.mp isSet
    exact ⟨declared, isNumber⟩

end RuleSettings

namespace Config

theorem threshold_eq_error {given : Option Severity} {written : Option String} {context : String}
    {initial : Severity} (failed : threshold given written context initial = .error cause) :
    given = none ∧ ∃ text, written = some text ∧ Severity.parse? text = none ∧
      cause = .invalidSeverity text context := by
  unfold threshold at failed
  cases given with
  | some level => cases failed
  | none =>
    cases written with
    | none => cases failed
    | some text =>
      obtain ⟨unread, named⟩ := readLevel_eq_error failed
      exact ⟨rfl, text, rfl, unread, named⟩

/-- The severity of a section is not taken for a threshold. -/
theorem not_overlooked_ruleSeverity {id text : String} :
    ¬ Overlooked options (.invalidSeverity text s!"rules.{id}.severity") := by
  have start : (s!"rules.{id}.severity").toList.head? = some 'r' := by
    simp [toString]
  rintro (⟨same, _⟩ | ⟨same, _⟩)
  · rw [same] at start
    cases start
  · rw [same] at start
    cases start

theorem defect_of_applySection {rules : Table RuleSettings} {item : String × RuleOverride}
    (member : item ∈ profile.rules) (failed : applySection registry rules item = .error cause) :
    Defect registry profile options cause ∧ ¬ Overlooked options cause := by
  rw [applySection] at failed
  obtain ⟨id, entry⟩ := item
  cases bind_eq_error failed with
  | inl unchecked =>
    obtain ⟨unknown, rfl⟩ := Registry.check_eq_error unchecked
    exact ⟨.unknownSection member unknown, not_false⟩
  | inr checked =>
    obtain ⟨_, _, failed⟩ := checked
    split at failed
    · rename_i rule settings got _
      obtain ⟨registered, rfl⟩ := Registry.of_get? got
      cases bind_eq_error failed with
      | inr inserted =>
        obtain ⟨_, _, impossible⟩ := inserted
        cases impossible
      | inl notOverridden =>
        cases RuleSettings.override_eq_error notOverridden with
        | inl atSeverity =>
          obtain ⟨text, written, unread, rfl⟩ := atSeverity
          exact ⟨.ruleSeverity member written unread, not_overlooked_ruleSeverity⟩
        | inr atParameter =>
          obtain ⟨⟨name, value⟩, isParameter, _, notSet⟩ := atParameter
          cases RuleSettings.setParameter_eq_error notSet with
          | inl undeclared =>
            obtain ⟨undeclared, rfl⟩ := undeclared
            exact ⟨.unknownParameter registered member isParameter undeclared, not_false⟩
          | inr noNumber =>
            obtain ⟨noNumber, rfl⟩ := noNumber
            exact ⟨.invalidParameter registered member isParameter noNumber, not_false⟩
    · cases failed

theorem defect_of_applyExclusion {rules : Table RuleSettings} {id : String} (member : id ∈ profile.excludeRules)
    (failed : applyExclusion registry rules id = .error cause) :
    Defect registry profile options cause ∧ ¬ Overlooked options cause := by
  rw [applyExclusion] at failed
  cases bind_eq_error failed with
  | inl unchecked =>
    obtain ⟨unknown, rfl⟩ := Registry.check_eq_error unchecked
    exact ⟨.unknownExclusion member unknown, not_false⟩
  | inr checked =>
    obtain ⟨_, _, failed⟩ := checked
    split at failed
    · cases failed
    · cases failed

theorem defect_of_readIgnore {entry : String × List String} (member : entry ∈ profile.perFileIgnores)
    (failed : readIgnore registry entry = .error cause) :
    Defect registry profile options cause ∧ ¬ Overlooked options cause := by
  rw [readIgnore] at failed
  cases bind_eq_error failed with
  | inl unchecked =>
    obtain ⟨id, listed, unchecked⟩ := exists_of_forM_error unchecked
    obtain ⟨unknown, rfl⟩ := Registry.check_eq_error unchecked
    exact ⟨.unknownIgnore member listed unknown, not_false⟩
  | inr checked =>
    obtain ⟨_, _, failed⟩ := checked
    cases bind_eq_error failed with
    | inl unread =>
      obtain ⟨fault, unparsed, rfl⟩ := readGlob_eq_error unread
      exact ⟨.ignoredPattern member unparsed, not_false⟩
    | inr read =>
      obtain ⟨_, _, impossible⟩ := read
      cases impossible

/-- The error of a resolution names a defect that counts. The stages come in the order of the resolution. -/
theorem defect_of_resolve (failed : resolve registry profile options = .error cause) :
    Defect registry profile options cause ∧ ¬ Overlooked options cause := by
  rw [resolve] at failed
  rcases bind_eq_error failed with atSections | ⟨_, _, failed⟩
  · obtain ⟨entry, member, _, failed⟩ := exists_of_foldlM_error atSections
    exact defect_of_applySection member failed
  rcases bind_eq_error failed with atExclusions | ⟨_, _, failed⟩
  · obtain ⟨id, member, _, failed⟩ := exists_of_foldlM_error atExclusions
    exact defect_of_applyExclusion member failed
  rcases bind_eq_error failed with atReport | ⟨_, _, failed⟩
  · obtain ⟨absent, text, written, unread, rfl⟩ := threshold_eq_error atReport
    refine ⟨.reportThreshold written unread, ?_⟩
    simp [Overlooked, absent]
  rcases bind_eq_error failed with atFail | ⟨_, _, failed⟩
  · obtain ⟨absent, text, written, unread, rfl⟩ := threshold_eq_error atFail
    refine ⟨.failThreshold written unread, ?_⟩
    simp [Overlooked, absent]
  rcases bind_eq_error failed with atExclude | ⟨_, _, failed⟩
  · obtain ⟨pattern, member, failed⟩ := exists_of_mapM_error atExclude
    obtain ⟨fault, unparsed, rfl⟩ := readGlob_eq_error failed
    exact ⟨.excludedPattern member unparsed, not_false⟩
  rcases bind_eq_error failed with atIgnores | ⟨_, _, impossible⟩
  · obtain ⟨entry, member, failed⟩ := exists_of_mapM_error atIgnores
    exact defect_of_readIgnore member failed
  · cases impossible

/-! ## What is accepted -/

/-- Every registered rule has settings. -/
def Settled (registry : Registry) (rules : Table RuleSettings) : Prop :=
  ∀ id rule, registry.get? id = some rule → ∃ settings, Table.find? id rules = some settings

theorem settled_initialRules (registry : Registry) (profile : Profile) :
    Settled registry (initialRules registry profile) := by
  intro id rule got
  rw [find?_initialRules, got]
  exact ⟨_, rfl⟩

theorem Settled.applySection {rules next : Table RuleSettings} {item : String × RuleOverride}
    (settled : Settled registry rules) (applied : applySection registry rules item = .ok next) :
    Settled registry next := by
  intro id rule got
  obtain ⟨settings, found⟩ := settled id rule got
  obtain ⟨after, isAfter, _⟩ := find?_applySection got found applied
  exact ⟨after, isAfter⟩

variable {config : Config}

/-- Every section of a profile that is accepted was applied to its rule. -/
theorem overridden_of_resolve (resolved : resolve registry profile options = .ok config) {id : String}
    {entry : RuleOverride} (member : (id, entry) ∈ profile.rules) :
    ∃ rule, registry.get? id = some rule ∧
      ∃ before after : RuleSettings, before.override rule entry = .ok after := by
  obtain ⟨sections, isSections, _⟩ := (resolve_eq_ok_iff.mp resolved).rules
  -- a rule without settings would have its section passed over, so the fold carries that all have them
  obtain ⟨before, after, settled, applied⟩ := exists_step_of_foldlM (Settled registry) isSections
    (fun _ _ _ settled applied => settled.applySection applied) (settled_initialRules registry profile)
    (id, entry) member
  obtain ⟨rule, got, _⟩ := applySection_eq_ok applied
  obtain ⟨settings, found⟩ := settled id rule got
  obtain ⟨overridden, _, isOverridden⟩ := find?_applySection got found applied
  rw [if_pos rfl] at isOverridden
  exact ⟨rule, got, settings, overridden, isOverridden⟩

theorem given_of_threshold {given : Option Severity} {text context : String} {initial level : Severity}
    (settled : threshold given (some text) context initial = .ok level) (unread : Severity.parse? text = none) :
    given ≠ none := by
  cases threshold_eq_ok_iff.mp settled with
  | given => exact Option.some_ne_none level
  | written read =>
    rw [unread] at read
    cases read

/-- A profile that is accepted has no defect but those that are overlooked. -/
theorem overlooked_of_resolve (ascending : Registry.Ascending registry.rules)
    (resolved : resolve registry profile options = .ok config) (defect : Defect registry profile options cause) :
    Overlooked options cause := by
  have stages := resolve_eq_ok_iff.mp resolved
  obtain ⟨_, _, isRules⟩ := stages.rules
  cases defect with
  | unknownSection member unknown =>
    obtain ⟨rule, got, _⟩ := overridden_of_resolve resolved member
    rw [Registry.contains, got] at unknown
    cases unknown
  | unknownExclusion member unknown =>
    rw [contains_of_foldlM_applyExclusion isRules _ member] at unknown
    cases unknown
  | unknownIgnore member listed unknown =>
    obtain ⟨_, _, read⟩ := exists_of_mapM stages.perFileIgnores _ member
    rw [(readIgnore_eq_ok_iff.mp read).1 _ listed] at unknown
    cases unknown
  | ruleSeverity member written unread =>
    obtain ⟨_, _, _, _, overridden⟩ := overridden_of_resolve resolved member
    exact absurd unread ((RuleSettings.sound_of_override overridden).1 _ written)
  | reportThreshold written unread =>
    exact .inl ⟨rfl, given_of_threshold (written ▸ stages.reportThreshold) unread⟩
  | failThreshold written unread =>
    exact .inr ⟨rfl, given_of_threshold (written ▸ stages.failThreshold) unread⟩
  | unknownParameter registered member isParameter undeclared =>
    obtain ⟨rule, got, _, _, overridden⟩ := overridden_of_resolve resolved member
    rw [Registry.get?_of_mem ascending registered] at got
    cases got
    obtain ⟨⟨spec, declared, sameName⟩, _⟩ := (RuleSettings.sound_of_override overridden).2 _ isParameter
    exact absurd sameName (undeclared spec declared)
  | invalidParameter registered member isParameter noNumber =>
    obtain ⟨_, _, _, _, overridden⟩ := overridden_of_resolve resolved member
    obtain ⟨_, number, isNumber⟩ := (RuleSettings.sound_of_override overridden).2 _ isParameter
    exact absurd isNumber (noNumber number)
  | excludedPattern member unparsed =>
    obtain ⟨_, _, read⟩ := exists_of_mapM stages.exclude _ member
    rw [readGlob_eq_ok_iff, unparsed] at read
    cases read
  | ignoredPattern member unparsed =>
    obtain ⟨_, _, read⟩ := exists_of_mapM stages.perFileIgnores _ member
    have parsed := (readIgnore_eq_ok_iff.mp read).2.1
    rw [unparsed] at parsed
    cases parsed

/-- A profile and options are refused exactly for a defect, and the error names one. Only a threshold of the
profile is not looked at where the options give that threshold. -/
theorem resolve_refuses_defects (rules : List Rule) (profile : Profile) (options : Options) :
    ((∃ cause, resolve (.ofRules rules) profile options = .error cause) ↔
      ∃ cause, Defect (.ofRules rules) profile options cause ∧ ¬ Overlooked options cause) ∧
    (∀ cause, resolve (.ofRules rules) profile options = .error cause →
      Defect (.ofRules rules) profile options cause) ∧
    (options.reportThreshold = none → options.failThreshold = none →
      ((∃ cause, resolve (.ofRules rules) profile options = .error cause) ↔
        ∃ cause, Defect (.ofRules rules) profile options cause)) := by
  have refused : (∃ cause, resolve (.ofRules rules) profile options = .error cause) ↔
      ∃ cause, Defect (.ofRules rules) profile options cause ∧ ¬ Overlooked options cause := by
    constructor
    · rintro ⟨cause, failed⟩
      exact ⟨cause, defect_of_resolve failed⟩
    · rintro ⟨cause, defect, counts⟩
      cases resolved : resolve (.ofRules rules) profile options with
      | error found => exact ⟨found, rfl⟩
      | ok config =>
        exact absurd (overlooked_of_resolve (Registry.ascending_ofRules rules) resolved defect) counts
  refine ⟨refused, fun cause failed => (defect_of_resolve failed).1, fun noReport noFail => ?_⟩
  have counts : ∀ cause, ¬ Overlooked options cause := by
    intro cause
    cases cause with
    | invalidSeverity text context => simp [Overlooked, noReport, noFail]
    | _ => exact not_false
  simp only [refused, counts, not_false_eq_true, and_true]

/-- A rule that does not exist is refused whatever the options give, and a level that does not exist is refused
if they give none. -/
theorem resolve_refuses_defects_builtin :
    (∃ cause, resolve .builtin { excludeRules := ["no-such-rule"], failThreshold := some "loud" }
      { failThreshold := some .warning } = .error cause) ∧
    ∃ cause, resolve .builtin { failThreshold := some "loud" } {} = .error cause := by
  have unknown : Registry.builtin.contains "no-such-rule" = false := by decide
  have unread : Severity.parse? "loud" = none := by decide
  constructor
  · obtain ⟨refused, _⟩ := resolve_refuses_defects Registry.builtinRules
      { excludeRules := ["no-such-rule"], failThreshold := some "loud" } { failThreshold := some .warning }
    exact refused.mpr ⟨_, .unknownExclusion List.mem_cons_self unknown, not_false⟩
  · obtain ⟨_, _, refused⟩ := resolve_refuses_defects Registry.builtinRules { failThreshold := some "loud" } {}
    exact (refused rfl rfl).mpr ⟨_, .failThreshold rfl unread⟩

/-- A threshold that the options give hides that the one of the profile is no level. -/
theorem accepts_hidden_threshold :
    ¬ ((∃ cause, resolve .builtin { severityReportThreshold := some "loud" }
          { reportThreshold := some .error } = .error cause) ↔
        ∃ cause, Defect .builtin { severityReportThreshold := some "loud" }
          { reportThreshold := some .error } cause) := by
  intro claimed
  have unread : Severity.parse? "loud" = none := by decide
  obtain ⟨cause, refused⟩ := claimed.mpr ⟨_, .reportThreshold rfl unread⟩
  cases refused

end Config

end Lintel
