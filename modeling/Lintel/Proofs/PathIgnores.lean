import Lintel.Proofs.Resolution

/-!
# Ignoring rules at some paths

A profile can switch rules off altogether, or only at the paths that a pattern matches. The first is done
when the configuration is resolved, the second when the routes of a source are chosen. For a source at a
path that the pattern matches both give the same result, and for any other source the pattern changes
nothing.
-/

set_option autoImplicit false

namespace Lintel

/-- The profile with rules that are off at the paths of a pattern. -/
def Profile.ignoring (profile : Profile) (pattern : String) (ids : List String) : Profile :=
  { profile with perFileIgnores := Table.insert pattern ids profile.perFileIgnores }

/-- The profile with rules that are off everywhere. -/
def Profile.excluding (profile : Profile) (ids : List String) : Profile :=
  { profile with excludeRules := profile.excludeRules ++ ids }

/-! ## The two configurations -/

namespace Config

variable {registry : Registry} {profile : Profile} {options : Options} {config : Config} {ids : List String}

/-- Excluding further rules switches them off and changes nothing else. -/
theorem resolve_excluding (resolved : resolve registry profile options = .ok config)
    (registered : ∀ id ∈ ids, registry.contains id = true) :
    resolve registry (profile.excluding ids) options =
      .ok { config with rules := ids.foldl switchOff config.rules } := by
  obtain ⟨⟨sections, isSections, isRules⟩, shown, failing, exclude, ignores⟩ := resolve_eq_ok_iff.mp resolved
  refine resolve_eq_ok_iff.mpr ⟨⟨sections, isSections, ?_⟩, shown, failing, exclude, ignores⟩
  rw [Profile.excluding, List.foldlM_append, isRules]
  exact foldlM_applyExclusion registered config.rules

/-- A new pattern adds one list of ignored rules, somewhere among the others. -/
theorem resolve_ignoring (resolved : resolve registry profile options = .ok config)
    (registered : ∀ id ∈ ids, registry.contains id = true) {pattern : String} {glob : Glob}
    (valid : Glob.parse pattern = .ok glob) (absent : Table.find? pattern profile.perFileIgnores = none) :
    ∃ before after, config.perFileIgnores = before ++ after ∧
      resolve registry (profile.ignoring pattern ids) options =
        .ok { config with perFileIgnores := before ++ ⟨glob, ids⟩ :: after } := by
  obtain ⟨rules, shown, failing, exclude, ignores⟩ := resolve_eq_ok_iff.mp resolved
  obtain ⟨before, after, isSplit, isInserted⟩ := Table.insert_of_absent absent ids
  rw [isSplit, List.mapM_append] at ignores
  obtain ⟨earlier, isEarlier, ignores⟩ := bind_eq_ok ignores
  obtain ⟨later, isLater, ignores⟩ := bind_eq_ok ignores
  have together : config.perFileIgnores = earlier ++ later := (Except.ok.inj ignores).symm
  have isAdded : readIgnore registry (pattern, ids) = .ok ⟨glob, ids⟩ :=
    readIgnore_eq_ok_iff.mpr ⟨registered, valid, rfl⟩
  refine ⟨earlier, later, together, resolve_eq_ok_iff.mpr ⟨rules, shown, failing, exclude, ?_⟩⟩
  rw [Profile.ignoring, isInserted, List.mapM_append, isEarlier, List.mapM_cons, isAdded, isLater]
  rfl

theorem mem_ignoredRules {path id : String} :
    id ∈ config.ignoredRules path ↔
      ∃ ignore ∈ config.perFileIgnores, ignore.glob.isMatch path = true ∧ id ∈ ignore.rules := by
  rw [ignoredRules, Table.mem_sortedSet, List.mem_flatMap]
  constructor
  · rintro ⟨ignore, member, listed⟩
    obtain ⟨inside, isMatch⟩ := List.mem_filter.mp member
    exact ⟨ignore, inside, isMatch, listed⟩
  · rintro ⟨ignore, inside, isMatch, listed⟩
    exact ⟨ignore, List.mem_filter.mpr ⟨inside, isMatch⟩, listed⟩

/-- One more list of ignored rules counts where its pattern matches. -/
theorem mem_ignoredRules_insert {before after : List PathIgnore}
    (isSplit : config.perFileIgnores = before ++ after) (added : PathIgnore) (path id : String) :
    id ∈ ignoredRules { config with perFileIgnores := before ++ added :: after } path ↔
      id ∈ config.ignoredRules path ∨ added.glob.isMatch path = true ∧ id ∈ added.rules := by
  rw [mem_ignoredRules, mem_ignoredRules, isSplit]
  simp only [List.mem_append, List.mem_cons]
  constructor
  · rintro ⟨ignore, early | rfl | late, isMatch, listed⟩
    · exact .inl ⟨ignore, .inl early, isMatch, listed⟩
    · exact .inr ⟨isMatch, listed⟩
    · exact .inl ⟨ignore, .inr late, isMatch, listed⟩
  · rintro (⟨ignore, early | late, isMatch, listed⟩ | ⟨isMatch, listed⟩)
    · exact ⟨ignore, .inl early, isMatch, listed⟩
    · exact ⟨ignore, .inr (.inr late), isMatch, listed⟩
    · exact ⟨added, .inr (.inl rfl), isMatch, listed⟩

end Config

/-! ## Routes -/

namespace Routing

variable {config : Config} {ids : List String}

theorem routeOf?_switchOff (rule : Rule) :
    routeOf? { config with rules := ids.foldl Config.switchOff config.rules } rule =
      (routeOf? config rule).filter fun route => !ids.contains route.rule.id := by
  rw [routeOf?, routeOf?, Config.find?_foldl_switchOff]
  cases Table.find? rule.id config.rules with
  | none => rfl
  | some settings =>
    by_cases listed : rule.id ∈ ids
    · cases enabled : settings.enabled <;> simp [listed, enabled, RuleSettings.off, Option.filter]
    · cases enabled : settings.enabled <;> simp [listed, enabled, Option.filter]

/-- Switching rules off takes their routes out. -/
theorem ofConfig_switchOff (registry : Registry) :
    ofConfig registry { config with rules := ids.foldl Config.switchOff config.rules } =
      (ofConfig registry config).without ids := by
  simp only [ofConfig, without, List.filter_filterMap, routeOf?_switchOff]

theorem without_congr {routing : Routing} {first second : List String}
    (same : ∀ id, id ∈ first ↔ id ∈ second) : routing.without first = routing.without second := by
  simp only [without, List.contains_eq_mem, same]

theorem without_without (routing : Routing) (first second : List String) :
    (routing.without first).without second = routing.without (first ++ second) := by
  rw [without, without, without, List.filter_filter]
  congr 1
  refine List.filter_congr fun route _ => ?_
  rw [List.contains_eq_any_beq, List.contains_eq_any_beq, List.contains_eq_any_beq, List.any_append,
    Bool.not_or, Bool.and_comm]

end Routing

/-! ## One source -/

theorem SourceInput.path_of_load {tree : FileTree} {input : SourceInput} {source : Source}
    (loaded : input.load tree = .ok source) : source.path = input.path := by
  cases input with
  | given text =>
    cases loaded
    rfl
  | file found =>
    rw [load, Source.ofFile] at loaded
    split at loaded
    · cases loaded
      rfl
    · cases loaded

namespace Analyzer

/-- Whether the cache of a state has no result for an input. A cache that keeps nothing never has one. -/
def Misses (analyzer : Analyzer) (input : SourceInput) (state : RunState) : Prop :=
  ∀ source, input.load state.tree = .ok source →
    (state.cache.lookup state.tree (analyzer.keyOf source)).1 = none

theorem misses_disabled (analyzer : Analyzer) (input : SourceInput) (token : CancelToken)
    (tree : FileTree) : analyzer.Misses input ⟨.disabled, token, tree⟩ := by
  intro source _
  rfl

/-- The result for a source that is walked. It does not depend on the cache, in which it is put afterwards. -/
theorem analyze_result (analyzer : Analyzer) (source : Source) (state : RunState) :
    (analyzer.analyze source state).1 =
      match source.parse with
      | .error cause => .loadFailed cause.message
      | .ok parsed =>
        match (Dispatch.run (analyzer.routingFor source.path) ⟨source.path, parsed.lines⟩ parsed.body
            state.token).1 with
        | none => .abandoned
        | some output => .dispatched (analyzer.conclude source output) := by
  rw [analyze]
  cases source.parse with
  | error cause => rfl
  | ok parsed =>
    dsimp only
    generalize Dispatch.run (analyzer.routingFor source.path) ⟨source.path, parsed.lines⟩ parsed.body
      state.token = walked
    obtain ⟨output, token⟩ := walked
    cases output with
    | none => rfl
    | some output => rfl

/-- A cache without a result for a source might as well keep nothing. -/
theorem processUnit_of_misses {analyzer : Analyzer} {input : SourceInput} {cache : Cache}
    {token : CancelToken} {tree : FileTree} (misses : analyzer.Misses input ⟨cache, token, tree⟩) :
    (analyzer.processUnit input ⟨cache, token, tree⟩).1 =
      (analyzer.processUnit input ⟨.disabled, token, tree⟩).1 := by
  rw [processUnit, processUnit]
  rcases token.look_cases with ⟨looked, look, _⟩ | ⟨looked, look, _⟩
  · simp only [look]
  · simp only [look]
    split
    · rfl
    · cases loaded : input.load tree with
      | error cause => rfl
      | ok source =>
        have missed := misses source loaded
        rcases lookup : cache.lookup tree (analyzer.keyOf source) with ⟨answer, counted⟩
        rw [lookup] at missed
        obtain rfl : answer = none := missed
        have unknown : Cache.disabled.lookup tree (analyzer.keyOf source) = (none, Cache.disabled.countMiss) := rfl
        simp only [lookup, unknown, analyze_result]

/-- Analyzers that agree on what is excluded, on the routes of a path and on what is reported after a walk
give the same result for a source at this path. -/
theorem processUnit_congr {first second : Analyzer} {input : SourceInput}
    (sameExcluded : first.config.isExcluded input.path = second.config.isExcluded input.path)
    (sameRoutes : first.routingFor input.path = second.routingFor input.path)
    (sameConclusion : ∀ source output, first.conclude source output = second.conclude source output)
    (token : CancelToken) (tree : FileTree) :
    (first.processUnit input ⟨.disabled, token, tree⟩).1 =
      (second.processUnit input ⟨.disabled, token, tree⟩).1 := by
  rw [processUnit, processUnit]
  rcases token.look_cases with ⟨looked, look, _⟩ | ⟨looked, look, _⟩
  · simp only [look]
  · simp only [look, sameExcluded]
    split
    · rfl
    · cases loaded : input.load tree with
      | error cause => rfl
      | ok source =>
        rw [← SourceInput.path_of_load loaded] at sameRoutes
        have unknown : ∀ key, Cache.disabled.lookup tree key = (none, Cache.disabled.countMiss) := fun _ => rfl
        simp only [unknown, analyze_result, sameRoutes, sameConclusion]

variable {registry : Registry} {config : Config} {ids : List String}

/-- Switching rules off changes no severity, so what a walk has found is reported as before. -/
theorem conclude_switchOff (source : Source) (output : WalkOutput) :
    conclude ⟨registry, { config with rules := ids.foldl Config.switchOff config.rules }⟩ source output =
      conclude ⟨registry, config⟩ source output := by
  have sameSeverity : ∀ id, (Table.find? id (ids.foldl Config.switchOff config.rules)).map
      RuleSettings.severity = (Table.find? id config.rules).map RuleSettings.severity := by
    intro id
    rw [Config.find?_foldl_switchOff, Option.map_map]
    congr 1
    funext settings
    by_cases listed : id ∈ ids
    · simp [listed, RuleSettings.off]
    · simp [listed]
  have sameDiagnostic : diagnosticOf { config with rules := ids.foldl Config.switchOff config.rules } =
      diagnosticOf config := by
    funext path finding
    simp only [diagnosticOf, sameSeverity]
  simp only [conclude, sameDiagnostic]
  rfl

theorem routingFor_switchOff (path : String) :
    routingFor ⟨registry, { config with rules := ids.foldl Config.switchOff config.rules }⟩ path =
      (Routing.ofConfig registry config).without (ids ++ config.ignoredRules path) := by
  rw [routingFor, Routing.ofConfig_switchOff, Routing.without_without]
  rfl

theorem routingFor_ignoring (registry : Registry) {before after : List PathIgnore}
    (isSplit : config.perFileIgnores = before ++ after) (added : PathIgnore) (path : String) :
    let ignoring : Config := { config with perFileIgnores := before ++ added :: after }
    (added.glob.isMatch path = true → routingFor ⟨registry, ignoring⟩ path =
      (Routing.ofConfig registry config).without (added.rules ++ config.ignoredRules path)) ∧
    (added.glob.isMatch path = false →
      routingFor ⟨registry, ignoring⟩ path = routingFor ⟨registry, config⟩ path) := by
  intro ignoring
  have ignored := Config.mem_ignoredRules_insert isSplit added path
  constructor
  · intro isMatch
    refine Routing.without_congr fun id => ?_
    rw [ignored id, List.mem_append]
    simp only [isMatch, true_and]
    exact or_comm
  · intro noMatch
    refine Routing.without_congr fun id => ?_
    rw [ignored id]
    simp [noMatch]

/-- Ignoring rules at the paths of a pattern agrees with excluding them. If a profile can be resolved, so
can both extensions of it, and a source that is not in the cache has the same result under both where the
pattern matches its path. Where it does not, the source has the result that it has under the profile. -/
theorem ignoring_agrees_with_excluding {profile : Profile} {options : Options} {pattern : String}
    {glob : Glob} (resolved : Config.resolve registry profile options = .ok config)
    (absent : Table.find? pattern profile.perFileIgnores = none)
    (registered : ∀ id ∈ ids, registry.contains id = true) (valid : Glob.parse pattern = .ok glob) :
    ∃ ignoring excluding,
      Config.resolve registry (profile.ignoring pattern ids) options = .ok ignoring ∧
      Config.resolve registry (profile.excluding ids) options = .ok excluding ∧
      ∀ (input : SourceInput) (token : CancelToken) (tree : FileTree) (cache other : Cache),
        Misses ⟨registry, ignoring⟩ input ⟨cache, token, tree⟩ →
          (glob.isMatch input.path = true → Misses ⟨registry, excluding⟩ input ⟨other, token, tree⟩ →
            (processUnit ⟨registry, ignoring⟩ input ⟨cache, token, tree⟩).1 =
              (processUnit ⟨registry, excluding⟩ input ⟨other, token, tree⟩).1) ∧
          (glob.isMatch input.path = false → Misses ⟨registry, config⟩ input ⟨other, token, tree⟩ →
            (processUnit ⟨registry, ignoring⟩ input ⟨cache, token, tree⟩).1 =
              (processUnit ⟨registry, config⟩ input ⟨other, token, tree⟩).1) := by
  obtain ⟨before, after, isSplit, ignoringResolved⟩ :=
    Config.resolve_ignoring resolved registered valid absent
  refine ⟨_, _, ignoringResolved, Config.resolve_excluding resolved registered, ?_⟩
  intro input token tree cache other misses
  obtain ⟨inside, outside⟩ := routingFor_ignoring registry isSplit ⟨glob, ids⟩ input.path
  constructor
  · intro isMatch otherMisses
    rw [processUnit_of_misses misses, processUnit_of_misses otherMisses]
    have sameRoutes := (inside isMatch).trans (routingFor_switchOff input.path).symm
    refine processUnit_congr ?_ sameRoutes ?_ token tree
    · rfl
    · intro source output
      exact (conclude_switchOff source output).symm
  · intro noMatch otherMisses
    rw [processUnit_of_misses misses, processUnit_of_misses otherMisses]
    refine processUnit_congr ?_ (outside noMatch) ?_ token tree
    · rfl
    · intro source output
      rfl

/-- `eval` is off at `a.py` as if it were excluded, and reported at `b.py` as ever. -/
theorem ignoring_agrees_with_excluding_eval :
    let plain : Config := ⟨Config.initialRules .builtin {}, [], [], .information, .error⟩
    let unit (path : String) : SourceInput := .given ⟨path, "eval(x)\n"⟩
    let state : RunState := ⟨.disabled, .fresh, ⟨[], []⟩⟩
    ∃ ignoring excluding,
      Config.resolve .builtin (Profile.ignoring {} "a.py" ["no-eval"]) {} = .ok ignoring ∧
      Config.resolve .builtin (Profile.excluding {} ["no-eval"]) {} = .ok excluding ∧
      (processUnit ⟨.builtin, ignoring⟩ (unit "a.py") state).1 =
        (processUnit ⟨.builtin, excluding⟩ (unit "a.py") state).1 ∧
      (processUnit ⟨.builtin, ignoring⟩ (unit "b.py") state).1 =
        (processUnit ⟨.builtin, plain⟩ (unit "b.py") state).1 ∧
      (processUnit ⟨.builtin, plain⟩ (unit "b.py") state).1.diagnostics?.map List.length = some 1 := by
  intro plain unit state
  have resolved : Config.resolve .builtin {} {} = .ok plain := rfl
  have registered : ∀ id ∈ ["no-eval"], Registry.builtin.contains id = true := by decide +kernel
  have matching : (Glob.parse "a.py").map (fun glob => (glob.isMatch "a.py", glob.isMatch "b.py")) =
    .ok (true, false) := by decide +kernel
  cases valid : Glob.parse "a.py" with
  | error cause =>
    rw [valid] at matching
    cases matching
  | ok glob =>
    rw [valid] at matching
    obtain ⟨atFirst, atSecond⟩ := Prod.mk.inj (Except.ok.inj matching)
    obtain ⟨ignoring, excluding, ignoringResolved, excludingResolved, agrees⟩ :=
      ignoring_agrees_with_excluding resolved rfl registered valid
    have uncached := fun path => agrees (unit path) .fresh ⟨[], []⟩ .disabled .disabled (misses_disabled _ _ _ _)
    refine ⟨ignoring, excluding, ignoringResolved, excludingResolved, ?_, ?_, by decide +kernel⟩
    · exact (uncached "a.py").1 atFirst (misses_disabled _ _ _ _)
    · exact (uncached "b.py").2 atSecond (misses_disabled _ _ _ _)

end Analyzer

end Lintel
