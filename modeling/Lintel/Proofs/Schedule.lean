import Lintel.Proofs.Assessment
import Mathlib.Logic.Relation

/-!
# Sources processed side by side

The pipeline of one source cut into the steps between which other sources may be processed and the run
may be cancelled: the first look at the token, the loading, the look-up, the parsing, each node of the
walk, and the storing. A run takes such steps in any order. Whatever the order and whenever the run is
cancelled, a source is abandoned or ends with what its cache answers for it. A cache that keeps to right
results answers with the results that sources have on their own, and it goes on keeping to them.
Processing one source after another is one of the orders.
-/

set_option autoImplicit false

namespace Lintel

namespace Analyzer

/-- How far a source is. -/
inductive Stage where
  | waiting
  | admitted
  | loaded (source : Source)
  | missed (source : Source)
  | walking (source : Source) (parsed : ParsedSource) (seen : WalkOutput) (ahead : List (Node × Position))
  | finished (result : UnitResult)

/-- Takes a source one step further. -/
def advance (analyzer : Analyzer) (input : SourceInput) (state : RunState) : Stage → Stage × RunState
  | .waiting =>
    match state.token.look with
    | (true, token) => (.finished .abandoned, { state with token })
    | (false, token) =>
      (if analyzer.config.isExcluded input.path then .finished .excluded else .admitted, { state with token })
  | .admitted =>
    match input.load state.tree with
    | .error cause => (.finished (.loadFailed cause.message), state)
    | .ok source => (.loaded source, state)
  | .loaded source =>
    match state.cache.lookup state.tree (analyzer.keyOf source) with
    | (some diagnostics, cache) => (.finished (.cached diagnostics), { state with cache })
    | (none, cache) => (.missed source, { state with cache })
  | .missed source =>
    match source.parse with
    | .error cause => (.finished (.loadFailed cause.message), state)
    | .ok parsed => (.walking source parsed {} (Dispatch.visitsOf parsed.body), state)
  | .walking source _ seen [] =>
    let diagnostics := analyzer.conclude source seen
    let (cache, tree) := state.cache.put state.tree (analyzer.keyOf source) diagnostics
    (.finished (.dispatched diagnostics), { state with cache, tree })
  | .walking source parsed seen ((node, position) :: ahead) =>
    match state.token.look with
    | (true, token) => (.finished .abandoned, { state with token })
    | (false, token) =>
      let here := Dispatch.atNode (analyzer.routingFor source.path) ⟨source.path, parsed.lines⟩ node position
      (.walking source parsed (seen ++ here.1) ahead, { state with token := token.cancelIf here.2 })
  | .finished result => (.finished result, state)

/-- Sources on their way, and what they share. -/
structure Session where
  units : List (SourceInput × Stage)
  state : RunState

/-- A step of a run: one of its sources goes one step further, or somebody cancels the run. -/
inductive Step (analyzer : Analyzer) : Session → Session → Prop where
  | unit (before after : List (SourceInput × Stage)) (input : SourceInput) (stage : Stage)
      (state : RunState) :
      Step analyzer ⟨before ++ (input, stage) :: after, state⟩
        ⟨before ++ (input, (analyzer.advance input state stage).1) :: after,
          (analyzer.advance input state stage).2⟩
  | cancel (units : List (SourceInput × Stage)) (state : RunState) :
      Step analyzer ⟨units, state⟩ ⟨units, { state with token := state.token.cancel }⟩

/-- Any number of steps. -/
abbrev Reaches (analyzer : Analyzer) : Session → Session → Prop :=
  Relation.ReflTransGen analyzer.Step

/-- A run before its first step. -/
def Session.start (inputs : List SourceInput) (state : RunState) : Session :=
  ⟨inputs.map fun input => (input, .waiting), state⟩

/-- A run all of whose sources are done. -/
def Session.done (outcomes : List (SourceInput × UnitResult)) (state : RunState) : Session :=
  ⟨outcomes.map fun (input, result) => (input, .finished result), state⟩

/-! ## One source after another -/

section Sequential

variable (analyzer : Analyzer) (before after : List (SourceInput × Stage)) (input : SourceInput)

private theorem reaches_unit {state left : RunState} {stage next : Stage}
    (advanced : analyzer.advance input state stage = (next, left)) :
    analyzer.Reaches ⟨before ++ (input, stage) :: after, state⟩ ⟨before ++ (input, next) :: after, left⟩ := by
  have step : analyzer.Step _ _ := .unit before after input stage state
  rw [advanced] at step
  exact .single step

/-- Where a walk leaves a source. -/
private def walked (source : Source) (parsed : ParsedSource) (seen : WalkOutput) :
    Option WalkOutput → Stage
  | none => .finished .abandoned
  | some output => .walking source parsed (seen ++ output) []

private theorem reaches_walk (source : Source) (parsed : ParsedSource) (ahead : List (Node × Position))
    (seen : WalkOutput) (state : RunState) :
    let result := (Dispatch.follow (analyzer.routingFor source.path) ⟨source.path, parsed.lines⟩ ahead).run.run
      state.token
    analyzer.Reaches ⟨before ++ (input, .walking source parsed seen ahead) :: after, state⟩
      ⟨before ++ (input, walked source parsed seen result.1) :: after, { state with token := result.2 }⟩ := by
  induction ahead generalizing seen state with
  | nil =>
    have same : seen ++ ({} : WalkOutput) = seen := by simp [WalkOutput.append_def, WalkOutput.append]
    show analyzer.Reaches _ ⟨before ++ (input, .walking source parsed (seen ++ ({} : WalkOutput)) []) :: after, _⟩
    rw [same]
    exact .refl
  | cons visit ahead ih =>
    obtain ⟨node, position⟩ := visit
    dsimp only
    rw [Dispatch.follow_cons]
    rcases state.token.look_cases with ⟨token, look, _⟩ | ⟨token, look, _⟩
    · rw [look]
      exact reaches_unit analyzer before after input (by simp only [advance, look]; rfl)
    · rw [look]
      dsimp only
      obtain ⟨here, isHere⟩ : ∃ here, here = Dispatch.atNode (analyzer.routingFor source.path)
        ⟨source.path, parsed.lines⟩ node position := ⟨_, rfl⟩
      rw [← isHere]
      have first : analyzer.Reaches
          ⟨before ++ (input, .walking source parsed seen ((node, position) :: ahead)) :: after, state⟩
          ⟨before ++ (input, .walking source parsed (seen ++ here.1) ahead) :: after,
            { state with token := token.cancelIf here.2 }⟩ :=
        reaches_unit analyzer before after input (by simp only [advance, look, isHere])
      refine first.trans ((ih (seen ++ here.1) { state with token := token.cancelIf here.2 }).trans ?_)
      dsimp only
      generalize (Dispatch.follow (analyzer.routingFor source.path) ⟨source.path, parsed.lines⟩ ahead).run.run
        (token.cancelIf here.2) = result
      rcases result with ⟨_ | output, last⟩
      · exact .refl
      · simp only [walked, Option.map_some, WalkOutput.append_assoc]
        exact .refl

/-- A source can be taken through the whole pipeline while the others stand still. -/
theorem reaches_processUnit (state : RunState) :
    analyzer.Reaches ⟨before ++ (input, .waiting) :: after, state⟩
      ⟨before ++ (input, .finished (analyzer.processUnit input state).1) :: after,
        (analyzer.processUnit input state).2⟩ := by
  have go : ∀ {state left : RunState} {stage next : Stage},
      analyzer.advance input state stage = (next, left) →
      analyzer.Reaches ⟨before ++ (input, stage) :: after, state⟩
        ⟨before ++ (input, next) :: after, left⟩ := reaches_unit analyzer before after input
  obtain ⟨cache, token, tree⟩ := state
  rcases token.look_cases with ⟨looked, look, _⟩ | ⟨looked, look, _⟩
  · simp only [processUnit, look]
    exact go (by simp only [advance, look])
  cases excluded : analyzer.config.isExcluded input.path with
  | true =>
    simp only [processUnit, look, excluded, if_true]
    exact go (by simp only [advance, look, excluded, if_true])
  | false =>
    have admitted : analyzer.Reaches ⟨before ++ (input, .waiting) :: after, ⟨cache, token, tree⟩⟩
        ⟨before ++ (input, .admitted) :: after, ⟨cache, looked, tree⟩⟩ :=
      go (by simp [advance, look, excluded])
    refine admitted.trans ?_
    cases load : input.load tree with
    | error cause =>
      simp only [processUnit, look, excluded, load, Bool.false_eq_true, if_false]
      exact go (by simp only [advance, load])
    | ok source =>
      have loaded : analyzer.Reaches ⟨before ++ (input, .admitted) :: after, ⟨cache, looked, tree⟩⟩
          ⟨before ++ (input, .loaded source) :: after, ⟨cache, looked, tree⟩⟩ :=
        go (by simp only [advance, load])
      refine loaded.trans ?_
      rcases lookup : cache.lookup tree (analyzer.keyOf source) with ⟨_ | diagnostics, counted⟩
      · have missed : analyzer.Reaches ⟨before ++ (input, .loaded source) :: after, ⟨cache, looked, tree⟩⟩
            ⟨before ++ (input, .missed source) :: after, ⟨counted, looked, tree⟩⟩ :=
          go (by simp only [advance, lookup])
        refine missed.trans ?_
        simp only [processUnit, look, excluded, load, lookup, Bool.false_eq_true, if_false, analyze]
        cases parses : source.parse with
        | error cause => exact go (by simp only [advance, parses])
        | ok parsed =>
          have walking : analyzer.Reaches ⟨before ++ (input, .missed source) :: after, ⟨counted, looked, tree⟩⟩
              ⟨before ++ (input, .walking source parsed {} (Dispatch.visitsOf parsed.body)) :: after,
                ⟨counted, looked, tree⟩⟩ := go (by simp only [advance, parses])
          refine walking.trans ((reaches_walk analyzer before after input source parsed _ _ _).trans ?_)
          simp only [Dispatch.run_eq_follow]
          generalize (Dispatch.follow (analyzer.routingFor source.path) ⟨source.path, parsed.lines⟩
            (Dispatch.visitsOf parsed.body)).run.run looked = result
          rcases result with ⟨_ | output, last⟩
          · exact .refl
          · simp only [walked, WalkOutput.empty_append]
            exact go (by simp only [advance])
      · simp only [processUnit, look, excluded, load, lookup, Bool.false_eq_true, if_false]
        exact go (by simp only [advance, lookup])

end Sequential

/-- The sources that are processed one after another, with their results. -/
def outcomesOf (analyzer : Analyzer) (inputs : List SourceInput) (state : RunState) :
    List (SourceInput × UnitResult) :=
  inputs.zip (analyzer.processAll inputs state).1

theorem length_processAll (analyzer : Analyzer) (inputs : List SourceInput) (state : RunState) :
    (analyzer.processAll inputs state).1.length = inputs.length := by
  induction inputs generalizing state with
  | nil => rfl
  | cons input inputs ih => simp only [processAll, List.length_cons, ih]

theorem results_outcomesOf (analyzer : Analyzer) (inputs : List SourceInput) (state : RunState) :
    (analyzer.outcomesOf inputs state).map Prod.snd = (analyzer.processAll inputs state).1 :=
  List.map_snd_zip (Nat.le_of_eq (length_processAll analyzer inputs state))

private theorem reaches_processAll_behind (analyzer : Analyzer) (before : List (SourceInput × Stage))
    (inputs : List SourceInput) (state : RunState) :
    analyzer.Reaches ⟨before ++ (Session.start inputs state).units, state⟩
      ⟨before ++ (Session.done (analyzer.outcomesOf inputs state) state).units,
        (analyzer.processAll inputs state).2⟩ := by
  induction inputs generalizing before state with
  | nil => exact .refl
  | cons input inputs ih =>
    refine (reaches_processUnit analyzer before _ input state).trans ?_
    have later := ih (before ++ [(input, .finished (analyzer.processUnit input state).1)])
      (analyzer.processUnit input state).2
    rw [List.append_assoc, List.append_assoc] at later
    exact later

/-- Processing one source after another is one order of the steps of a run. -/
theorem reaches_processAll (analyzer : Analyzer) (inputs : List SourceInput) (state : RunState) :
    analyzer.Reaches (.start inputs state)
      (.done (analyzer.outcomesOf inputs state) (analyzer.processAll inputs state).2) :=
  reaches_processAll_behind analyzer [] inputs state

end Analyzer

/-! ## What every step keeps -/

/-- An input that is read without looking below the place of a cache. -/
def SourceInput.Outside (root? : Option Location) (tree : FileTree) : SourceInput → Prop
  | given _ => True
  | file found => ∀ place ∈ tree.placesOn found.file, ∀ root, root? = some root →
    ¬ FileTree.Below root place

/-- Such an input is loaded as it was, whatever happens below the place of the cache. -/
theorem SourceInput.load_congr {root? : Option Location} {tree other : FileTree} {input : SourceInput}
    (outside : input.Outside root? tree) (agree : FileTree.AgreeOutside root? tree other) :
    input.load other = input.load tree := by
  cases input with
  | given source => rfl
  | file found =>
    have same : other.readText found.file = tree.readText found.file :=
      FileTree.readText_congr agree.home fun place member => agree.outside place (outside place member)
    simp only [load, Source.ofFile, same]

namespace Analyzer

/-- What becomes of an input over a tree if `answer` says what becomes of the sources that are loaded. -/
def ends (analyzer : Analyzer) (answer : Source → UnitResult) (tree : FileTree) (input : SourceInput) :
    UnitResult :=
  if analyzer.config.isExcluded input.path then .excluded
  else match input.load tree with
    | .error cause => .loadFailed cause.message
    | .ok source => answer source

/-- Caches that answer for the sources of a run, whatever the order in which the run asks: a look-up finds
what `answer` says or, if this is the result that the source has on its own, nothing. Storing such a result
leaves a cache that answers alike, and nothing changes outside the place of the cache. -/
structure Answers (analyzer : Analyzer) (loads : Source → Prop) (answer : Source → UnitResult)
    (root? : Option Location) (Holds : Cache → FileTree → Prop) : Prop where
  found : ∀ {cache tree source diagnostics}, Holds cache tree → loads source →
    (cache.lookup tree (analyzer.keyOf source)).1 = some diagnostics →
      answer source = .dispatched diagnostics
  missed : ∀ {cache tree source}, Holds cache tree → loads source →
    (cache.lookup tree (analyzer.keyOf source)).1 = none → answer source = analyzer.assess source
  counted : ∀ {cache tree source}, Holds cache tree →
    Holds (cache.lookup tree (analyzer.keyOf source)).2 tree
  stored : ∀ {cache tree source diagnostics}, Holds cache tree → loads source →
    answer source = .dispatched diagnostics → analyzer.assess source = .dispatched diagnostics →
      Holds (cache.put tree (analyzer.keyOf source) diagnostics).1
          (cache.put tree (analyzer.keyOf source) diagnostics).2 ∧
        FileTree.AgreeOutside root? tree (cache.put tree (analyzer.keyOf source) diagnostics).2

/-- A cache that keeps to right results answers with the results that sources have on their own. -/
theorem answers_of_tellsApart {analyzer : Analyzer} {known : KnownSources} (tells : TellsApart known)
    (root? : Option Location) :
    analyzer.Answers (known analyzer) analyzer.assess root?
      (fun cache tree => cache.Keeps (Stands known) tree ∧ cache.root? tree = root?) where
  found holds isKnown found := (Cache.truth_of_lookup holds.1 found).assess_eq tells isKnown
  missed _ _ _ := rfl
  counted holds := by
    obtain ⟨keeps, sameRoot⟩ := Cache.lookup_keeps holds.1 _
    exact ⟨keeps, sameRoot.trans holds.2⟩
  stored {cache tree source diagnostics} holds isKnown _ result := by
    have stands : Stands known (analyzer.keyOf source) diagnostics := ⟨analyzer, source, isKnown, rfl, result⟩
    obtain ⟨keeps, sameRoot, agree⟩ := Cache.put_keeps holds.1 stands
    rw [holds.2] at sameRoot agree
    exact ⟨⟨keeps, sameRoot⟩, agree⟩

/-- An input of a run over a tree: it is read outside the place of the cache, and the run has to do with
its source. -/
structure Admissible (analyzer : Analyzer) (loads : Source → Prop) (root? : Option Location)
    (tree : FileTree) (input : SourceInput) : Prop where
  outside : input.Outside root? tree
  isLoaded : analyzer.config.isExcluded input.path = false → ∀ source, input.load tree = .ok source →
    loads source

/-- What holds of the state of a run that started on a tree: its cache answers, and nothing has changed
outside the place of the cache. -/
structure StateSound (Holds : Cache → FileTree → Prop) (root? : Option Location) (tree : FileTree)
    (state : RunState) : Prop where
  holds : Holds state.cache state.tree
  agree : FileTree.AgreeOutside root? tree state.tree

/-- What holds of a source on its way in a run that started on a tree. A source that the cache did not know
is answered by its result on its own. Only a source that is abandoned needs the run to be cancelled. -/
def Stage.Sound (analyzer : Analyzer) (answer : Source → UnitResult) (tree : FileTree)
    (input : SourceInput) (cancelled : Bool) : Stage → Prop
  | .waiting => True
  | .admitted => analyzer.config.isExcluded input.path = false
  | .loaded source => analyzer.config.isExcluded input.path = false ∧ input.load tree = .ok source
  | .missed source => analyzer.config.isExcluded input.path = false ∧ input.load tree = .ok source ∧
    answer source = analyzer.assess source
  | .walking source parsed seen ahead => analyzer.config.isExcluded input.path = false ∧
    input.load tree = .ok source ∧ answer source = analyzer.assess source ∧ source.parse = .ok parsed ∧
    seen ++ Dispatch.outputOf (analyzer.routingFor source.path) ⟨source.path, parsed.lines⟩ ahead =
      analyzer.walkOf source parsed
  | .finished result => (result = .abandoned ∧ cancelled = true) ∨
    result.content = analyzer.ends answer tree input

variable {analyzer : Analyzer} {loads : Source → Prop} {answer : Source → UnitResult}
  {root? : Option Location} {Holds : Cache → FileTree → Prop} {tree : FileTree} {input : SourceInput}

theorem Stage.Sound.of_cancelled {before after : Bool} (stays : before = true → after = true)
    {stage : Stage} (sound : stage.Sound analyzer answer tree input before) :
    stage.Sound analyzer answer tree input after := by
  cases stage with
  | finished result => exact sound.imp (fun ⟨abandoned, cancelled⟩ => ⟨abandoned, stays cancelled⟩) id
  | _ => exact sound

theorem ends_of_load {source : Source} (included : analyzer.config.isExcluded input.path = false)
    (loaded : input.load tree = .ok source) : analyzer.ends answer tree input = answer source := by
  simp [ends, included, loaded]

theorem alone_of_load {source : Source} (included : analyzer.config.isExcluded input.path = false)
    (loaded : input.load tree = .ok source) : analyzer.alone tree input = analyzer.assess source :=
  ends_of_load included loaded

theorem assess_of_parse (analyzer : Analyzer) {source : Source} {parsed : ParsedSource} (parses : source.parse = .ok parsed) :
    analyzer.assess source = .dispatched (analyzer.conclude source (analyzer.walkOf source parsed)) := by
  simp only [assess, parses]

/-- What a step of a source leaves: the source and the state are sound, and a cancelled run stays
cancelled. -/
structure Advanced (analyzer : Analyzer) (answer : Source → UnitResult) (Holds : Cache → FileTree → Prop)
    (root? : Option Location) (tree : FileTree) (input : SourceInput) (state : RunState)
    (left : Stage × RunState) : Prop where
  stage : left.1.Sound analyzer answer tree input left.2.token.cancelled
  shared : StateSound Holds root? tree left.2
  stays : state.token.cancelled = true → left.2.token.cancelled = true

section Advance

variable {state : RunState} (stateSound : StateSound Holds root? tree state)

include stateSound

theorem StateSound.withToken (token : CancelToken) :
    StateSound Holds root? tree { state with token := token } :=
  ⟨stateSound.holds, stateSound.agree⟩

/-- A source whose token is found cancelled is abandoned. -/
theorem Advanced.abandoned {token : CancelToken} (cancelled : token.cancelled = true) :
    Advanced analyzer answer Holds root? tree input state
      (.finished .abandoned, { state with token := token }) where
  stage := .inl ⟨rfl, cancelled⟩
  shared := stateSound.withToken token
  stays _ := cancelled

theorem advance_waiting : Advanced analyzer answer Holds root? tree input state
    (analyzer.advance input state .waiting) := by
  rcases state.token.look_cases with ⟨token, look, cancelled⟩ | ⟨token, look, notCancelled, _⟩
  · simp only [advance, look]
    exact .abandoned stateSound cancelled
  · simp only [advance, look]
    refine ⟨?_, stateSound.withToken token, fun cancelled => absurd cancelled (by simp [notCancelled])⟩
    cases excluded : analyzer.config.isExcluded input.path with
    | true => exact .inr (by simp [UnitResult.content, ends, excluded])
    | false => exact excluded

theorem advance_admitted (outside : input.Outside root? tree)
    (included : analyzer.config.isExcluded input.path = false) :
    Advanced analyzer answer Holds root? tree input state (analyzer.advance input state .admitted) := by
  have same := SourceInput.load_congr outside stateSound.agree
  cases loaded : input.load tree with
  | error cause =>
    rw [loaded] at same
    simp only [advance, same]
    exact ⟨.inr (by simp [UnitResult.content, ends, included, loaded]), stateSound, id⟩
  | ok source =>
    rw [loaded] at same
    simp only [advance, same]
    exact ⟨⟨included, loaded⟩, stateSound, id⟩

/-- A look-up finds the answer, or the answer is the result of the source on its own. -/
theorem advance_loaded (answers : analyzer.Answers loads answer root? Holds) {source : Source}
    (isLoaded : loads source) (included : analyzer.config.isExcluded input.path = false)
    (loaded : input.load tree = .ok source) :
    Advanced analyzer answer Holds root? tree input state (analyzer.advance input state (.loaded source)) := by
  have found := @answers.found state.cache state.tree source
  have missed := @answers.missed state.cache state.tree source
  have counted := @answers.counted state.cache state.tree source stateSound.holds
  rcases lookup : state.cache.lookup state.tree (analyzer.keyOf source) with ⟨_ | diagnostics, cache⟩
  · rw [lookup] at counted missed
    simp only [advance, lookup]
    exact ⟨⟨included, loaded, missed stateSound.holds isLoaded rfl⟩, ⟨counted, stateSound.agree⟩, id⟩
  · rw [lookup] at counted found
    simp only [advance, lookup]
    refine ⟨.inr ?_, ⟨counted, stateSound.agree⟩, id⟩
    rw [ends_of_load included loaded, found stateSound.holds isLoaded rfl]
    rfl

theorem advance_missed {source : Source} (included : analyzer.config.isExcluded input.path = false)
    (loaded : input.load tree = .ok source) (isAnswer : answer source = analyzer.assess source) :
    Advanced analyzer answer Holds root? tree input state (analyzer.advance input state (.missed source)) := by
  cases parses : source.parse with
  | error cause =>
    simp only [advance, parses]
    refine ⟨.inr ?_, stateSound, id⟩
    rw [ends_of_load included loaded, isAnswer]
    simp only [UnitResult.content, assess, parses]
  | ok parsed =>
    simp only [advance, parses]
    refine ⟨⟨included, loaded, isAnswer, parses, ?_⟩, stateSound, id⟩
    rw [WalkOutput.empty_append]
    rfl

/-- A walk that is over has the whole output, so what is stored is the result of the source. -/
theorem advance_walked (answers : analyzer.Answers loads answer root? Holds) {source : Source}
    {parsed : ParsedSource} {seen : WalkOutput} (isLoaded : loads source)
    (included : analyzer.config.isExcluded input.path = false) (loaded : input.load tree = .ok source)
    (isAnswer : answer source = analyzer.assess source) (parses : source.parse = .ok parsed)
    (whole : seen = analyzer.walkOf source parsed) :
    Advanced analyzer answer Holds root? tree input state
      (analyzer.advance input state (.walking source parsed seen [])) := by
  have result := analyzer.assess_of_parse parses
  rw [← whole] at result
  obtain ⟨holds, changed⟩ := answers.stored stateSound.holds isLoaded (isAnswer.trans result) result
  simp only [advance]
  refine ⟨.inr ?_, ⟨holds, stateSound.agree.trans changed⟩, id⟩
  rw [ends_of_load included loaded, isAnswer, result]
  rfl

theorem advance_visit {source : Source} {parsed : ParsedSource} {seen : WalkOutput} {node : Node}
    {position : Position} {ahead : List (Node × Position)}
    (included : analyzer.config.isExcluded input.path = false) (loaded : input.load tree = .ok source)
    (isAnswer : answer source = analyzer.assess source) (parses : source.parse = .ok parsed)
    (complete : seen ++ Dispatch.outputOf (analyzer.routingFor source.path) ⟨source.path, parsed.lines⟩
      ((node, position) :: ahead) = analyzer.walkOf source parsed) :
    Advanced analyzer answer Holds root? tree input state
      (analyzer.advance input state (.walking source parsed seen ((node, position) :: ahead))) := by
  rcases state.token.look_cases with ⟨token, look, cancelled⟩ | ⟨token, look, notCancelled, _⟩
  · simp only [advance, look]
    exact .abandoned stateSound cancelled
  · simp only [advance, look]
    refine ⟨⟨included, loaded, isAnswer, parses, ?_⟩, stateSound.withToken _, fun cancelled =>
      absurd cancelled (by simp [notCancelled])⟩
    rw [WalkOutput.append_assoc, ← Dispatch.outputOf_cons]
    exact complete

/-- One step of a source keeps what holds of the source and of the state. -/
theorem advance_sound (answers : analyzer.Answers loads answer root? Holds)
    (admissible : analyzer.Admissible loads root? tree input) {stage : Stage}
    (sound : stage.Sound analyzer answer tree input state.token.cancelled) :
    Advanced analyzer answer Holds root? tree input state (analyzer.advance input state stage) := by
  match stage with
  | .waiting => exact advance_waiting stateSound
  | .admitted => exact advance_admitted stateSound admissible.outside sound
  | .loaded source =>
    obtain ⟨included, loaded⟩ := sound
    exact advance_loaded stateSound answers (admissible.isLoaded included source loaded) included loaded
  | .missed source =>
    obtain ⟨included, loaded, isAnswer⟩ := sound
    exact advance_missed stateSound included loaded isAnswer
  | .walking source parsed seen [] =>
    obtain ⟨included, loaded, isAnswer, parses, complete⟩ := sound
    refine advance_walked stateSound answers (admissible.isLoaded included source loaded) included loaded
      isAnswer parses ?_
    rw [← complete]
    simp [Dispatch.outputOf, WalkOutput.append_def, WalkOutput.append]
  | .walking source parsed seen ((node, position) :: ahead) =>
    obtain ⟨included, loaded, isAnswer, parses, complete⟩ := sound
    exact advance_visit stateSound included loaded isAnswer parses complete
  | .finished result => exact ⟨sound, stateSound, id⟩

end Advance

/-- What holds of a run that started on a tree. -/
structure Session.Sound (analyzer : Analyzer) (loads : Source → Prop) (answer : Source → UnitResult)
    (Holds : Cache → FileTree → Prop) (root? : Option Location) (tree : FileTree) (session : Session) :
    Prop where
  state : StateSound Holds root? tree session.state
  units : ∀ unit ∈ session.units, analyzer.Admissible loads root? tree unit.1 ∧
    unit.2.Sound analyzer answer tree unit.1 session.state.token.cancelled

theorem Step.sound (answers : analyzer.Answers loads answer root? Holds) {session next : Session}
    (step : analyzer.Step session next) (sound : session.Sound analyzer loads answer Holds root? tree) :
    next.Sound analyzer loads answer Holds root? tree := by
  cases step with
  | unit before after input stage state =>
    obtain ⟨admissible, stageSound⟩ := sound.units (input, stage) (by simp)
    obtain ⟨here, stateSound, stays⟩ := advance_sound sound.state answers admissible stageSound
    refine ⟨stateSound, fun unit member => ?_⟩
    rcases List.mem_append.mp member with earlier | later
    · have other := sound.units unit (List.mem_append_left _ earlier)
      exact ⟨other.1, other.2.of_cancelled stays⟩
    · rcases List.mem_cons.mp later with rfl | later
      · exact ⟨admissible, here⟩
      · have other := sound.units unit (List.mem_append_right _ (List.mem_cons_of_mem _ later))
        exact ⟨other.1, other.2.of_cancelled stays⟩
  | cancel units state =>
    exact ⟨⟨sound.state.holds, sound.state.agree⟩, fun unit member =>
      ⟨(sound.units unit member).1, (sound.units unit member).2.of_cancelled fun _ => rfl⟩⟩

theorem Step.inputs {session next : Session} (step : analyzer.Step session next) :
    next.units.map Prod.fst = session.units.map Prod.fst := by
  cases step with
  | unit before after input stage state => simp
  | cancel units state => rfl

/-- Every step keeps the sources of a run, so at its end there is one result for each. -/
theorem inputs_of_reaches {session next : Session} (reaches : analyzer.Reaches session next) :
    next.units.map Prod.fst = session.units.map Prod.fst := by
  induction reaches with
  | refl => rfl
  | tail _ step ih => exact step.inputs.trans ih

/-- Any number of steps in any order keep what holds of a run. -/
theorem reached_sound (answers : analyzer.Answers loads answer root? Holds) {inputs : List SourceInput}
    {state : RunState} {session : Session}
    (admissible : ∀ input ∈ inputs, analyzer.Admissible loads root? tree input)
    (stateSound : StateSound Holds root? tree state)
    (reaches : analyzer.Reaches (.start inputs state) session) :
    session.Sound analyzer loads answer Holds root? tree := by
  induction reaches with
  | refl =>
    refine ⟨stateSound, fun unit member => ?_⟩
    obtain ⟨input, inside, rfl⟩ := List.mem_map.mp member
    exact ⟨admissible input inside, trivial⟩
  | tail _ step ih => exact step.sound answers ih

/-- Whatever the order of the steps and whenever the run is cancelled: a source is abandoned, and then
the run is cancelled, or it ends with its answer. -/
theorem outcomes_sound (answers : analyzer.Answers loads answer root? Holds) {inputs : List SourceInput}
    {outcomes : List (SourceInput × UnitResult)} {state last : RunState}
    (admissible : ∀ input ∈ inputs, analyzer.Admissible loads root? tree input)
    (stateSound : StateSound Holds root? tree state)
    (reaches : analyzer.Reaches (.start inputs state) (.done outcomes last)) :
    StateSound Holds root? tree last ∧ outcomes.map Prod.fst = inputs ∧
      ∀ outcome ∈ outcomes, (outcome.2 = .abandoned ∧ last.token.cancelled = true) ∨
        outcome.2.content = analyzer.ends answer tree outcome.1 := by
  have sound := reached_sound answers admissible stateSound reaches
  refine ⟨sound.state, ?_, fun outcome member => ?_⟩
  · simpa [Session.start, Session.done, Function.comp_def] using inputs_of_reaches reaches
  · exact (sound.units (outcome.1, .finished outcome.2) (List.mem_map.mpr ⟨outcome, member, rfl⟩)).2

/-! ## Runs that nobody cancels -/

/-- The results of a run that is not cancelled, wherever they come from. -/
theorem contents_of_uncancelled {inputs : List SourceInput} {outcomes : List (SourceInput × UnitResult)}
    {ending : SourceInput → UnitResult} {cancelled : Bool} (sameInputs : outcomes.map Prod.fst = inputs)
    (sound : ∀ outcome ∈ outcomes, (outcome.2 = .abandoned ∧ cancelled = true) ∨
      outcome.2.content = ending outcome.1)
    (notCancelled : cancelled = false) :
    (outcomes.map Prod.snd).map UnitResult.content = inputs.map ending := by
  rw [← sameInputs, List.map_map, List.map_map]
  refine List.map_congr_left fun outcome member => ?_
  rcases sound outcome member with ⟨_, isCancelled⟩ | result
  · rw [notCancelled] at isCancelled
    cases isCancelled
  · exact result

theorem atNode_calm (calm : analyzer.registry.Calm) (path : String) (source : SourceContext) (node : Node)
    (position : Position) :
    (Dispatch.atNode (analyzer.routingFor path) source node position).2 = false := by
  have quiet : (analyzer.routingFor path).quiet = analyzer.routingFor path := by
    rw [← routingFor_quiet, Analyzer.quiet, Registry.quiet_eq_of_calm calm]
  rw [← quiet, Dispatch.atNode_quiet]

theorem processUnit_fresh (calm : analyzer.registry.Calm) {state : RunState} (fresh : state.token = .fresh) :
    (analyzer.processUnit input state).2.token = .fresh := by
  obtain ⟨cache, token, current⟩ := state
  obtain rfl : token = .fresh := fresh
  simp only [processUnit, CancelToken.look_fresh]
  split
  · rfl
  · cases input.load current with
    | error cause => rfl
    | ok source =>
      dsimp only
      rcases cache.lookup current (analyzer.keyOf source) with ⟨_ | diagnostics, counted⟩
      · simp only [analyze]
        cases source.parse with
        | error cause => rfl
        | ok parsed => simp only [Dispatch.run_fresh _ _ _ (atNode_calm calm source.path _)]
      · rfl

theorem processAll_fresh (calm : analyzer.registry.Calm) (inputs : List SourceInput) {state : RunState}
    (fresh : state.token = .fresh) : (analyzer.processAll inputs state).2.token = .fresh := by
  induction inputs generalizing state with
  | nil => exact fresh
  | cons input inputs ih => exact ih (processUnit_fresh calm fresh)

end Analyzer

end Lintel
