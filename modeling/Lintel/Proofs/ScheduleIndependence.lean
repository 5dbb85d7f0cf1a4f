import Lintel.Proofs.History

/-!
# The order of the steps does not show

Sources with one key may be answered by the cache in one run and walked in another that takes its steps in
another order. The reports agree nevertheless. A cache in memory never loses what it holds, so what it holds
for a source at first answers for this source throughout, right or wrong; and what it does not hold at first
comes into it only as the result of a source of the run. A cache on disk may lose an entry to another one with
the same digest, and then it matters that the entry was right.
-/

set_option autoImplicit false

namespace Lintel

/-! ## Runs whose cache answers -/

/-- Where the cache answers for the sources of a run, the report is that of taking them one after another. -/
theorem Round.report_agrees_of_answers {round : Round} {loads : Source → Prop}
    {answer : Source → UnitResult} {Holds : Cache → FileTree → Prop}
    (answers : round.analyzer.Answers loads answer (round.start.cache.root? round.start.tree) Holds)
    (covers : ∀ source, round.Loads source → loads source)
    (holds : Holds round.start.cache round.start.tree) (calm : round.analyzer.registry.Calm)
    (fresh : round.start.token = .fresh) (undisturbed : round.last.token = .fresh) :
    round.report.Agrees (round.analyzer.run round.inputs round.start).1 := by
  have admissible : ∀ input ∈ round.inputs, round.analyzer.Admissible loads
      (round.start.cache.root? round.start.tree) round.start.tree input := by
    intro input member
    exact ⟨round.outside input member, fun included source loaded =>
      covers source ⟨input, member, included, loaded⟩⟩
  have start : Analyzer.StateSound Holds (round.start.cache.root? round.start.tree) round.start.tree
      round.start := ⟨holds, .refl _ _⟩
  have contents : ∀ {outcomes : List (SourceInput × UnitResult)} {last : RunState},
      round.analyzer.Reaches (.start round.inputs round.start) (.done outcomes last) →
      last.token = .fresh → (outcomes.map Prod.snd).map UnitResult.content =
        round.inputs.map (round.analyzer.ends answer round.start.tree) := by
    intro outcomes last reaches lastFresh
    obtain ⟨_, sameInputs, sound⟩ := Analyzer.outcomes_sound answers admissible start reaches
    exact Analyzer.contents_of_uncancelled sameInputs sound (congrArg CancelToken.cancelled lastFresh)
  -- taking the sources one after another is one of the orders
  have inOrderFresh : (inOrder round.analyzer round.inputs round.start round.outside).last.token = .fresh :=
    Analyzer.processAll_fresh calm round.inputs fresh
  have here := contents round.reaches undisturbed
  have there := contents (inOrder round.analyzer round.inputs round.start round.outside).reaches inOrderFresh
  rw [← report_inOrder _ _ _ round.outside, report, report, undisturbed, inOrderFresh]
  exact RunReport.ofResults_agrees _ _ (here.trans there.symm)

/-! ## Caches in memory -/

namespace Cache

theorem lookup_congr {first second : Cache} (same : first.store = second.store) (tree : FileTree)
    (key : CacheKey) : (first.lookup tree key).1 = (second.lookup tree key).1 := by
  unfold lookup
  rw [same]
  cases second.store with
  | none => rfl
  | some store =>
    dsimp only
    cases store.load tree key with
    | error cause => rfl
    | ok found => cases found <;> rfl

/-- Storing in a cache that is not on disk loses nothing but what was stored under the very key. -/
theorem put_of_root?_eq_none {cache : Cache} {tree : FileTree} (notOnDisk : cache.root? tree = none)
    (key : CacheKey) (diagnostics : List Diagnostic) :
    ∃ after : Cache, cache.put tree key diagnostics = (after, tree) ∧ after.root? tree = none ∧
      ∀ other, (key = other ∧ (after.lookup tree other).1 = some diagnostics) ∨
        (after.lookup tree other).1 = (cache.lookup tree other).1 := by
  cases enabled : cache.store with
  | none =>
    refine ⟨cache, ?_, notOnDisk, fun other => .inr rfl⟩
    simp only [put, enabled]
  | some store =>
    cases store with
    | disk disk => simp [root?, enabled, CacheStore.root?] at notOnDisk
    | memory memory =>
      refine ⟨{ cache with store := some (.memory (memory.store key diagnostics)) }, ?_, rfl, fun other => ?_⟩
      · simp only [put, enabled, CacheStore.store]
      · simp only [lookup, enabled, CacheStore.load, MemoryCache.load_store]
        by_cases same : key = other
        · exact .inl ⟨same, by rw [if_pos same]⟩
        · rw [if_neg same]
          cases memory.load other with
          | none => exact .inr rfl
          | some found => exact .inr rfl

end Cache

namespace Analyzer

/-- What a source is answered with in a run from a state: what the cache holds for it at first, or else the
result that it has on its own. -/
def answerFrom (analyzer : Analyzer) (start : RunState) (source : Source) : UnitResult :=
  match (start.cache.lookup start.tree (analyzer.keyOf source)).1 with
  | some diagnostics => .dispatched diagnostics
  | none => analyzer.assess source

/-- A cache that is not on disk: it has what it held at first for the sources of a run, and nothing for them
but what they are answered with. -/
structure Extends (analyzer : Analyzer) (loads : Source → Prop) (start : RunState) (cache : Cache)
    (tree : FileTree) : Prop where
  notOnDisk : cache.root? tree = none
  kept : ∀ source, loads source → ∀ diagnostics,
    (start.cache.lookup start.tree (analyzer.keyOf source)).1 = some diagnostics →
      (cache.lookup tree (analyzer.keyOf source)).1 = some diagnostics
  right : ∀ source, loads source → ∀ diagnostics,
    (cache.lookup tree (analyzer.keyOf source)).1 = some diagnostics →
      analyzer.answerFrom start source = .dispatched diagnostics

variable {analyzer : Analyzer} {loads : Source → Prop} {start : RunState} {cache : Cache} {tree : FileTree}

theorem answerFrom_of_held {source : Source} {diagnostics : List Diagnostic}
    (held : (start.cache.lookup start.tree (analyzer.keyOf source)).1 = some diagnostics) :
    analyzer.answerFrom start source = .dispatched diagnostics := by
  rw [answerFrom, held]

theorem extends_start (notOnDisk : start.cache.root? start.tree = none) :
    analyzer.Extends loads start start.cache start.tree where
  notOnDisk := notOnDisk
  kept _ _ _ held := held
  right _ _ _ held := answerFrom_of_held held

/-- Storing what a source is answered with keeps a cache as it has to be, if no other source of the run has
the same key. -/
theorem Extends.put (apart : ∀ source other, loads source → loads other →
      analyzer.keyOf source = analyzer.keyOf other → source = other)
    (extended : analyzer.Extends loads start cache tree) {source : Source} {diagnostics : List Diagnostic}
    (isLoaded : loads source) (isAnswer : analyzer.answerFrom start source = .dispatched diagnostics) :
    ∃ after : Cache, cache.put tree (analyzer.keyOf source) diagnostics = (after, tree) ∧
      analyzer.Extends loads start after tree := by
  obtain ⟨after, isAfter, notOnDisk, lookups⟩ := Cache.put_of_root?_eq_none extended.notOnDisk
    (analyzer.keyOf source) diagnostics
  refine ⟨after, isAfter, notOnDisk, ?_, ?_⟩
  · intro other otherLoaded found held
    rcases lookups (analyzer.keyOf other) with ⟨sameKey, stored⟩ | unchanged
    · -- the source itself: it was answered with what is stored now
      obtain rfl := apart source other isLoaded otherLoaded sameKey
      have answered := answerFrom_of_held held
      rw [isAnswer] at answered
      cases answered
      exact stored
    · rw [unchanged]
      exact extended.kept other otherLoaded found held
  · intro other otherLoaded found held
    rcases lookups (analyzer.keyOf other) with ⟨sameKey, stored⟩ | unchanged
    · obtain rfl := apart source other isLoaded otherLoaded sameKey
      rw [stored] at held
      cases held
      exact isAnswer
    · rw [unchanged] at held
      exact extended.right other otherLoaded found held

theorem answers_of_apart (root? : Option Location) (apart : ∀ source other, loads source → loads other →
      analyzer.keyOf source = analyzer.keyOf other → source = other) :
    analyzer.Answers loads (analyzer.answerFrom start) root? (analyzer.Extends loads start) where
  found extended isLoaded found := extended.right _ isLoaded _ found
  missed {cache tree source} extended isLoaded missed := by
    cases held : (start.cache.lookup start.tree (analyzer.keyOf source)).1 with
    | none => rw [answerFrom, held]
    | some diagnostics =>
      rw [extended.kept source isLoaded diagnostics held] at missed
      cases missed
  counted {cache tree source} extended := by
    have same := Cache.store_lookup cache tree (analyzer.keyOf source)
    refine ⟨?_, ?_, ?_⟩
    · rw [Cache.root?, same]
      exact extended.notOnDisk
    · intro other otherLoaded diagnostics held
      rw [Cache.lookup_congr same]
      exact extended.kept other otherLoaded diagnostics held
    · intro other otherLoaded diagnostics held
      rw [Cache.lookup_congr same] at held
      exact extended.right other otherLoaded diagnostics held
  stored extended isLoaded isAnswer _ := by
    obtain ⟨after, isAfter, extends'⟩ := extended.put apart isLoaded isAnswer
    rw [isAfter]
    exact ⟨extends', .refl _ _⟩

end Analyzer

/-! ## Any order -/

/-- Sources of a run with one key are one source if digests tell their texts apart. -/
theorem Round.eq_of_keyOf_eq {round : Round} (separates : Digest.Separates (sourceTexts [round]))
    {source other : Source} (loaded : round.Loads source) (otherLoaded : round.Loads other)
    (sameKey : round.analyzer.keyOf source = round.analyzer.keyOf other) : source = other := by
  simp only [Analyzer.keyOf, CacheKey.mk.injEq] at sameKey
  obtain ⟨samePath, sameDigest, _⟩ := sameKey
  have sameText := separates source.text other.text ⟨round, List.mem_singleton_self _, source, loaded, rfl⟩
    ⟨round, List.mem_singleton_self _, other, otherLoaded, rfl⟩ sameDigest
  cases source
  cases other
  simp_all

/-- What a run on disk starts from. -/
theorem OnDisk.before {root : Location} {round : Round} {earlier : List Round} {tree : FileTree}
    (history : OnDisk root (round :: earlier) tree) :
    OnDisk root earlier round.start.tree ∧ round.start.cache.WorksAt root round.start.tree := by
  generalize isRounds : round :: earlier = rounds at history
  induction history with
  | start => cases isRounds
  | edit _ _ ih => exact ih isRounds
  | run other history works =>
    cases isRounds
    exact ⟨history, works⟩

/-- The order of the steps of a run does not show in its report. Without a cache or with one in memory, whatever
it holds, this needs no more than digests that tell the sources of the run apart. With a cache on disk, which
earlier runs of the analyzer may have filled, digests have to tell their sources apart as well, and the sources of
all of them are read outside the directory of the cache (`Round.outside`). -/
theorem report_independent_of_order {round : Round} {earlier : List Round}
    (calm : round.analyzer.registry.Calm) (fresh : round.start.token = .fresh)
    (undisturbed : round.last.token = .fresh) (sources : Digest.Separates (sourceTexts [round]))
    (onDisk : round.start.cache.root? round.start.tree ≠ none →
      (∃ root tree, OnDisk root (round :: earlier) tree) ∧
        (∀ other ∈ earlier, other.analyzer = round.analyzer) ∧
          Digest.Separates (sourceTexts (round :: earlier))) :
    round.report.Agrees (round.analyzer.run round.inputs round.start).1 := by
  by_cases inMemory : round.start.cache.root? round.start.tree = none
  · exact Round.report_agrees_of_answers
      (Analyzer.answers_of_apart _ fun _ _ loaded otherLoaded => Round.eq_of_keyOf_eq sources loaded otherLoaded)
      (fun _ loaded => loaded) (Analyzer.extends_start inMemory) calm fresh undisturbed
  · obtain ⟨⟨root, tree, history⟩, sameAnalyzer, separates⟩ := onDisk inMemory
    have same : ∀ other ∈ round :: earlier, other.analyzer = round.analyzer := by
      intro other member
      rcases List.mem_cons.mp member with rfl | before
      · rfl
      · exact sameAnalyzer other before
    have tells : TellsApart (knownOf (round :: earlier)) := by
      refine tellsApart_knownOf separates fun first firstMember second secondMember _ source => ?_
      rw [same first firstMember, same second secondMember]
    obtain ⟨before, works⟩ := history.before
    have loads : ∀ other ∈ earlier, ∀ source, other.Loads source →
        knownOf (round :: earlier) other.analyzer source :=
      fun other member source loaded => ⟨other, List.mem_cons_of_mem _ member, rfl, loaded⟩
    obtain ⟨holds, _⟩ := before.sound tells loads
    exact Round.report_agrees_of_answers (Analyzer.answers_of_tellsApart tells _)
      (fun source loaded => ⟨round, List.mem_cons_self, rfl, loaded⟩) ⟨works.keeps holds, rfl⟩ calm fresh
      undisturbed

section Instance

namespace Analyzer

/-- Takes one source of a run a step further. -/
def Session.advanceAt (analyzer : Analyzer) (index : Nat) (session : Session) : Session :=
  match session.units[index]? with
  | none => session
  | some (input, stage) =>
    let (next, state) := analyzer.advance input session.state stage
    ⟨session.units.set index (input, next), state⟩

/-- Takes steps in the order that a list of sources says. -/
def Session.takeTurns (analyzer : Analyzer) (order : List Nat) (session : Session) : Session :=
  order.foldl (fun session index => session.advanceAt analyzer index) session

def Stage.result? : Stage → Option UnitResult
  | .finished result => some result
  | _ => none

/-- The results of the sources that are done. -/
def Session.outcomes (session : Session) : List (SourceInput × UnitResult) :=
  session.units.filterMap fun unit => unit.2.result?.map (unit.1, ·)

theorem reaches_advanceAt (analyzer : Analyzer) (index : Nat) (session : Session) :
    analyzer.Reaches session (session.advanceAt analyzer index) := by
  unfold Session.advanceAt
  split
  · exact .refl
  · rename_i input stage found
    obtain ⟨units, state⟩ := session
    obtain ⟨inside, isUnit⟩ := List.getElem?_eq_some_iff.mp found
    have split : units = units.take index ++ (input, stage) :: units.drop (index + 1) := by
      rw [← isUnit, List.getElem_cons_drop, List.take_append_drop]
    have step : analyzer.Step _ _ := .unit (units.take index) (units.drop (index + 1)) input stage state
    rw [← split] at step
    have replaced : units.set index (input, (analyzer.advance input state stage).1) =
        units.take index ++ (input, (analyzer.advance input state stage).1) :: units.drop (index + 1) :=
      List.set_eq_take_append_cons_drop.trans (if_pos inside)
    dsimp only
    rw [replaced]
    exact .single step

theorem reaches_takeTurns (analyzer : Analyzer) (order : List Nat) (session : Session) :
    analyzer.Reaches session (session.takeTurns analyzer order) := by
  induction order generalizing session with
  | nil => exact .refl
  | cons index order ih => exact (reaches_advanceAt analyzer index session).trans (ih _)

private theorem eq_done {units : List (SourceInput × Stage)} {state : RunState}
    (finished : (units.all fun unit => unit.2.result?.isSome) = true) :
    (⟨units, state⟩ : Session) = .done (Session.outcomes ⟨units, state⟩) state := by
  refine congrArg (fun units => Session.mk units state) ?_
  induction units with
  | nil => rfl
  | cons unit units ih =>
    obtain ⟨input, stage⟩ := unit
    rw [List.all_cons, Bool.and_eq_true] at finished
    cases stage with
    | finished result => exact congrArg (List.cons (input, .finished result)) (ih finished.2)
    | _ => cases finished.1

/-- Turns at the end of which all sources are done. -/
theorem reaches_done {analyzer : Analyzer} {start session : Session} (reaches : analyzer.Reaches start session)
    (finished : (session.units.all fun unit => unit.2.result?.isSome) = true) :
    analyzer.Reaches start (.done session.outcomes session.state) := by
  obtain ⟨units, state⟩ := session
  rw [← eq_done finished]
  exact reaches

end Analyzer

private def usual : Analyzer :=
  ⟨.builtin, ⟨Config.initialRules .builtin {}, [], [], .information, .error⟩⟩

private def twice : List SourceInput := List.replicate 2 (.given ⟨"a.py", "eval(x)\n"⟩)

private def onEmptyCache : RunState := ⟨.memory, .fresh, ⟨[], []⟩⟩

/-- A run over one source that is given twice, which takes the steps of the two in turn. -/
private def inTurn : Analyzer.Session :=
  (Analyzer.Session.start twice onEmptyCache).takeTurns usual (List.replicate 9 [0, 1]).flatten

private theorem finished_inTurn : (inTurn.units.all fun unit => unit.2.result?.isSome) = true := by
  decide +kernel

/-- The same run with what it starts from and what it leaves. -/
def roundInTurn : Round where
  analyzer := usual
  inputs := twice
  start := onEmptyCache
  outcomes := inTurn.outcomes
  last := inTurn.state
  reaches := Analyzer.reaches_done (Analyzer.reaches_takeTurns usual _ _) finished_inTurn
  outside := by
    intro input member
    obtain rfl := List.eq_of_mem_replicate member
    trivial

private theorem text_roundInTurn {source : Source} (loads : roundInTurn.Loads source) :
    source.text = "eval(x)\n" := by
  obtain ⟨input, inside, _, loaded⟩ := loads
  obtain rfl := List.eq_of_mem_replicate inside
  cases loaded
  rfl

private theorem fresh_roundInTurn : roundInTurn.last.token = .fresh := by
  decide +kernel

private theorem dispatched_roundInTurn : roundInTurn.report.stats.dispatched = 2 := by
  decide +kernel

end Instance

/-- Two sources with one key, both of which ask the cache before either has stored its result. -/
theorem report_independent_of_order_in_turn :
    roundInTurn.report.stats.dispatched = 2 ∧
      roundInTurn.report.Agrees (roundInTurn.analyzer.run roundInTurn.inputs roundInTurn.start).1 := by
  have sources : Digest.Separates (sourceTexts [roundInTurn]) := by
    rintro _ _ ⟨round, member, source, loaded, rfl⟩ ⟨other, otherMember, text, otherLoaded, rfl⟩ _
    obtain rfl := List.mem_singleton.mp member
    obtain rfl := List.mem_singleton.mp otherMember
    rw [text_roundInTurn loaded, text_roundInTurn otherLoaded]
  have inMemory : roundInTurn.start.cache.root? roundInTurn.start.tree = none := rfl
  refine ⟨dispatched_roundInTurn, ?_⟩
  exact @report_independent_of_order roundInTurn [] Registry.calm_builtin rfl fresh_roundInTurn sources
    fun onDisk => absurd inMemory onDisk

end Lintel
