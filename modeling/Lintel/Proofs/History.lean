import Lintel.Proofs.Schedule

/-!
# Runs that share a cache

A history of runs one after another over one cache: in a directory to which only these runs write files,
or in memory. Every run of a history finds only right results in the cache, and leaves only right results
there. So each of its sources is abandoned, because the run is cancelled, or ends with the result that it
has on its own.
-/

set_option autoImplicit false

namespace Lintel

/-! ## Runs -/

/-- A run, its steps taken in some order, with what it starts from and what it leaves. A file among its inputs is
read outside the place of its cache: what the run stores does not turn up as a source. This asks nothing of a run
whose cache is in memory or keeps nothing, and nothing of the inputs that are given as text. -/
structure Round where
  analyzer : Analyzer
  inputs : List SourceInput
  start : RunState
  outcomes : List (SourceInput × UnitResult)
  last : RunState
  reaches : analyzer.Reaches (.start inputs start) (.done outcomes last)
  outside : ∀ input ∈ inputs, input.Outside (start.cache.root? start.tree) start.tree

namespace Round

/-- The report of a run. The run is complete unless it is found cancelled at its end. -/
def report (round : Round) : RunReport :=
  .ofResults round.analyzer.config.failThreshold (round.outcomes.map Prod.snd) (!round.last.token.look.1)

/-- The run that takes its sources one after another. -/
def inOrder (analyzer : Analyzer) (inputs : List SourceInput) (state : RunState)
    (outside : ∀ input ∈ inputs, input.Outside (state.cache.root? state.tree) state.tree) : Round where
  analyzer := analyzer
  inputs := inputs
  start := state
  outcomes := analyzer.outcomesOf inputs state
  last := (analyzer.processAll inputs state).2
  reaches := analyzer.reaches_processAll inputs state
  outside := outside

theorem report_inOrder (analyzer : Analyzer) (inputs : List SourceInput) (state : RunState)
    (outside : ∀ input ∈ inputs, input.Outside (state.cache.root? state.tree) state.tree) :
    (inOrder analyzer inputs state outside).report = (analyzer.run inputs state).1 := by
  simp only [report, inOrder, Analyzer.results_outcomesOf]
  rfl

/-- The sources that a run looks up in its cache if nobody cancels it. -/
def Loads (round : Round) (source : Source) : Prop :=
  ∃ input ∈ round.inputs, round.analyzer.config.isExcluded input.path = false ∧
    input.load round.start.tree = .ok source

/-- What holds of a run whose cache keeps to right results: its sources are abandoned, because the run is
cancelled, or end with the results that they have on their own, and the cache keeps to right results. -/
structure Sound (known : KnownSources) (round : Round) : Prop where
  inputs : round.outcomes.map Prod.fst = round.inputs
  outcomes : ∀ outcome ∈ round.outcomes,
    (outcome.2 = .abandoned ∧ round.last.token.cancelled = true) ∨
      outcome.2.content = round.analyzer.alone round.start.tree outcome.1
  keeps : round.last.cache.Keeps (Stands known) round.last.tree

/-- A run that finds only right results in its cache is sound. Besides its token it changes the place of
its cache only. -/
theorem sound_of_keeps {known : KnownSources} (tells : TellsApart known) (round : Round)
    (loads : ∀ source, round.Loads source → known round.analyzer source)
    (keeps : round.start.cache.Keeps (Stands known) round.start.tree) :
    round.Sound known ∧
      round.last.cache.root? round.last.tree = round.start.cache.root? round.start.tree ∧
      FileTree.AgreeOutside (round.start.cache.root? round.start.tree) round.start.tree
        round.last.tree := by
  have admissible : ∀ input ∈ round.inputs, round.analyzer.Admissible (known round.analyzer)
      (round.start.cache.root? round.start.tree) round.start.tree input := by
    intro input member
    exact ⟨round.outside input member, fun included source loaded =>
      loads source ⟨input, member, included, loaded⟩⟩
  obtain ⟨⟨⟨kept, sameRoot⟩, agree⟩, inputs, outcomes⟩ := Analyzer.outcomes_sound
    (Analyzer.answers_of_tellsApart tells _) admissible ⟨⟨keeps, rfl⟩, .refl _ _⟩ round.reaches
  exact ⟨⟨inputs, outcomes, kept⟩, sameRoot, agree⟩

/-- The results of a sound run that is not cancelled, wherever they come from. -/
theorem Sound.results {known : KnownSources} {round : Round} (sound : round.Sound known)
    (notCancelled : round.last.token.cancelled = false) :
    (round.outcomes.map Prod.snd).map UnitResult.content =
      round.inputs.map (round.analyzer.alone round.start.tree) :=
  Analyzer.contents_of_uncancelled sound.inputs sound.outcomes notCancelled

/-- A sound run that is not cancelled reports what it would report without a cache and without the
requests of its rules. -/
theorem Sound.report_agrees {known : KnownSources} {round : Round} (sound : round.Sound known)
    (completed : round.report.completed = true) :
    round.report.Agrees (round.analyzer.quiet.run round.inputs ⟨.disabled, .fresh, round.start.tree⟩).1 := by
  have looked : round.last.token.look.1 = false := by simpa [report, RunReport.ofResults] using completed
  rw [Analyzer.run_quiet, report, looked, Bool.not_false]
  refine RunReport.ofResults_agrees _ true ?_
  rw [sound.results (CancelToken.cancelled_of_look looked), List.map_map]
  exact List.map_congr_left fun input _ => (round.analyzer.content_alone round.start.tree input).symm

end Round

/-! ## Histories -/

/-- A cache that works in the directory at a place, which is still there. A cache that keeps nothing works
everywhere. -/
def Cache.WorksAt (cache : Cache) (root : Location) (tree : FileTree) : Prop :=
  ∀ store, cache.store = some store → ∃ disk, store = .disk disk ∧
    DiskCache.Usable tree disk.directory ∧ tree.placeOf disk.directory = root

/-- No file below a root is new or has changed. -/
def FileTree.AddsNothing (root : Location) (before after : FileTree) : Prop :=
  ∀ place content, Below root place → after.entryAt? place = some (.file content) →
    before.entryAt? place = some (.file content)

/-- Runs, the latest first, with caches in the directory at one place, and the tree that they leave.
There is no file below this place at first, and nobody else puts one there. Apart from that, anything may
happen to the tree between two runs. -/
inductive OnDisk (root : Location) : List Round → FileTree → Prop where
  | start {tree : FileTree} : (∀ place content, FileTree.Below root place →
      tree.entryAt? place ≠ some (.file content)) → OnDisk root [] tree
  | edit {rounds : List Round} {tree other : FileTree} : OnDisk root rounds tree →
      FileTree.AddsNothing root tree other → OnDisk root rounds other
  | run {rounds : List Round} (round : Round) : OnDisk root rounds round.start.tree →
      round.start.cache.WorksAt root round.start.tree → OnDisk root (round :: rounds) round.last.tree

/-- Runs, the latest first, with one cache in memory, and the cache as they leave it. Anything may happen
to the tree between two runs. -/
inductive InMemory : List Round → Cache → Prop where
  | start : InMemory [] .memory
  | run {rounds : List Round} (round : Round) : InMemory rounds round.start.cache →
      InMemory (round :: rounds) round.last.cache

/-- Runs, the latest first, that share a cache which was empty at first. -/
def ShareCache (rounds : List Round) : Prop :=
  (∃ root tree, OnDisk root rounds tree) ∨ ∃ cache, InMemory rounds cache

theorem Cache.worksAt_of_disk {tree start : FileTree} {directory : String} {processId : Nat} {cache : Cache}
    (opened : Cache.disk tree directory processId = (cache, start)) :
    cache.WorksAt (start.placeOf directory) start := by
  rw [Cache.disk] at opened
  split at opened
  · rename_i disk made isOpen
    cases opened
    rintro store isStore
    cases isStore
    obtain ⟨same, _⟩ := DiskCache.openAt_eq_ok isOpen
    exact ⟨disk, rfl, DiskCache.usable_of_openAt isOpen, by rw [same]⟩
  · cases opened
    rintro store isStore
    cases isStore

/-- Opening a cache on disk makes directories only. -/
theorem Cache.addsNothing_of_disk {tree start : FileTree} {directory : String} {processId : Nat}
    {cache : Cache} (root : Location) (opened : Cache.disk tree directory processId = (cache, start)) :
    FileTree.AddsNothing root tree start := by
  have made : (tree.createDirectories directory).2 = start := by
    rw [Cache.disk, DiskCache.openAt] at opened
    generalize tree.createDirectories directory = result at opened ⊢
    rcases result with ⟨_ | _, after⟩
    · exact congrArg Prod.snd opened
    · exact congrArg Prod.snd opened
  intro place content _ found
  rw [← made] at found
  exact FileTree.file_of_createDirectories found

section Invariant

variable {known : KnownSources}

theorem FileTree.HoldsOnly.of_addsNothing {root : Location} {tree other : FileTree}
    {good : ByteArray → Prop} (holds : tree.HoldsOnly root good)
    (addsNothing : FileTree.AddsNothing root tree other) : other.HoldsOnly root good :=
  fun place content below found => holds place content below (addsNothing place content below found)

theorem Cache.WorksAt.keeps {cache : Cache} {root : Location} {tree : FileTree}
    {truth : CacheKey → List Diagnostic → Prop} (works : cache.WorksAt root tree)
    (holds : tree.HoldsOnly root (CacheEntry.Right truth)) : cache.Keeps truth tree := by
  intro store isStore
  obtain ⟨disk, rfl, usable, place⟩ := works store isStore
  exact ⟨usable, place ▸ holds⟩

theorem Cache.WorksAt.root?_cases {cache : Cache} {root : Location} {tree : FileTree}
    (works : cache.WorksAt root tree) : cache.root? tree = none ∨ cache.root? tree = some root := by
  cases enabled : cache.store with
  | none => exact .inl (by simp [root?, enabled])
  | some store =>
    obtain ⟨disk, rfl, _, place⟩ := works store enabled
    exact .inr (by simp [root?, enabled, CacheStore.root?, place])

theorem Cache.Keeps.holdsOnly {cache : Cache} {root : Location} {tree : FileTree}
    {truth : CacheKey → List Diagnostic → Prop} (keeps : cache.Keeps truth tree)
    (isRoot : cache.root? tree = some root) : tree.HoldsOnly root (CacheEntry.Right truth) := by
  cases enabled : cache.store with
  | none => simp [root?, enabled] at isRoot
  | some store =>
    have kept := keeps store enabled
    cases store with
    | memory memory => simp [root?, enabled, CacheStore.root?] at isRoot
    | disk disk =>
      have samePlace : tree.placeOf disk.directory = root := by
        simpa [root?, enabled, CacheStore.root?] using isRoot
      exact samePlace ▸ kept.2

/-- Every run of a history on disk is sound, and the history leaves only right results in the directory. -/
theorem OnDisk.sound {root : Location} {rounds : List Round} {tree : FileTree} (tells : TellsApart known)
    (history : OnDisk root rounds tree)
    (loads : ∀ round ∈ rounds, ∀ source, round.Loads source → known round.analyzer source) :
    tree.HoldsOnly root (CacheEntry.Right (Stands known)) ∧ ∀ round ∈ rounds, round.Sound known := by
  induction history with
  | start empty =>
    exact ⟨fun place content below found => absurd found (empty place content below),
      fun _ member => absurd member List.not_mem_nil⟩
  | edit _ addsNothing ih => exact ⟨(ih loads).1.of_addsNothing addsNothing, (ih loads).2⟩
  | run round _ works ih =>
    obtain ⟨holds, earlier⟩ := ih fun other member => loads other (List.mem_cons_of_mem _ member)
    obtain ⟨sound, sameRoot, agree⟩ := round.sound_of_keeps tells (loads round List.mem_cons_self)
      (works.keeps holds)
    refine ⟨?_, fun other member => ?_⟩
    · rcases works.root?_cases with isRoot | isRoot
      · -- without a cache the tree is as it was
        rw [isRoot] at agree
        have anywhere : ∀ place root, (none : Option Location) = some root → ¬ FileTree.Below root place := by
          intro place root isRoot
          cases isRoot
        intro place content below found
        rw [agree.outside place (anywhere place)] at found
        exact holds place content below found
      · exact sound.keeps.holdsOnly (sameRoot.trans isRoot)
    · rcases List.mem_cons.mp member with rfl | before
      · exact sound
      · exact earlier other before

/-- A cache that is not on disk does not depend on the tree. -/
theorem Cache.Keeps.of_root?_eq_none {cache : Cache} {tree : FileTree}
    {truth : CacheKey → List Diagnostic → Prop} (keeps : cache.Keeps truth tree)
    (notOnDisk : cache.root? tree = none) (other : FileTree) :
    cache.Keeps truth other ∧ cache.root? other = none := by
  cases enabled : cache.store with
  | none => exact ⟨fun store isStore => by simp [enabled] at isStore, by simp [root?, enabled]⟩
  | some store =>
    cases store with
    | memory memory =>
      refine ⟨fun store isStore => ?_, by simp [root?, enabled, CacheStore.root?]⟩
      rw [enabled] at isStore
      cases isStore
      exact keeps _ enabled
    | disk disk => simp [root?, enabled, CacheStore.root?] at notOnDisk

theorem InMemory.sound {rounds : List Round} {cache : Cache} (tells : TellsApart known)
    (history : InMemory rounds cache)
    (loads : ∀ round ∈ rounds, ∀ source, round.Loads source → known round.analyzer source) :
    (∀ tree, cache.Keeps (Stands known) tree ∧ cache.root? tree = none) ∧
      ∀ round ∈ rounds, round.Sound known := by
  induction history with
  | start => exact ⟨fun tree => ⟨Cache.keeps_memory _ tree, rfl⟩, fun _ member => absurd member List.not_mem_nil⟩
  | run round _ ih =>
    obtain ⟨keeps, earlier⟩ := ih fun other member => loads other (List.mem_cons_of_mem _ member)
    obtain ⟨sound, sameRoot, _⟩ := round.sound_of_keeps tells (loads round List.mem_cons_self)
      (keeps round.start.tree).1
    refine ⟨sound.keeps.of_root?_eq_none (sameRoot.trans (keeps round.start.tree).2), fun other member => ?_⟩
    rcases List.mem_cons.mp member with rfl | before
    · exact sound
    · exact earlier other before

end Invariant

/-! ## The texts that are hashed -/

/-- No two different texts among the given ones have one digest. -/
def Digest.Separates (hashed : String → Prop) : Prop :=
  ∀ first second, hashed first → hashed second →
    sha256OfString first = sha256OfString second → first = second

/-- The texts of the sources of some runs. -/
def sourceTexts (rounds : List Round) (text : String) : Prop :=
  ∃ round ∈ rounds, ∃ source, round.Loads source ∧ source.text = text

/-- The texts that show the configurations of some runs. -/
def viewTexts (rounds : List Round) (text : String) : Prop :=
  ∃ round ∈ rounds, round.analyzer.config.view.compactText = text

/-- The sources that the analyzers of some runs have to do with. -/
def knownOf (rounds : List Round) : KnownSources :=
  fun analyzer source => ∃ round ∈ rounds, round.analyzer = analyzer ∧ round.Loads source

/-- Keys tell the sources of some runs apart if digests do, and if one digest of configurations means one
result for each source. -/
theorem tellsApart_knownOf {rounds : List Round} (separates : Digest.Separates (sourceTexts rounds))
    (sameResults : ∀ first ∈ rounds, ∀ second ∈ rounds,
      first.analyzer.config.fingerprint = second.analyzer.config.fingerprint →
        ∀ source, first.analyzer.assess source = second.analyzer.assess source) :
    TellsApart (knownOf rounds) := by
  rintro _ source _ other ⟨first, firstMember, rfl, firstLoads⟩ ⟨second, secondMember, rfl, secondLoads⟩ sameKey
  simp only [Analyzer.keyOf, CacheKey.mk.injEq] at sameKey
  obtain ⟨samePath, sameText, sameConfig, _⟩ := sameKey
  have text := separates source.text other.text ⟨first, firstMember, source, firstLoads, rfl⟩
    ⟨second, secondMember, other, secondLoads, rfl⟩ sameText
  have same : source = other := by
    cases source
    cases other
    simp_all
  rw [same]
  exact sameResults first firstMember second secondMember sameConfig other

/-- Every run that shares a cache with others is sound. -/
theorem ShareCache.sound {rounds : List Round} (tells : TellsApart (knownOf rounds))
    (shared : ShareCache rounds) : ∀ round ∈ rounds, round.Sound (knownOf rounds) := by
  have loads : ∀ round ∈ rounds, ∀ source, round.Loads source → knownOf rounds round.analyzer source :=
    fun round member source loaded => ⟨round, member, rfl, loaded⟩
  rcases shared with ⟨root, tree, history⟩ | ⟨cache, history⟩
  · exact (history.sound tells loads).2
  · exact (history.sound tells loads).2

end Lintel
