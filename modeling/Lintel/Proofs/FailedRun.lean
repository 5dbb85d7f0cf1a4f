import Lintel.CommandLine
import Lintel.Proofs.RunTree
import Lintel.Proofs.Stages

/-!
# Runs that fail

What a run leaves behind that ends without a decision of the gate. Arguments, the profile and the configuration
are looked at before anything is written. The cache is opened before the target is looked for and the workers are
started, so a run that fails there leaves the directory of the cache behind, and nothing else. A report that
cannot be written is there only after its sources have been analyzed, and then the cache has their results.
-/

set_option autoImplicit false

namespace Lintel

namespace FileTree

private theorem start_mem_placesFrom (current : Location) (pieces : List String) :
    current ∈ placesFrom current pieces := by
  cases pieces <;> exact List.mem_cons_self

/-- Directories are made on the way and nowhere else. -/
theorem createFrom_elsewhere (tree : FileTree) (current : Location) (pieces : List String) {place : Location}
    (elsewhere : place ∉ placesFrom current pieces) :
    (tree.createFrom current pieces).2.entryAt? place = tree.entryAt? place := by
  induction pieces generalizing tree current with
  | nil => rfl
  | cons piece pieces ih =>
    have later : place ∉ placesFrom (advance current piece) pieces :=
      fun member => elsewhere (List.mem_cons_of_mem _ member)
    rw [createFrom]
    split
    · rfl
    · rename_i next stepped
      obtain ⟨-, rfl⟩ := step_eq_ok_iff.mp stepped
      split
      · rename_i missing
        have proper := ne_nil_of_missing missing
        have other : place ≠ advance current piece :=
          fun same => later (same ▸ start_mem_placesFrom _ _)
        rw [ih _ _ later, tree.entryAt?_put proper, if_neg other]
      · exact ih _ _ later
      · rfl

theorem createDirectories_elsewhere (tree : FileTree) (path : String) {place : Location}
    (elsewhere : place ∉ tree.placesOn path) :
    (tree.createDirectories path).2.entryAt? place = tree.entryAt? place := by
  rw [createDirectories]
  split
  · rfl
  · exact tree.createFrom_elsewhere _ _ elsewhere

end FileTree

/-- Discovery fails only if there is nothing at the target. -/
theorem Discovery.lookup_of_discover {tree : FileTree} {target : String} {cause : FileError}
    (failed : discover tree target = .error cause) : tree.lookup target = .error cause := by
  rcases bind_eq_error failed with missing | ⟨entry, found, failed⟩
  · exact missing
  · -- what was looked up has been located
    obtain ⟨place, located, -⟩ := bind_eq_ok found
    cases entry with
    | file content => cases failed
    | directory =>
      rcases bind_eq_error failed with lost | ⟨root, -, failed⟩
      · rw [located] at lost
        cases lost
      · cases failed

theorem GateOutcome.exitCode_ne_errorExitCode (outcome : GateOutcome) :
    outcome.exitCode ≠ CommandLine.errorExitCode := by
  cases outcome <;> decide

namespace CommandLine

variable {environment : Environment} {registry : Registry} {config : Config} {invocation : Invocation}
  {failure : Failure}

/-! ## What an analysis starts from -/

/-- The state of a run when its cache has been opened. -/
def startOf (environment : Environment) (invocation : Invocation) : RunState :=
  let opened := openCache environment.tree invocation environment.processId
  ⟨opened.1, environment.token, opened.2⟩

theorem startOf_uncached (keeps : invocation.clearCache = false) (uncached : invocation.noCache = true) :
    startOf environment invocation = ⟨.disabled, environment.token, environment.tree⟩ := by
  simp [startOf, openCache, keeps, uncached]

/-- Without clearing, opening the cache makes its directory and does nothing else. -/
theorem tree_startOf_cached (keeps : invocation.clearCache = false) (caches : invocation.noCache = false) :
    (startOf environment invocation).tree =
      (environment.tree.createDirectories (cacheDirectory environment.tree invocation)).2 := by
  simp only [startOf, openCache, keeps, caches, Bool.false_eq_true, if_false, Cache.disk, DiskCache.openAt]
  cases environment.tree.createDirectories (cacheDirectory environment.tree invocation) with
  | mk result made => cases result <;> rfl

/-- The cache of a run works, and what it changes is below its directory. -/
theorem works_startOf (keeps : invocation.clearCache = false) :
    (startOf environment invocation).cache.Works (startOf environment invocation).tree ∧
      ∀ root, (startOf environment invocation).cache.root? (startOf environment invocation).tree = some root →
        root = environment.tree.placeOf (cacheDirectory environment.tree invocation) := by
  cases caches : invocation.noCache with
  | true =>
    rw [startOf_uncached keeps caches]
    exact ⟨nofun, nofun⟩
  | false =>
    have isDisk : Cache.disk environment.tree (cacheDirectory environment.tree invocation) environment.processId =
        ((startOf environment invocation).cache, (startOf environment invocation).tree) := by
      simp [startOf, openCache, keeps, caches]
    obtain ⟨works, isRoot⟩ := Cache.works_of_disk isDisk
    refine ⟨works, fun root found => (isRoot root found).trans (FileTree.placeOf_congr ?_ _)⟩
    rw [tree_startOf_cached keeps caches]
    exact (environment.tree.grows_createDirectories _).home

/-! ## How an analysis fails -/

/-- The ways in which an analysis ends without a decision of the gate, and the trees that it leaves. -/
inductive Stops (environment : Environment) (analyzer : Analyzer) (invocation : Invocation) (start : RunState) :
    Failure → FileTree → Prop where
  | target {cause : FileError} : start.tree.lookup invocation.path = .error cause →
      Stops environment analyzer invocation start (.analyzer (.target invocation.path cause)) start.tree
  | workers {complaint : String} : environment.workerFault invocation.jobs = some complaint →
      Stops environment analyzer invocation start (.analyzer (.workers complaint)) start.tree
  | report {inputs : List SourceInput} {complaint : String} : invocation.format = .json →
      environment.reportFault (analyzer.run inputs start).1 = some complaint →
      Stops environment analyzer invocation start (.report complaint) (analyzer.run inputs start).2.tree

theorem render_eq_error {format : Format} {report : RunReport}
    (failed : render environment format report = .error failure) :
    format = .json ∧ ∃ complaint, failure = .report complaint ∧ environment.reportFault report = some complaint := by
  unfold render at failed
  cases format with
  | text => cases failed
  | json =>
    dsimp only at failed
    cases fault : environment.reportFault report with
    | none =>
      rw [fault] at failed
      cases failed
    | some complaint =>
      rw [fault] at failed
      cases failed
      exact ⟨rfl, complaint, rfl, rfl⟩

/-- An analysis ends with a decision of the gate, or in one of these ways. -/
theorem analyze_cases (environment : Environment) (registry : Registry) (config : Config) (invocation : Invocation) :
    (∃ gate : GateOutcome, (analyze environment registry config invocation).result = .ok gate.exitCode) ∨
      ∃ failure, (analyze environment registry config invocation).result = .error failure ∧
        Stops environment ⟨registry, config⟩ invocation (startOf environment invocation) failure
          (analyze environment registry config invocation).tree := by
  unfold startOf analyze
  generalize openCache environment.tree invocation environment.processId = opened
  obtain ⟨cache, tree⟩ := opened
  dsimp only
  cases discovered : Discovery.discover tree invocation.path with
  | error cause =>
    right
    simp only [Analyzer.runTarget, discovered]
    exact ⟨_, rfl, .target (Discovery.lookup_of_discover discovered)⟩
  | ok files =>
    cases atWork : environment.workerFault invocation.jobs with
    | some complaint =>
      right
      simp only [Analyzer.runTarget, discovered]
      exact ⟨_, rfl, .workers atWork⟩
    | none =>
      simp only [Analyzer.runTarget, discovered]
      cases rendered : render environment invocation.format
          (Analyzer.run ⟨registry, config⟩ (files.map .file) ⟨cache, environment.token, tree⟩).1 with
      | ok text => exact .inl ⟨_, rfl⟩
      | error failure =>
        right
        obtain ⟨isJson, complaint, rfl, unwritten⟩ := render_eq_error rendered
        exact ⟨_, rfl, .report isJson unwritten⟩

/-! ## What a failed run leaves -/

/-- Whether a failure comes before any source is analyzed. -/
def Failure.isEarly : Failure → Bool
  | .report _ => false
  | .usage _ | .config _ | .analyzer _ => true

/-- A run that made the directory of the cache before its target turned out to be unreadable, or its workers could
not be started. -/
structure MadeCacheDirectory (environment : Environment) (invocation : Invocation) (failure : Failure)
    (after : FileTree) : Prop where
  accepted : ∃ config, resolveConfig environment.tree .builtin invocation = .ok config
  analyzes : invocation.listRules = false
  caches : invocation.noCache = false
  stopped : (∃ cause, failure = .analyzer (.target invocation.path cause) ∧
      after.lookup invocation.path = .error cause) ∨
    ∃ complaint, failure = .analyzer (.workers complaint) ∧
      environment.workerFault invocation.jobs = some complaint
  made : after = (environment.tree.createDirectories (cacheDirectory environment.tree invocation)).2
  elsewhere : ∀ place, place ∉ environment.tree.placesOn (cacheDirectory environment.tree invocation) →
    after.entryAt? place = environment.tree.entryAt? place

/-- A run that analyzed its sources and could not write their report. It changed what is below the directory of the
cache, after it had made what was missing on the way there. -/
structure LostReport (environment : Environment) (invocation : Invocation) (failure : Failure)
    (after : FileTree) : Prop where
  accepted : ∃ config, resolveConfig environment.tree .builtin invocation = .ok config
  analyzes : invocation.listRules = false
  format : invocation.format = .json
  unwritten : ∃ report complaint, failure = .report complaint ∧ environment.reportFault report = some complaint
  uncached : invocation.noCache = true → ∀ place, after.entryAt? place = environment.tree.entryAt? place
  outside : ∀ place, ¬ FileTree.Below (environment.tree.placeOf (cacheDirectory environment.tree invocation)) place →
    after.entryAt? place = environment.tree.entryAt? place ∨
      place ∈ environment.tree.placesOn (cacheDirectory environment.tree invocation) ∧
        environment.tree.entryAt? place = none ∧ after.entryAt? place = some .directory

/-- Opening the cache keeps every entry, and makes directories on the way to that of the cache only. -/
theorem entryAt?_startOf (keeps : invocation.clearCache = false) (place : Location) :
    (startOf environment invocation).tree.entryAt? place = environment.tree.entryAt? place ∨
      place ∈ environment.tree.placesOn (cacheDirectory environment.tree invocation) ∧
        environment.tree.entryAt? place = none ∧
        (startOf environment invocation).tree.entryAt? place = some .directory := by
  cases caches : invocation.noCache with
  | true =>
    rw [startOf_uncached keeps caches]
    exact .inl rfl
  | false =>
    rw [tree_startOf_cached keeps caches]
    by_cases onWay : place ∈ environment.tree.placesOn (cacheDirectory environment.tree invocation)
    · have grows := environment.tree.grows_createDirectories (cacheDirectory environment.tree invocation)
      exact (grows.entries place).imp id fun made => ⟨onWay, made⟩
    · exact .inl (FileTree.createDirectories_elsewhere _ _ onWay)

/-- A run that stops as soon as its cache has been opened has made the directory of the cache, or nothing. -/
theorem unchanged_or_made (keeps : invocation.clearCache = false)
    (resolved : resolveConfig environment.tree .builtin invocation = .ok config)
    (analyzes : invocation.listRules = false)
    (stopped : (∃ cause, failure = .analyzer (.target invocation.path cause) ∧
        (startOf environment invocation).tree.lookup invocation.path = .error cause) ∨
      ∃ complaint, failure = .analyzer (.workers complaint) ∧
        environment.workerFault invocation.jobs = some complaint) :
    (startOf environment invocation).tree = environment.tree ∨
      MadeCacheDirectory environment invocation failure (startOf environment invocation).tree := by
  cases caches : invocation.noCache with
  | true =>
    left
    rw [startOf_uncached keeps caches]
  | false =>
    have made := @tree_startOf_cached environment invocation keeps caches
    refine .inr ⟨⟨config, resolved⟩, analyzes, caches, stopped, made, ?_⟩
    intro place elsewhere
    rw [made, FileTree.createDirectories_elsewhere _ _ elsewhere]

theorem lostReport_of_run {inputs : List SourceInput} {complaint : String} (keeps : invocation.clearCache = false)
    (resolved : resolveConfig environment.tree .builtin invocation = .ok config)
    (analyzes : invocation.listRules = false) (isJson : invocation.format = .json)
    (unwritten : environment.reportFault
      (Analyzer.run ⟨.builtin, config⟩ inputs (startOf environment invocation)).1 = some complaint) :
    LostReport environment invocation (.report complaint)
      (Analyzer.run ⟨.builtin, config⟩ inputs (startOf environment invocation)).2.tree := by
  obtain ⟨works, isRoot⟩ := @works_startOf environment invocation keeps
  have agree := (Analyzer.run_keepsOutside ⟨.builtin, config⟩ inputs works).agree.outside
  refine ⟨⟨config, resolved⟩, analyzes, isJson, ⟨_, complaint, rfl, unwritten⟩, ?_, ?_⟩
  · intro uncached place
    rw [agree place]
    · rw [startOf_uncached keeps uncached]
    · rw [startOf_uncached keeps uncached]
      exact nofun
  · intro place notBelow
    rw [agree place fun root found => by rwa [isRoot root found]]
    exact entryAt?_startOf keeps place

theorem execute_failed (keeps : invocation.clearCache = false)
    (failed : (execute environment .builtin invocation).exitCode = errorExitCode) :
    ∃ failure, (execute environment .builtin invocation).result = .error failure ∧
      (failure.isEarly = true →
        (execute environment .builtin invocation).tree = environment.tree ∨
          MadeCacheDirectory environment invocation failure (execute environment .builtin invocation).tree) ∧
      (failure.isEarly = false →
        LostReport environment invocation failure (execute environment .builtin invocation).tree) := by
  unfold execute at failed ⊢
  cases resolved : resolveConfig environment.tree .builtin invocation with
  | error cause => exact ⟨_, rfl, fun _ => .inl rfl, nofun⟩
  | ok config =>
    rw [resolved] at failed
    dsimp only at failed ⊢
    by_cases lists : invocation.listRules = true
    · rw [if_pos lists] at failed
      cases failed
    have analyzes : invocation.listRules = false := by simpa using lists
    rw [if_neg lists] at failed ⊢
    obtain ⟨gate, decided⟩ | ⟨failure, isResult, stops⟩ := analyze_cases environment .builtin config invocation
    · rw [Outcome.exitCode, decided] at failed
      exact absurd failed gate.exitCode_ne_errorExitCode
    refine ⟨failure, isResult, ?_⟩
    generalize (analyze environment .builtin config invocation).tree = after at stops ⊢
    cases stops with
    | target missing => exact ⟨fun _ => unchanged_or_made keeps resolved analyzes (.inl ⟨_, rfl, missing⟩), nofun⟩
    | workers atWork => exact ⟨fun _ => unchanged_or_made keeps resolved analyzes (.inr ⟨_, rfl, atWork⟩), nofun⟩
    | report format unwritten =>
      exact ⟨nofun, fun _ => lostReport_of_run keeps resolved analyzes format unwritten⟩

theorem main_failed {arguments : List String}
    (keeps : ∀ invocation, parse arguments = .ok (.run invocation) → invocation.clearCache = false)
    (failed : (main environment arguments).exitCode = errorExitCode) :
    ∃ failure, (main environment arguments).result = .error failure ∧
      (failure.isEarly = true → (main environment arguments).tree = environment.tree ∨
        ∃ invocation, parse arguments = .ok (.run invocation) ∧
          MadeCacheDirectory environment invocation failure (main environment arguments).tree) ∧
      (failure.isEarly = false → ∃ invocation, parse arguments = .ok (.run invocation) ∧
        LostReport environment invocation failure (main environment arguments).tree) := by
  unfold main at failed ⊢
  cases parsed : parse arguments with
  | error cause => exact ⟨_, rfl, fun _ => .inl rfl, nofun⟩
  | ok request =>
    rw [parsed] at failed
    cases request with
    | help => cases failed
    | version => cases failed
    | run invocation =>
      obtain ⟨failure, isResult, early, late⟩ := execute_failed (keeps invocation parsed) failed
      refine ⟨failure, isResult, fun isEarly => ?_, fun isLate => ⟨invocation, rfl, late isLate⟩⟩
      exact (early isEarly).imp_right fun made => ⟨invocation, rfl, made⟩

/-- A run that fails before any source is analyzed, and that was not asked to clear the cache, leaves every entry of
the tree as it was. It leaves no other entry either, unless the target could not be read or the workers not be
started after the cache had been opened: then the directory of the cache may be there, with the directories that
were missing above it. The only other failure is that of a report that cannot be written. -/
theorem failed_run_tree (environment : Environment) (arguments : List String)
    (keeps : ∀ invocation, parse arguments = .ok (.run invocation) → invocation.clearCache = false)
    (failed : (main environment arguments).exitCode = errorExitCode) :
    ∃ failure, (main environment arguments).result = .error failure ∧
      (failure.isEarly = true →
        environment.tree.Grows (main environment arguments).tree ∧
        (∀ place, (main environment arguments).tree.fileAt? place = environment.tree.fileAt? place) ∧
        ((main environment arguments).tree = environment.tree ∨
          ∃ invocation, parse arguments = .ok (.run invocation) ∧
            MadeCacheDirectory environment invocation failure (main environment arguments).tree)) ∧
      (failure.isEarly = false → ∃ invocation, parse arguments = .ok (.run invocation) ∧
        LostReport environment invocation failure (main environment arguments).tree) := by
  obtain ⟨failure, isResult, early, late⟩ := main_failed keeps failed
  refine ⟨failure, isResult, fun isEarly => ?_, late⟩
  have grows : environment.tree.Grows (main environment arguments).tree := by
    rcases early isEarly with same | ⟨invocation, -, made⟩
    · rw [same]
      exact ⟨rfl, fun _ => .inl rfl⟩
    · rw [made.made]
      exact environment.tree.grows_createDirectories _
  exact ⟨grows, grows.fileAt?_eq, early isEarly⟩

/-- An empty directory in which a run is asked for a file that is not there. -/
def emptyEnvironment : Environment where
  coloured := false
  processId := 1
  tree := ⟨[], []⟩

theorem failed_run_makes_directory :
    parse ["missing.py"] = .ok (.run { path := "missing.py" }) ∧
      (main emptyEnvironment ["missing.py"]).exitCode = errorExitCode ∧
      emptyEnvironment.tree.entryAt? [".skylos_cache"] = none ∧
      (main emptyEnvironment ["missing.py"]).tree.entryAt? [".skylos_cache"] = some .directory := by
  refine ⟨by decide, by decide, by decide, by decide⟩

theorem failed_run_tree_missing_target :
    (main emptyEnvironment ["missing.py"]).exitCode = errorExitCode ∧
      ∃ cause, MadeCacheDirectory emptyEnvironment { path := "missing.py" } (.analyzer (.target "missing.py" cause))
        (main emptyEnvironment ["missing.py"]).tree := by
  have failed : (main emptyEnvironment ["missing.py"]).exitCode = errorExitCode := by decide
  have parsed : parse ["missing.py"] = .ok (.run { path := "missing.py" }) := by decide
  have result : (main emptyEnvironment ["missing.py"]).result = .error (.analyzer (.target "missing.py" .notFound)) :=
    rfl
  have keeps : ∀ invocation, parse ["missing.py"] = .ok (.run invocation) → invocation.clearCache = false := by
    intro invocation isRun
    rw [parsed] at isRun
    cases isRun
    rfl
  obtain ⟨failure, isResult, early, -⟩ := failed_run_tree emptyEnvironment ["missing.py"] keeps failed
  rw [result] at isResult
  cases isResult
  refine ⟨failed, .notFound, ?_⟩
  obtain ⟨-, -, same | ⟨invocation, isRun, made⟩⟩ := early rfl
  · exact absurd (congrArg (fun tree => tree.entryAt? [".skylos_cache"]) same) (by decide)
  · rw [parsed] at isRun
    cases isRun
    exact made

end CommandLine

end Lintel
