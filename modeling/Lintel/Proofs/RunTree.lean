import Lintel.Analyzer
import Lintel.Proofs.CacheSoundness

/-!
# What a run does to the file tree

A run writes to its cache and to nothing else. Whatever its sources are, and whether or not it is cancelled, what
stands outside the place of the cache stays as it is.
-/

set_option autoImplicit false

namespace Lintel

/-- A cache that can be used where it is, whatever it holds. -/
def Cache.Works (cache : Cache) (tree : FileTree) : Prop :=
  cache.Keeps (fun _ _ => True) tree

/-- A cache that has been opened works in its directory, unless it keeps nothing. -/
theorem Cache.works_of_disk {tree start : FileTree} {directory : String} {processId : Nat} {cache : Cache}
    (opened : Cache.disk tree directory processId = (cache, start)) :
    cache.Works start ∧ ∀ root, cache.root? start = some root → root = start.placeOf directory := by
  rw [disk] at opened
  split at opened
  · rename_i disk made isOpen
    cases opened
    obtain ⟨same, -⟩ := DiskCache.openAt_eq_ok isOpen
    constructor
    · intro store isStore
      cases isStore
      exact ⟨DiskCache.usable_of_openAt isOpen, fun _ _ _ _ _ _ => trivial⟩
    · intro root isRoot
      rw [← Option.some.inj isRoot, same]
  · cases opened
    constructor
    · intro store isStore
      cases isStore
    · intro root isRoot
      cases isRoot

/-- A state whose cache works at the place of that of another state, and whose tree is the same outside of it. -/
structure RunState.KeepsOutside (start state : RunState) : Prop where
  works : state.cache.Works state.tree
  root : state.cache.root? state.tree = start.cache.root? start.tree
  agree : FileTree.AgreeOutside (start.cache.root? start.tree) start.tree state.tree

namespace RunState.KeepsOutside

theorem refl {state : RunState} (works : state.cache.Works state.tree) : state.KeepsOutside state :=
  ⟨works, rfl, .refl _ _⟩

theorem trans {first second third : RunState} (early : first.KeepsOutside second)
    (late : second.KeepsOutside third) : first.KeepsOutside third := by
  have agree := late.agree
  rw [early.root] at agree
  exact ⟨late.works, late.root.trans early.root, early.agree.trans agree⟩

end RunState.KeepsOutside

namespace Analyzer

variable {state : RunState}

theorem analyze_keepsOutside (analyzer : Analyzer) (source : Source) (works : state.cache.Works state.tree) :
    state.KeepsOutside (analyzer.analyze source state).2 := by
  unfold analyze
  cases source.parse with
  | error cause => exact .refl works
  | ok parsed =>
    dsimp only
    generalize Dispatch.run _ _ _ _ = walked
    obtain ⟨output, token⟩ := walked
    cases output with
    | none => exact ⟨works, rfl, .refl _ _⟩
    | some output =>
      obtain ⟨kept, sameRoot, agree⟩ :=
        @Cache.put_keeps _ _ _ (analyzer.keyOf source) (analyzer.conclude source output) works trivial
      exact ⟨kept, sameRoot, agree⟩

theorem processUnit_keepsOutside (analyzer : Analyzer) (input : SourceInput)
    (works : state.cache.Works state.tree) : state.KeepsOutside (analyzer.processUnit input state).2 := by
  obtain ⟨cache, token, tree⟩ := state
  have unchanged : ∀ after, RunState.KeepsOutside ⟨cache, token, tree⟩ ⟨cache, after, tree⟩ :=
    fun _ => ⟨works, rfl, .refl _ _⟩
  unfold processUnit
  obtain ⟨cancelled, after⟩ := token.look
  cases cancelled with
  | true => exact unchanged after
  | false =>
    dsimp only
    split
    · exact unchanged after
    · cases input.load tree with
      | error cause => exact unchanged after
      | ok source =>
        obtain ⟨kept, sameRoot⟩ := Cache.lookup_keeps works (analyzer.keyOf source)
        dsimp only
        generalize cache.lookup tree (analyzer.keyOf source) = answer at kept sameRoot ⊢
        obtain ⟨found, counted⟩ := answer
        have looked : RunState.KeepsOutside ⟨cache, token, tree⟩ ⟨counted, after, tree⟩ :=
          ⟨kept, sameRoot, .refl _ _⟩
        cases found with
        | some diagnostics => exact looked
        | none => exact looked.trans (analyzer.analyze_keepsOutside source kept)

theorem processAll_keepsOutside (analyzer : Analyzer) (inputs : List SourceInput)
    (works : state.cache.Works state.tree) : state.KeepsOutside (analyzer.processAll inputs state).2 := by
  induction inputs generalizing state with
  | nil => exact .refl works
  | cons input inputs ih =>
    have step := analyzer.processUnit_keepsOutside input works
    exact step.trans (ih step.works)

/-- A run leaves everything as it is that stands outside the place of its cache. -/
theorem run_keepsOutside (analyzer : Analyzer) (inputs : List SourceInput) (works : state.cache.Works state.tree) :
    state.KeepsOutside (analyzer.run inputs state).2 := by
  obtain ⟨worksLater, sameRoot, agree⟩ := analyzer.processAll_keepsOutside inputs works
  exact ⟨worksLater, sameRoot, agree⟩

end Analyzer

end Lintel
