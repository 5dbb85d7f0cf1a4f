import Lintel.Proofs.ConfigView
import Lintel.Proofs.History

/-!
# A cache changes no report

Runs that share a cache report what they would report without one, although profiles, options and sources
change from run to run. What stands under the key of a source was found by a run whose configuration had
the same digest, so it is the result that the source has on its own.
-/

set_option autoImplicit false

namespace Lintel

/-- Configurations of one registry with one digest give every source one result. -/
theorem assess_eq_of_fingerprint {registry : Registry} {rounds : List Round}
    (sameRegistry : ∀ round ∈ rounds, round.analyzer.registry = registry)
    (resolved : ∀ round ∈ rounds, ∃ profile options,
      Config.resolve registry profile options = .ok round.analyzer.config)
    (views : Digest.Separates (viewTexts rounds)) :
    ∀ first ∈ rounds, ∀ second ∈ rounds,
      first.analyzer.config.fingerprint = second.analyzer.config.fingerprint →
        ∀ source, first.analyzer.assess source = second.analyzer.assess source := by
  intro first firstMember second secondMember sameDigest source
  obtain ⟨_, _, firstResolved⟩ := resolved first firstMember
  obtain ⟨_, _, secondResolved⟩ := resolved second secondMember
  have sameText := views _ _ ⟨first, firstMember, rfl⟩ ⟨second, secondMember, rfl⟩ sameDigest
  obtain ⟨rules, ignores, threshold⟩ := Config.eq_of_viewText (Config.regular_of_resolve firstResolved)
    (Config.regular_of_resolve secondResolved) sameText
  have rulesAlike := (sameRegistry first firstMember).trans (sameRegistry second secondMember).symm
  exact Analyzer.assess_congr rulesAlike rules ignores threshold source

/-- Runs that share a cache, on disk or in memory, and that nobody cancels: each of them reports what it
reports without a cache. If the cache is on disk, their sources are read outside its directory
(`Round.outside`). -/
theorem report_agrees_without_cache {registry : Registry} {rounds : List Round} (calm : registry.Calm)
    (sameRegistry : ∀ round ∈ rounds, round.analyzer.registry = registry)
    (resolved : ∀ round ∈ rounds, ∃ profile options,
      Config.resolve registry profile options = .ok round.analyzer.config)
    (uncancelled : ∀ round ∈ rounds, round.last.token = .fresh)
    (sources : Digest.Separates (sourceTexts rounds)) (views : Digest.Separates (viewTexts rounds))
    (shared : ShareCache rounds) :
    ∀ round ∈ rounds, round.report.Agrees
      (round.analyzer.run round.inputs ⟨.disabled, .fresh, round.start.tree⟩).1 := by
  intro round member
  have tells : TellsApart (knownOf rounds) :=
    tellsApart_knownOf sources (assess_eq_of_fingerprint sameRegistry resolved views)
  have completed : round.report.completed = true := by
    simp [Round.report, RunReport.ofResults, uncancelled round member]
  have agrees := (shared.sound tells round member).report_agrees completed
  have isCalm : round.analyzer.registry.Calm := by
    rw [sameRegistry round member]
    exact calm
  rwa [Analyzer.quiet, Registry.quiet_eq_of_calm isCalm] at agrees

section Instance

/-- A run of the rules that come with the program over one source. Its cache is opened at its start. -/
def evalRound (tree : FileTree) (level : Severity) (processId : Nat) : Round :=
  .inOrder ⟨.builtin, ⟨Config.initialRules .builtin {}, [], [], .information, level⟩⟩
    [.given ⟨"a.py", "eval(x)\n"⟩]
    ⟨(Cache.disk tree "/cache" processId).1, .fresh, (Cache.disk tree "/cache" processId).2⟩
    (by simp [SourceInput.Outside])

variable (tree : FileTree) (level : Severity) (processId : Nat)

private theorem resolved_evalRound :
    Config.resolve .builtin {} { failThreshold := some level } =
      .ok (evalRound tree level processId).analyzer.config := rfl

private theorem fresh_evalRound : (evalRound tree level processId).last.token = .fresh :=
  Analyzer.processAll_fresh Registry.calm_builtin _ rfl

private theorem text_evalRound {source : Source} (loads : (evalRound tree level processId).Loads source) :
    source.text = "eval(x)\n" := by
  obtain ⟨input, inside, _, loaded⟩ := loads
  obtain rfl := List.mem_singleton.mp inside
  cases loaded
  rfl

private theorem onDisk_evalRound {rounds : List Round} (history : OnDisk ["cache"] rounds tree) :
    OnDisk ["cache"] (evalRound tree level processId :: rounds) (evalRound tree level processId).last.tree :=
  .run _ (history.edit (Cache.addsNothing_of_disk ["cache"] rfl)) (Cache.worksAt_of_disk rfl)

end Instance

/-- One source in two runs, the second with a stricter gate. -/
theorem report_agrees_without_cache_reopened :
    let first := evalRound ⟨[], []⟩ .error 1
    let second := evalRound first.last.tree .warning 2
    second.report.Agrees
      (second.analyzer.run second.inputs ⟨.disabled, .fresh, second.start.tree⟩).1 := by
  intro first second
  have each : ∀ {P : Round → Prop}, (∀ tree level processId, P (evalRound tree level processId)) →
      ∀ round ∈ [second, first], P round := by
    intro P always round member
    simp only [List.mem_cons, List.not_mem_nil, or_false] at member
    rcases member with rfl | rfl
    · exact always _ _ _
    · exact always _ _ _
  have texts : ∀ round ∈ [second, first], ∀ source, round.Loads source → source.text = "eval(x)\n" :=
    each fun tree level processId source => text_evalRound tree level processId
  have sameViews : ∀ round ∈ [second, first],
      round.analyzer.config.view.compactText = first.analyzer.config.view.compactText :=
    each fun _ _ _ => rfl
  refine report_agrees_without_cache Registry.calm_builtin (each fun _ _ _ => rfl)
    (each fun tree level processId => ⟨_, _, resolved_evalRound tree level processId⟩)
    (each fresh_evalRound) ?_ ?_ (.inl ⟨["cache"], second.last.tree, ?_⟩) second List.mem_cons_self
  · rintro _ _ ⟨round, member, source, loaded, rfl⟩ ⟨other, otherMember, text, otherLoaded, rfl⟩ _
    rw [texts round member source loaded, texts other otherMember text otherLoaded]
  · rintro _ _ ⟨round, member, rfl⟩ ⟨other, otherMember, rfl⟩ _
    rw [sameViews round member, sameViews other otherMember]
  · refine onDisk_evalRound _ _ _ (onDisk_evalRound _ _ _ (.start fun place content below found => ?_))
    obtain ⟨name, names, rfl⟩ := below
    cases found

end Lintel
