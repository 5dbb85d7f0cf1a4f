import Lintel.Proofs.DiagnosticOrder

/-!
# Which diagnostics stay

Of the diagnostics with one identity the normal form keeps the most severe, and among these the one that
comes last. Sorting does not disturb the order of diagnostics that are alike, so "last" can be said of the
list as it is given. A choice that does not tell diagnostics of one identity apart can therefore be made
before or after.
-/

set_option autoImplicit false

namespace Lintel

theorem Severity.le_antisymm {first second : Severity} (below : first ≤ second) (above : second ≤ first) :
    first = second := by
  have same : first.rank = second.rank := Nat.le_antisymm below above
  cases first <;> cases second <;> simp_all [rank]

namespace Diagnostic

theorem sameIdentity_self (diagnostic : Diagnostic) : diagnostic.sameIdentity diagnostic = true :=
  (orderIdentity_eq_eq_iff _ _).mp Std.ReflCmp.compare_self

theorem sameIdentity_trans {first second third : Diagnostic} (below : first.sameIdentity second = true)
    (above : second.sameIdentity third = true) : first.sameIdentity third = true := by
  rw [← orderIdentity_eq_eq_iff] at *
  exact Std.TransCmp.eq_trans below above

theorem sameIdentity_symm {first second : Diagnostic} (same : first.sameIdentity second = true) :
    second.sameIdentity first = true := by
  rw [← orderIdentity_eq_eq_iff] at *
  exact Std.OrientedCmp.eq_symm same

/-- Among diagnostics of one identity the order is that of the severities. -/
theorem order_of_sameIdentity {first second : Diagnostic} (same : first.sameIdentity second = true) :
    first.order second = compare first.severity.rank second.severity.rank := by
  rw [order, (orderIdentity_eq_eq_iff first second).mpr same]
  rfl

/-- Of sorted diagnostics the last of each identity is kept. -/
theorem mem_keepLast_iff {diagnostics : List Diagnostic} (sorted : IsSorted diagnostics)
    (diagnostic : Diagnostic) :
    diagnostic ∈ keepLast diagnostics ↔
      (diagnostics.filter fun other => other.sameIdentity diagnostic).getLast? = some diagnostic := by
  fun_induction keepLast diagnostics with
  | case1 => simp
  | case2 single =>
    rw [List.mem_singleton, List.filter_cons, List.filter_nil]
    by_cases same : single.sameIdentity diagnostic = true
    · rw [if_pos same, List.getLast?_singleton, Option.some.injEq]
      exact eq_comm
    · rw [if_neg same]
      constructor
      · rintro rfl
        exact absurd (sameIdentity_self diagnostic) same
      · intro nothing
        cases nothing
  | case3 first second rest alike ih =>
    rw [ih (List.pairwise_cons.mp sorted).2]
    by_cases same : first.sameIdentity diagnostic = true
    · -- the second one has this identity too, so the first is not the last of them
      have next := sameIdentity_trans (sameIdentity_symm alike) same
      simp only [List.filter_cons, same, next, if_true, List.getLast?_cons_cons]
    · simp only [List.filter_cons (x := first), same, Bool.false_eq_true, if_false]
  | case4 first second rest different ih =>
    have later : ∀ other ∈ second :: rest, first.sameIdentity other = false := by
      intro other member
      rw [Bool.eq_false_iff, ne_eq, ← orderIdentity_eq_eq_iff,
        orderIdentity_lt_of_sorted sorted different other member]
      intro equal
      cases equal
    rw [List.mem_cons, ih (List.pairwise_cons.mp sorted).2]
    by_cases same : first.sameIdentity diagnostic = true
    · have alone : (second :: rest).filter (fun other => other.sameIdentity diagnostic) = [] := by
        rw [List.filter_eq_nil_iff]
        intro other member alike
        have equal := sameIdentity_trans same (sameIdentity_symm alike)
        rw [later other member] at equal
        cases equal
      rw [List.filter_cons (x := first), if_pos same, alone, List.getLast?_singleton, Option.some.injEq]
      constructor
      · rintro (equal | nothing)
        · exact equal.symm
        · cases nothing
      · intro equal
        exact .inl equal.symm
    · rw [List.filter_cons (x := first), if_neg same]
      refine ⟨fun member => member.resolve_left ?_, .inr⟩
      rintro rfl
      exact same (sameIdentity_self diagnostic)

theorem severity_le_of_order {first second : Diagnostic} (same : first.sameIdentity second = true)
    (ordered : (first.order second).isLE = true) : first.severity ≤ second.severity := by
  rw [order_of_sameIdentity same] at ordered
  exact Nat.isLE_compare.mp ordered

/-- The last of diagnostics in ascending order of severity is the last of the most severe. -/
theorem getLast?_eq_some_iff {diagnostics : List Diagnostic} (diagnostic : Diagnostic)
    (ascending : diagnostics.Pairwise fun first second => first.severity ≤ second.severity) :
    diagnostics.getLast? = some diagnostic ↔
      (∀ other ∈ diagnostics, other.severity ≤ diagnostic.severity) ∧
      (diagnostics.filter fun other => other.severity = diagnostic.severity).getLast? =
        some diagnostic := by
  rcases List.eq_nil_or_concat diagnostics with rfl | ⟨earlier, last, rfl⟩
  · simp
  · rw [List.concat_eq_append] at ascending ⊢
    obtain ⟨_, _, below⟩ := List.pairwise_append.mp ascending
    have greatest : ∀ other ∈ earlier ++ [last], other.severity ≤ last.severity := by
      intro other member
      rcases List.mem_append.mp member with inside | inside
      · exact below other inside last (List.mem_singleton_self last)
      · rw [List.mem_singleton.mp inside]
        exact Nat.le_refl _
    have latest : last.severity = diagnostic.severity →
        ((earlier ++ [last]).filter fun other => other.severity = diagnostic.severity).getLast? =
          some last := by
      intro same
      simp [List.filter_append, same]
    rw [List.getLast?_append, List.getLast?_singleton, Option.some_or, Option.some.injEq]
    constructor
    · rintro rfl
      exact ⟨greatest, latest rfl⟩
    · rintro ⟨largest, isLatest⟩
      have member := (List.mem_filter.mp (List.mem_of_getLast? isLatest)).1
      have same := Severity.le_antisymm (largest last (by simp)) (greatest diagnostic member)
      rw [latest same, Option.some.injEq] at isLatest
      exact isLatest

/-- The normal form keeps the most severe of each identity, and of these the one that comes last. -/
theorem mem_normalize_iff_latest (diagnostics : List Diagnostic) (diagnostic : Diagnostic) :
    diagnostic ∈ normalize diagnostics ↔
      (∀ other ∈ diagnostics, other.sameIdentity diagnostic = true →
        other.severity ≤ diagnostic.severity) ∧
      (diagnostics.filter fun other => decide (other.severity = diagnostic.severity) &&
        other.sameIdentity diagnostic).getLast? = some diagnostic := by
  have sorted := isSorted_mergeSort diagnostics
  have undisturbed := filter_mergeSort order (fun other =>
    decide (other.severity = diagnostic.severity) && other.sameIdentity diagnostic) (by
      intro first second isFirst isSecond
      simp only [Bool.and_eq_true, decide_eq_true_eq] at isFirst isSecond
      rw [order_of_sameIdentity (sameIdentity_trans isFirst.2 (sameIdentity_symm isSecond.2)),
        isFirst.1, isSecond.1]
      exact Std.ReflCmp.compare_self) diagnostics
  have ascending : ((diagnostics.mergeSort fun first second => first.order second != .gt).filter
      fun other => other.sameIdentity diagnostic).Pairwise fun first second =>
        first.severity ≤ second.severity := by
    refine List.Pairwise.imp_of_mem ?_ (sorted.filter _)
    intro first second isFirst isSecond ordered
    have same := sameIdentity_trans (List.mem_filter.mp isFirst).2
      (sameIdentity_symm (List.mem_filter.mp isSecond).2)
    exact severity_le_of_order same ordered
  rw [normalize, mem_keepLast_iff sorted, getLast?_eq_some_iff diagnostic ascending, List.filter_filter,
    undisturbed]
  simp only [List.mem_filter, List.mem_mergeSort, and_imp]

/-- What the normal form drops has a rival in it that is at least as severe. -/
theorem exists_severer_mem_normalize {diagnostics : List Diagnostic} {diagnostic : Diagnostic}
    (member : diagnostic ∈ diagnostics) :
    ∃ kept ∈ normalize diagnostics, diagnostic.sameIdentity kept = true ∧
      diagnostic.severity ≤ kept.severity := by
  obtain ⟨kept, isKept, alike⟩ := exists_sameIdentity_mem_keepLast (List.mem_mergeSort.mpr member)
  have same := (orderIdentity_eq_eq_iff _ _).mp alike
  exact ⟨kept, isKept, same, ((mem_normalize_iff_latest _ _).mp isKept).1 diagnostic member same⟩

/-- Diagnostics in strictly ascending order are determined by which they are. -/
theorem eq_of_ascending {first second : List Diagnostic}
    (firstAscending : first.Pairwise fun left right => left.orderIdentity right = .lt)
    (secondAscending : second.Pairwise fun left right => left.orderIdentity right = .lt)
    (members : ∀ diagnostic, diagnostic ∈ first ↔ diagnostic ∈ second) : first = second :=
  eq_of_strictly_ascending firstAscending secondAscending members

/-- A choice that does not tell diagnostics of one identity apart may be made before the normal form is
taken, or after. -/
theorem normalize_filter {diagnostics : List Diagnostic} {chosen : Diagnostic → Bool}
    (together : ∀ first ∈ diagnostics, ∀ second ∈ diagnostics, first.sameIdentity second = true →
      chosen first = chosen second) :
    normalize (diagnostics.filter chosen) = (normalize diagnostics).filter chosen := by
  refine eq_of_ascending (normalize_ascending _) ((normalize_ascending diagnostics).filter chosen) ?_
  intro diagnostic
  by_cases present : diagnostic ∈ diagnostics ∧ chosen diagnostic = true
  · obtain ⟨inside, isChosen⟩ := present
    have rivals : ∀ other ∈ diagnostics, other.sameIdentity diagnostic = true → chosen other = true := by
      intro other member same
      rw [together other member diagnostic inside same, isChosen]
    have sameRivals : (diagnostics.filter chosen).filter (fun other =>
        decide (other.severity = diagnostic.severity) && other.sameIdentity diagnostic) =
        diagnostics.filter (fun other =>
          decide (other.severity = diagnostic.severity) && other.sameIdentity diagnostic) := by
      rw [List.filter_filter]
      refine List.filter_congr fun other member => ?_
      cases same : other.sameIdentity diagnostic with
      | false => simp
      | true => simp [rivals other member same]
    rw [List.mem_filter, mem_normalize_iff_latest, mem_normalize_iff_latest, sameRivals]
    simp only [List.mem_filter, isChosen, and_true]
    refine and_congr_left fun _ => ⟨fun greatest other member same => ?_, fun greatest other member => ?_⟩
    · exact greatest other ⟨member, rivals other member same⟩ same
    · exact greatest other member.1
  · constructor
    · intro member
      exact absurd (List.mem_filter.mp (normalize_subset _ member)) present
    · intro member
      obtain ⟨kept, isChosen⟩ := List.mem_filter.mp member
      exact absurd ⟨normalize_subset _ kept, isChosen⟩ present

end Diagnostic

end Lintel
