import Lintel.Diagnostic
import Mathlib.Data.List.Pairwise
import Mathlib.Data.List.Perm.Basic

/-!
# The order of diagnostics

Comparing texts, paths, spans and diagnostics obeys the laws of an order, and no difference is seen
between two diagnostics exactly if they have the same identity. The normal form of a list of diagnostics
is therefore strictly ascending, and it loses nothing where one identity has one severity.
-/

set_option autoImplicit false

namespace Lintel

open Std

/-- Comparing by a part of a value inherits the laws of an order. -/
theorem transCmp_by {α β : Type} (part : α → β) (order : β → β → Ordering) [TransCmp order] :
    TransCmp fun first second : α => order (part first) (part second) where
  eq_swap := OrientedCmp.eq_swap
  isLE_trans := TransCmp.isLE_trans

/-- So does comparing by one order first and by another where the first sees no difference. -/
theorem transCmp_then {α : Type} {major minor : α → α → Ordering} (majorLaws : TransCmp major)
    (minorLaws : TransCmp minor) :
    TransCmp fun first second => (major first second).then (minor first second) :=
  inferInstanceAs (TransCmp (compareLex major minor))

/-- Lists in strictly ascending order are determined by what they hold. -/
theorem eq_of_strictly_ascending {α : Type} {order : α → α → Ordering} [TransCmp order]
    {first second : List α} (firstAscending : first.Pairwise fun left right => order left right = .lt)
    (secondAscending : second.Pairwise fun left right => order left right = .lt)
    (members : ∀ item, item ∈ first ↔ item ∈ second) : first = second := by
  have nodup : ∀ {items : List α}, items.Pairwise (fun left right => order left right = .lt) →
      items.Nodup := by
    intro items ascending
    refine ascending.imp ?_
    rintro left _ below rfl
    have equal : order left left = .eq := ReflCmp.compare_self
    rw [equal] at below
    cases below
  have perm := (List.perm_ext_iff_of_nodup (nodup firstAscending) (nodup secondAscending)).mpr members
  refine List.Perm.eq_of_pairwise ?_ firstAscending secondAscending perm
  intro left right _ _ below above
  have swapped := OrientedCmp.gt_of_lt below
  rw [above] at swapped
  cases swapped

/-- In strictly ascending order no two entries compare equal. -/
theorem eq_of_order_eq {α : Type} {order : α → α → Ordering} [TransCmp order] {items : List α}
    (ascending : items.Pairwise fun left right => order left right = .lt) {first second : α}
    (firstMember : first ∈ items) (secondMember : second ∈ items) (same : order first second = .eq) :
    first = second := by
  have symmetric : Std.Symm fun left right : α => order left right ≠ .eq :=
    ⟨fun _ _ different equal => different (OrientedCmp.eq_symm equal)⟩
  have apart : items.Pairwise fun left right => order left right ≠ .eq := by
    refine ascending.imp fun below equal => ?_
    rw [below] at equal
    cases equal
  by_contra different
  exact apart.forall firstMember secondMember different same

section Sorting

variable {α : Type} {order : α → α → Ordering}

theorem isLE_of_not_gt {ordering : Ordering} (ordered : (ordering != .gt) = true) : ordering.isLE = true := by
  cases ordering with
  | gt => cases ordered
  | lt => rfl
  | eq => rfl

variable [TransCmp order]

theorem notGt_trans (first second third : α) (below : (order first second != .gt) = true)
    (above : (order second third != .gt) = true) : (order first third != .gt) = true := by
  have ordered := TransCmp.isLE_trans (isLE_of_not_gt below) (isLE_of_not_gt above)
  cases result : order first third with
  | gt => simp [result] at ordered
  | lt => rfl
  | eq => rfl

theorem notGt_total (first second : α) :
    ((order first second != .gt) || (order second first != .gt)) = true := by
  have swapped : order second first = (order first second).swap := OrientedCmp.eq_swap
  rw [swapped]
  cases order first second <;> rfl

theorem pairwise_mergeSort (items : List α) :
    (items.mergeSort fun first second => order first second != .gt).Pairwise fun first second =>
      (order first second).isLE = true :=
  (List.pairwise_mergeSort notGt_trans notGt_total items).imp isLE_of_not_gt

/-- Sorting leaves entries that are not told apart in the order in which they stand. -/
theorem filter_mergeSort (order : α → α → Ordering) [TransCmp order] (alike : α → Bool)
    (together : ∀ first second, alike first = true → alike second = true → order first second = .eq)
    (items : List α) :
    (items.mergeSort fun first second => order first second != .gt).filter alike = items.filter alike := by
  have sorted : (items.filter alike).Pairwise fun first second => (order first second != .gt) = true := by
    refine List.pairwise_of_forall_mem_list fun first firstMember second secondMember => ?_
    rw [together first second (List.mem_filter.mp firstMember).2 (List.mem_filter.mp secondMember).2]
    rfl
  have inside := (List.sublist_mergeSort notGt_trans notGt_total sorted List.filter_sublist).filter alike
  rw [List.filter_filter] at inside
  simp only [Bool.and_self] at inside
  have sameLength := ((List.mergeSort_perm items fun first second => order first second != .gt).filter
    alike).length_eq
  exact (inside.eq_of_length sameLength.symm).symm

end Sorting

namespace Table

theorem precedes_iff_lt (first second : List Char) : precedes first second = true ↔ first < second := by
  induction first generalizing second with
  | nil =>
    cases second with
    | nil => simp [precedes]
    | cons b bs => simp [precedes]
  | cons a as ih =>
    cases second with
    | nil => simp [precedes]
    | cons b bs =>
      simp only [precedes, List.cons_lt_cons_iff]
      by_cases same : a = b
      · simp [same, ih]
      · simp only [same, if_false, false_and, or_false, decide_eq_true_eq]
        exact Iff.rfl

theorem keyPrecedes_iff_lt (first second : String) :
    keyPrecedes first second = true ↔ first < second := by
  rw [keyPrecedes, precedes_iff_lt]
  exact Iff.rfl

end Table

theorem orderText_eq_compare (first second : String) : orderText first second = compare first second := by
  show _ = compareOfLessAndEq first second
  simp only [orderText, compareOfLessAndEq, Table.keyPrecedes_iff_lt]
  by_cases same : first = second
  · simp [same]
  · simp [same]

instance : TransCmp orderText := by
  have same : orderText = compare := funext fun first => funext (orderText_eq_compare first)
  rw [same]
  infer_instance

instance : LawfulEqCmp orderText where
  eq_of_compare equal := by
    rw [orderText_eq_compare] at equal
    exact LawfulEqCmp.eq_of_compare equal

theorem ne_of_orderText_lt {first second : String} (below : orderText first second = .lt) :
    first ≠ second := by
  rintro rfl
  simp [orderText] at below

namespace Component

/-- The text by which names are told apart. -/
def nameText : Component → String
  | name text => text
  | _ => ""

theorem order_eq_compareLex :
    order = compareLex (fun first second => compare (order.rank first) (order.rank second))
      (fun first second => orderText first.nameText second.nameText) := by
  funext first second
  cases first <;> cases second <;> rfl

instance : TransCmp order := by
  rw [order_eq_compareLex]
  exact transCmp_then (transCmp_by order.rank compare) (transCmp_by nameText orderText)

instance : LawfulEqCmp order where
  eq_of_compare {first second} equal := by
    rw [order_eq_compareLex, compareLex_eq_eq] at equal
    obtain ⟨ranks, texts⟩ := equal
    have texts := LawfulEqCmp.eq_of_compare texts
    have ranks := LawfulEqCmp.eq_of_compare ranks
    cases first <;> cases second <;> simp_all [order.rank, nameText]

end Component

namespace Path

theorem orderComponents_eq_compareLex : orderComponents = List.compareLex Component.order := by
  funext first second
  induction first generalizing second with
  | nil => cases second <;> rfl
  | cons a as ih =>
    cases second with
    | nil => rfl
    | cons b bs => rw [orderComponents, List.compareLex_cons_cons, ih]

instance : TransCmp order := by
  have : TransCmp orderComponents := by
    rw [orderComponents_eq_compareLex]
    infer_instance
  exact transCmp_by components orderComponents

theorem order_eq_eq_iff (first second : String) : order first second = .eq ↔ same first second = true := by
  rw [order, orderComponents_eq_compareLex, LawfulEqCmp.compare_eq_iff_eq, same, decide_eq_true_eq]

end Path

namespace Span

instance : TransCmp order :=
  transCmp_then (transCmp_by Span.startLine compare) <|
    transCmp_then (transCmp_by Span.startColumn compare) <|
      transCmp_then (transCmp_by Span.endLine compare) (transCmp_by Span.endColumn compare)

instance : LawfulEqCmp order where
  eq_of_compare {first second} equal := by
    simp only [order, Ordering.then_eq_eq, Nat.compare_eq_eq] at equal
    obtain ⟨startLine, startColumn, endLine, endColumn⟩ := equal
    cases first
    cases second
    simp_all

end Span

namespace Diagnostic

instance : TransCmp orderIdentity :=
  transCmp_then (transCmp_by Diagnostic.file Path.order) <|
    transCmp_then (transCmp_by Diagnostic.ruleId orderText) <|
      transCmp_then (transCmp_by Diagnostic.span Span.order) (transCmp_by Diagnostic.message orderText)

instance : TransCmp order :=
  transCmp_then inferInstance
    (transCmp_by (fun diagnostic : Diagnostic => diagnostic.severity.rank) compare)

theorem orderIdentity_eq_eq_iff (first second : Diagnostic) :
    first.orderIdentity second = .eq ↔ first.sameIdentity second = true := by
  simp only [orderIdentity, Ordering.then_eq_eq, Path.order_eq_eq_iff, LawfulEqCmp.compare_eq_iff_eq,
    sameIdentity, Bool.and_eq_true, decide_eq_true_eq]
  constructor
  · rintro ⟨file, rule, span, message⟩
    exact ⟨⟨⟨rule, file⟩, span⟩, message⟩
  · rintro ⟨⟨⟨rule, file⟩, span⟩, message⟩
    exact ⟨file, rule, span, message⟩

theorem isLE_orderIdentity {first second : Diagnostic} (ordered : (first.order second).isLE = true) :
    (first.orderIdentity second).isLE = true := by
  rw [order, Ordering.isLE_then_iff_and] at ordered
  exact ordered.1

/-- Diagnostics in their final order. -/
def IsSorted (diagnostics : List Diagnostic) : Prop :=
  diagnostics.Pairwise fun first second => (first.order second).isLE = true

theorem isSorted_mergeSort (diagnostics : List Diagnostic) :
    IsSorted (diagnostics.mergeSort fun first second => first.order second != .gt) :=
  pairwise_mergeSort diagnostics

theorem keepLast_subset (diagnostics : List Diagnostic) : keepLast diagnostics ⊆ diagnostics := by
  fun_induction keepLast diagnostics with
  | case1 => exact List.Subset.refl _
  | case2 single => exact List.Subset.refl _
  | case3 first second rest same ih => exact List.subset_cons_of_subset _ ih
  | case4 first second rest same ih => exact List.cons_subset_cons _ ih

theorem exists_sameIdentity_mem_keepLast {diagnostics : List Diagnostic} {diagnostic : Diagnostic}
    (member : diagnostic ∈ diagnostics) :
    ∃ kept ∈ keepLast diagnostics, diagnostic.orderIdentity kept = .eq := by
  fun_induction keepLast diagnostics generalizing diagnostic with
  | case1 => cases member
  | case2 single =>
    rw [List.mem_singleton.mp member]
    exact ⟨single, List.mem_singleton_self _, ReflCmp.compare_self⟩
  | case3 first second rest same ih =>
    rcases List.mem_cons.mp member with rfl | later
    · obtain ⟨kept, included, alike⟩ := ih List.mem_cons_self
      exact ⟨kept, included, TransCmp.eq_trans ((orderIdentity_eq_eq_iff _ _).mpr same) alike⟩
    · exact ih later
  | case4 first second rest different ih =>
    rcases List.mem_cons.mp member with rfl | later
    · exact ⟨diagnostic, List.mem_cons_self, ReflCmp.compare_self⟩
    · obtain ⟨kept, included, alike⟩ := ih later
      exact ⟨kept, List.mem_cons_of_mem _ included, alike⟩

/-- Sorted diagnostics behind one with another identity have other identities too. -/
theorem orderIdentity_lt_of_sorted {first second : Diagnostic} {rest : List Diagnostic}
    (sorted : IsSorted (first :: second :: rest)) (different : ¬ first.sameIdentity second = true) :
    ∀ other ∈ second :: rest, first.orderIdentity other = .lt := by
  obtain ⟨leading, remaining⟩ := List.pairwise_cons.mp sorted
  have less : first.orderIdentity second = .lt := by
    have ordered := isLE_orderIdentity (leading second List.mem_cons_self)
    cases result : first.orderIdentity second with
    | lt => rfl
    | eq => exact absurd ((orderIdentity_eq_eq_iff _ _).mp result) different
    | gt => simp [result] at ordered
  intro other member
  rcases List.mem_cons.mp member with rfl | member
  · exact less
  · exact TransCmp.lt_of_lt_of_isLE less
      (isLE_orderIdentity ((List.pairwise_cons.mp remaining).1 other member))

/-- Sorted diagnostics stand in strictly ascending order once one of each identity is kept. -/
theorem keepLast_ascending {diagnostics : List Diagnostic} (sorted : IsSorted diagnostics) :
    (keepLast diagnostics).Pairwise fun first second => first.orderIdentity second = .lt := by
  fun_induction keepLast diagnostics with
  | case1 => exact List.Pairwise.nil
  | case2 single => exact List.pairwise_singleton _ _
  | case3 first second rest same ih => exact ih (List.pairwise_cons.mp sorted).2
  | case4 first second rest different ih =>
    refine List.pairwise_cons.mpr ⟨fun later member => ?_, ih (List.pairwise_cons.mp sorted).2⟩
    exact orderIdentity_lt_of_sorted sorted different later (keepLast_subset _ member)

theorem normalize_ascending (diagnostics : List Diagnostic) :
    (normalize diagnostics).Pairwise fun first second => first.orderIdentity second = .lt :=
  keepLast_ascending (isSorted_mergeSort diagnostics)

theorem normalize_subset (diagnostics : List Diagnostic) : normalize diagnostics ⊆ diagnostics := by
  intro diagnostic member
  exact List.mem_mergeSort.mp (keepLast_subset _ member)

/-- Nothing is lost where diagnostics of one identity are equal. -/
theorem mem_normalize_iff {diagnostics : List Diagnostic}
    (determined : ∀ first ∈ diagnostics, ∀ second ∈ diagnostics,
      first.orderIdentity second = .eq → first = second)
    (diagnostic : Diagnostic) : diagnostic ∈ normalize diagnostics ↔ diagnostic ∈ diagnostics := by
  refine ⟨fun member => normalize_subset _ member, fun member => ?_⟩
  obtain ⟨kept, included, alike⟩ := exists_sameIdentity_mem_keepLast (List.mem_mergeSort.mpr member)
  rw [determined diagnostic member kept (normalize_subset _ included) alike]
  exact included

end Diagnostic

end Lintel
