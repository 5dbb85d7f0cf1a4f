import Lintel.Proofs.Deduplication
import Lintel.Proofs.FileTree
import Mathlib.Data.List.Permutation

/-!
# The normal form of a list of diagnostics

A list of diagnostics has one normal form: strictly ascending, one entry for each identity that occurs, and
each entry the most severe of its identity, the last one in the list where several are. Slashes that are
repeated or trail and single dots do not tell paths apart, but the entry that is kept keeps its spelling.
-/

set_option autoImplicit false

namespace Lintel

/-! ## Spellings of a path -/

namespace Path

/-- The component that a path starts with whatever its other pieces are. -/
private def leading (pieces : List (List Char)) : List Component :=
  match pieces with
  | [] :: _ :: _ => [.root]
  | ['.'] :: _ => [.current]
  | _ => []

private theorem components_eq (path : String) :
    components path = leading (Text.splitAll '/' path.toList) ++
      (Text.splitAll '/' path.toList).filterMap pieceComponent? := rfl

private theorem leading_cons (first : List Char) (rest : List (List Char)) :
    leading (first :: rest) =
      if first = [] then (if rest = [] then [] else [.root])
      else if first = ['.'] then [.current] else [] := by
  cases first with
  | nil =>
    cases rest with
    | nil => rfl
    | cons second rest => rfl
  | cons c cs =>
    unfold leading
    split <;> simp_all

/-- Which pieces follow does not matter for the start of a path, as long as some do. -/
private theorem leading_append {front behind other : List (List Char)} (proper : front ≠ [])
    (more : behind ≠ []) (others : other ≠ []) : leading (front ++ behind) = leading (front ++ other) := by
  obtain ⟨first, rest, rfl⟩ := List.exists_cons_of_ne_nil proper
  have longer : rest ++ behind ≠ [] := List.append_ne_nil_of_right_ne_nil rest more
  have further : rest ++ other ≠ [] := List.append_ne_nil_of_right_ne_nil rest others
  simp only [List.cons_append, leading_cons, longer, further, if_false]

private theorem splitAll_between (directory rest : String) :
    Text.splitAll '/' (directory ++ "/" ++ rest).toList =
      Text.splitAll '/' directory.toList ++ Text.splitAll '/' rest.toList := by
  rw [String.toList_append, String.toList_append, List.append_assoc]
  exact Text.splitAll_append '/' directory.toList rest.toList

/-- A piece that is no component changes nothing where others follow. -/
private theorem same_of_idle (idle : String) (noSlash : '/' ∉ idle.toList)
    (isIdle : pieceComponent? idle.toList = none) (directory rest : String) :
    same (directory ++ ("/" ++ idle ++ "/") ++ rest) (directory ++ "/" ++ rest) = true := by
  have front := Text.splitAll_ne_nil '/' directory.toList
  have back := Text.splitAll_ne_nil '/' rest.toList
  have regrouped : directory ++ ("/" ++ idle ++ "/") ++ rest = directory ++ "/" ++ idle ++ "/" ++ rest := by
    simp only [String.append_assoc]
  rw [same, decide_eq_true_eq, regrouped, components_eq, components_eq, splitAll_between, splitAll_between,
    splitAll_between, Text.splitAll_of_notMem noSlash, List.append_assoc,
    leading_append front (List.append_ne_nil_of_right_ne_nil _ back) back]
  simp only [List.filterMap_append, List.filterMap_cons, isIdle, List.filterMap_nil, List.nil_append]

/-- So does an empty piece at the end, but for the slash of the root. -/
private theorem same_of_trailing {directory : String} (proper : directory ≠ "") :
    same (directory ++ "/") directory = true := by
  have pieces : Text.splitAll '/' (directory ++ "/").toList = Text.splitAll '/' directory.toList ++ [[]] := by
    have behind := splitAll_between directory ""
    rw [String.append_empty] at behind
    exact behind
  have lead : leading (Text.splitAll '/' directory.toList ++ [[]]) =
      leading (Text.splitAll '/' directory.toList) := by
    cases isSplit : Text.splitAll '/' directory.toList with
    | nil => exact absurd isSplit (Text.splitAll_ne_nil '/' directory.toList)
    | cons first rest =>
      rw [List.cons_append, leading_cons, leading_cons]
      by_cases empty : first = []
      · have more : rest ≠ [] := by
          rintro rfl
          rw [empty] at isSplit
          exact proper (String.toList_eq_nil_iff.mp (Text.eq_nil_of_splitAll isSplit))
        simp [more]
      · simp only [empty, if_false]
  rw [same, decide_eq_true_eq, components_eq, components_eq, pieces, lead, List.filterMap_append]
  simp [pieceComponent?]

end Path

namespace Diagnostic

/-! ## One of each identity -/

/-- A diagnostic of a list that stands for its identity: nothing of this identity is more severe, and
nothing of it comes later and is as severe. -/
def Prevails (diagnostics : List Diagnostic) (diagnostic : Diagnostic) : Prop :=
  ∃ before after, diagnostics = before ++ diagnostic :: after ∧
    (∀ earlier ∈ before, earlier.sameIdentity diagnostic = true →
      earlier.severity ≤ diagnostic.severity) ∧
    ∀ later ∈ after, later.sameIdentity diagnostic = true → ¬ diagnostic.severity ≤ later.severity

theorem mem_normalize_iff_prevails (diagnostics : List Diagnostic) (diagnostic : Diagnostic) :
    diagnostic ∈ normalize diagnostics ↔ Prevails diagnostics diagnostic := by
  rw [mem_normalize_iff_latest, List.getLast?_filter, List.find?_eq_some_iff_append]
  constructor
  · rintro ⟨greatest, _, after, before, reversed, others⟩
    have split : diagnostics = before.reverse ++ diagnostic :: after.reverse := by
      rw [← List.reverse_reverse diagnostics, reversed]
      simp
    refine ⟨before.reverse, after.reverse, split, ?_, ?_⟩
    · intro earlier member
      exact greatest earlier (split ▸ List.mem_append_left _ member)
    · intro later member alike above
      have below := greatest later (split ▸ List.mem_append_right _ (List.mem_cons_of_mem _ member)) alike
      have same : later.severity = diagnostic.severity := Severity.le_antisymm below above
      have different := others later (List.mem_reverse.mp member)
      simp [same, alike] at different
  · rintro ⟨before, after, rfl, earlierBelow, laterBelow⟩
    refine ⟨?_, ?_, after.reverse, before.reverse, by simp, ?_⟩
    · intro other member alike
      rcases List.mem_append.mp member with early | here
      · exact earlierBelow other early alike
      · rcases List.mem_cons.mp here with rfl | late
        · exact Nat.le_refl _
        · exact Nat.le_of_lt (Nat.lt_of_not_le (laterBelow other late alike))
    · simp [sameIdentity_self]
    · intro later member
      by_cases alike : later.sameIdentity diagnostic = true
      · have weaker : later.severity ≠ diagnostic.severity := by
          intro same
          apply laterBelow later (List.mem_reverse.mp member) alike
          rw [same]
          exact Nat.le_refl _
        simp [weaker]
      · simp [alike]

theorem normalize_of_ascending {diagnostics : List Diagnostic}
    (ascending : diagnostics.Pairwise fun first second => first.orderIdentity second = .lt) :
    normalize diagnostics = diagnostics := by
  apply eq_of_ascending (normalize_ascending diagnostics) ascending
  apply mem_normalize_iff
  intro first firstMember second secondMember equal
  exact eq_of_order_eq ascending firstMember secondMember equal

/-- In strictly ascending order no identity occurs twice. -/
theorem countP_of_ascending {diagnostics : List Diagnostic}
    (ascending : diagnostics.Pairwise fun first second => first.orderIdentity second = .lt)
    (diagnostic : Diagnostic) :
    diagnostics.countP (·.sameIdentity diagnostic) =
      if diagnostics.any (·.sameIdentity diagnostic) then 1 else 0 := by
  induction diagnostics with
  | nil => rfl
  | cons first rest ih =>
    rw [List.countP_cons, List.any_cons, ih (List.pairwise_cons.mp ascending).2]
    by_cases here : first.sameIdentity diagnostic = true
    · have alone : rest.any (·.sameIdentity diagnostic) = false := by
        rw [List.any_eq_false]
        intro other member alike
        have below := (List.pairwise_cons.mp ascending).1 other member
        rw [(orderIdentity_eq_eq_iff _ _).mpr (sameIdentity_trans here (sameIdentity_symm alike))] at below
        cases below
      simp [here, alone]
    · simp [here]

/-! ## The normal form -/

/-- Strictly ascending, one entry for each identity that occurs, and this the one that prevails. -/
structure IsNormalForm (diagnostics result : List Diagnostic) : Prop where
  ascending : result.Pairwise fun first second => first.orderIdentity second = .lt
  represented : ∀ diagnostic, result.countP (·.sameIdentity diagnostic) =
    if diagnostics.any (·.sameIdentity diagnostic) then 1 else 0
  prevails : ∀ diagnostic ∈ result, Prevails diagnostics diagnostic

theorem isNormalForm_normalize (diagnostics : List Diagnostic) :
    IsNormalForm diagnostics (normalize diagnostics) where
  ascending := normalize_ascending diagnostics
  represented diagnostic := by
    have occurs : (normalize diagnostics).any (·.sameIdentity diagnostic) =
        diagnostics.any (·.sameIdentity diagnostic) := by
      rw [Bool.eq_iff_iff, List.any_eq_true, List.any_eq_true]
      constructor
      · rintro ⟨kept, member, alike⟩
        exact ⟨kept, normalize_subset _ member, alike⟩
      · rintro ⟨other, member, alike⟩
        obtain ⟨kept, isKept, same, _⟩ := exists_severer_mem_normalize member
        exact ⟨kept, isKept, sameIdentity_trans (sameIdentity_symm same) alike⟩
    rw [countP_of_ascending (normalize_ascending diagnostics), occurs]
  prevails diagnostic member := (mem_normalize_iff_prevails diagnostics diagnostic).mp member

theorem IsNormalForm.eq_normalize {diagnostics result : List Diagnostic}
    (normal : IsNormalForm diagnostics result) : result = normalize diagnostics := by
  refine eq_of_ascending normal.ascending (normalize_ascending diagnostics) fun diagnostic => ?_
  constructor
  · intro member
    exact (mem_normalize_iff_prevails _ _).mpr (normal.prevails diagnostic member)
  · intro member
    have occurs : diagnostics.any (·.sameIdentity diagnostic) = true :=
      List.any_eq_true.mpr ⟨diagnostic, normalize_subset _ member, sameIdentity_self diagnostic⟩
    have counted := normal.represented diagnostic
    rw [occurs, if_pos rfl] at counted
    obtain ⟨kept, isKept, alike⟩ := List.countP_pos_iff.mp (counted ▸ Nat.one_pos)
    have prevails := (mem_normalize_iff_prevails _ _).mpr (normal.prevails kept isKept)
    have same := (orderIdentity_eq_eq_iff _ _).mpr alike
    rw [← eq_of_order_eq (normalize_ascending diagnostics) prevails member same]
    exact isKept

/-- The normal form exists, there is no other, and it is its own. The order sees no difference between two
diagnostics exactly if they have one identity, for which a path is its components: repeated slashes, single
dots in between and a slash at the end mean nothing. -/
theorem normalize_canonical (diagnostics : List Diagnostic) :
    (∀ result, IsNormalForm diagnostics result ↔ result = normalize diagnostics) ∧
      normalize (normalize diagnostics) = normalize diagnostics ∧
      (∀ first second : Diagnostic, first.orderIdentity second = .eq ↔
        first.ruleId = second.ruleId ∧ Path.components first.file = Path.components second.file ∧
          first.span = second.span ∧ first.message = second.message) ∧
      ∀ directory rest : String,
        Path.same (directory ++ "//" ++ rest) (directory ++ "/" ++ rest) = true ∧
          Path.same (directory ++ "/./" ++ rest) (directory ++ "/" ++ rest) = true ∧
          (directory ≠ "" → Path.same (directory ++ "/") directory = true) := by
  refine ⟨fun result => ⟨IsNormalForm.eq_normalize, ?_⟩, ?_, ?_, ?_⟩
  · rintro rfl
    exact isNormalForm_normalize diagnostics
  · exact normalize_of_ascending (normalize_ascending diagnostics)
  · intro first second
    rw [orderIdentity_eq_eq_iff]
    simp only [sameIdentity, Path.same, Bool.and_eq_true, decide_eq_true_eq, and_assoc]
  · intro directory rest
    refine ⟨?_, ?_, Path.same_of_trailing⟩
    · exact Path.same_of_idle "" (by decide) (by decide) directory rest
    · exact Path.same_of_idle "." (by decide) (by decide) directory rest

/-- Of three spellings of one path the later of the two errors stays, in its own spelling. -/
theorem normalize_canonical_spellings :
    let said (file : String) (severity : Severity) : Diagnostic := ⟨"no-eval", file, .ofLine 1, "", severity⟩
    IsNormalForm [said "a//b" .warning, said "a/./b" .error, said "a/b/" .error] [said "a/b/" .error] ∧
      Path.same ("a/b" ++ "/") "a/b" = true := by
  intro said
  have canonical := normalize_canonical [said "a//b" .warning, said "a/./b" .error, said "a/b/" .error]
  constructor
  · apply (canonical.1 _).mpr
    cbv
  · exact (canonical.2.2.2 "a/b" "").2.2 (by decide)

end Diagnostic

end Lintel
