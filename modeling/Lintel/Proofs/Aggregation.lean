import Lintel.Proofs.NormalForm

/-!
# Batches of diagnostics

The diagnostics of a run come in batches, one for each source, and some batches were brought into normal form
before. Neither the cuts between the batches nor these earlier normal forms show in the result. The order of
the batches shows in nothing but the spellings of paths.
-/

set_option autoImplicit false

namespace Lintel.Diagnostic

/-! ## Lists that are joined -/

/-- A diagnostic prevails in two lists together if it does in one of them and the other has nothing against
it: the second list may not be as severe, the first one may not be more severe. -/
theorem prevails_append (first second : List Diagnostic) (diagnostic : Diagnostic) :
    Prevails (first ++ second) diagnostic ↔
      (Prevails first diagnostic ∧ ∀ later ∈ second, later.sameIdentity diagnostic = true →
        ¬ diagnostic.severity ≤ later.severity) ∨
      (Prevails second diagnostic ∧ ∀ earlier ∈ first, earlier.sameIdentity diagnostic = true →
        earlier.severity ≤ diagnostic.severity) := by
  constructor
  · rintro ⟨before, after, split, earlierBelow, laterBelow⟩
    cases List.append_eq_append_iff.mp split with
    | inl inSecond =>
      obtain ⟨front, rfl, rfl⟩ := inSecond
      refine .inr ⟨⟨front, after, rfl, ?_, laterBelow⟩, ?_⟩
      · intro earlier member
        exact earlierBelow earlier (List.mem_append_right _ member)
      · intro earlier member
        exact earlierBelow earlier (List.mem_append_left _ member)
    | inr inFirst =>
      obtain ⟨back, rfl, behind⟩ := inFirst
      cases back with
      | nil =>
        rw [List.nil_append] at behind
        rw [← behind, List.append_nil]
        exact .inr ⟨⟨[], after, rfl, by simp, laterBelow⟩, earlierBelow⟩
      | cons here back =>
        obtain ⟨rfl, rfl⟩ := List.cons.inj behind
        refine .inl ⟨⟨before, back, rfl, earlierBelow, ?_⟩, ?_⟩
        · intro later member
          exact laterBelow later (List.mem_append_left _ member)
        · intro later member
          exact laterBelow later (List.mem_append_right _ member)
  · intro prevails
    cases prevails with
    | inl inFirst =>
      obtain ⟨⟨before, after, rfl, earlierBelow, laterBelow⟩, secondBelow⟩ := inFirst
      refine ⟨before, after ++ second, by simp, earlierBelow, ?_⟩
      intro later member
      cases List.mem_append.mp member with
      | inl inside => exact laterBelow later inside
      | inr behind => exact secondBelow later behind
    | inr inSecond =>
      obtain ⟨⟨before, after, rfl, earlierBelow, laterBelow⟩, firstBelow⟩ := inSecond
      refine ⟨first ++ before, after, by simp, ?_, laterBelow⟩
      intro earlier member
      cases List.mem_append.mp member with
      | inl ahead => exact firstBelow earlier ahead
      | inr inside => exact earlierBelow earlier inside

/-- What is said of the severities of an identity, and of all lower ones with each, holds of a list if it
holds of the normal form. -/
theorem forall_normalize_iff (Allowed : Severity → Prop)
    (lower : ∀ below above : Severity, below ≤ above → Allowed above → Allowed below)
    (diagnostics : List Diagnostic) (diagnostic : Diagnostic) :
    (∀ other ∈ normalize diagnostics, other.sameIdentity diagnostic = true → Allowed other.severity) ↔
      ∀ other ∈ diagnostics, other.sameIdentity diagnostic = true → Allowed other.severity := by
  constructor
  · intro allowed other member alike
    obtain ⟨kept, isKept, same, below⟩ := exists_severer_mem_normalize member
    apply lower other.severity kept.severity below
    exact allowed kept isKept (sameIdentity_trans (sameIdentity_symm same) alike)
  · intro allowed other member
    exact allowed other (normalize_subset _ member)

/-- The normal form of two lists together is determined by the normal forms of the two. -/
theorem normalize_append (first second : List Diagnostic) :
    normalize (normalize first ++ normalize second) = normalize (first ++ second) := by
  refine eq_of_ascending (normalize_ascending _) (normalize_ascending _) fun diagnostic => ?_
  have weaker := forall_normalize_iff (fun level => ¬ diagnostic.severity ≤ level)
    (fun _ _ below above reached => above (Nat.le_trans reached below)) second diagnostic
  have bounded := forall_normalize_iff (fun level => level ≤ diagnostic.severity)
    (fun _ _ below above => Nat.le_trans below above) first diagnostic
  rw [mem_normalize_iff_prevails, mem_normalize_iff_prevails, prevails_append, prevails_append, weaker,
    bounded]
  simp only [← mem_normalize_iff_prevails, normalize_of_ascending (normalize_ascending _)]

theorem normalize_flatten {batches units : List (List Diagnostic)}
    (alike : List.Forall₂ (fun batch unit => normalize unit = normalize batch) batches units) :
    normalize units.flatten = normalize batches.flatten := by
  induction alike with
  | nil => rfl
  | @cons batch unit batches units same _ ih =>
    rw [List.flatten_cons, List.flatten_cons, ← normalize_append, same, ih, normalize_append]

/-! ## Lists in another order -/

/-- Diagnostics that differ at most in how the path is spelled. -/
structure SameButSpelling (first second : Diagnostic) : Prop where
  ruleId : first.ruleId = second.ruleId
  file : Path.same first.file second.file = true
  span : first.span = second.span
  message : first.message = second.message
  severity : first.severity = second.severity

theorem sameButSpelling_iff (first second : Diagnostic) :
    SameButSpelling first second ↔
      first.sameIdentity second = true ∧ first.severity = second.severity := by
  simp only [sameIdentity, Bool.and_eq_true, decide_eq_true_eq]
  constructor
  · intro same
    exact ⟨⟨⟨⟨same.ruleId, same.file⟩, same.span⟩, same.message⟩, same.severity⟩
  · rintro ⟨⟨⟨⟨ruleId, file⟩, span⟩, message⟩, severity⟩
    exact ⟨ruleId, file, span, message, severity⟩

/-- Two lists in strictly ascending order in which every diagnostic has a partner of its identity in the
other list agree position by position. -/
theorem forall₂_of_ascending {Partner : Diagnostic → Diagnostic → Prop}
    (identity : ∀ left right, Partner left right → left.orderIdentity right = .eq)
    {first second : List Diagnostic}
    (firstAscending : first.Pairwise fun left right => left.orderIdentity right = .lt)
    (secondAscending : second.Pairwise fun left right => left.orderIdentity right = .lt)
    (rightward : ∀ left ∈ first, ∃ right ∈ second, Partner left right)
    (leftward : ∀ right ∈ second, ∃ left ∈ first, Partner left right) :
    List.Forall₂ Partner first second := by
  induction first generalizing second with
  | nil =>
    cases second with
    | nil => exact .nil
    | cons right rights =>
      obtain ⟨_, member, _⟩ := leftward right List.mem_cons_self
      cases member
  | cons left lefts ih =>
    cases second with
    | nil =>
      obtain ⟨_, member, _⟩ := rightward left List.mem_cons_self
      cases member
    | cons right rights =>
      obtain ⟨leftBelow, leftsAscending⟩ := List.pairwise_cons.mp firstAscending
      obtain ⟨rightBelow, rightsAscending⟩ := List.pairwise_cons.mp secondAscending
      -- if one of the two heads had its partner behind the other head, each would come before itself
      have heads : Partner left right := by
        obtain ⟨right', rightMember, leftPair⟩ := rightward left List.mem_cons_self
        obtain ⟨left', leftMember, rightPair⟩ := leftward right List.mem_cons_self
        cases List.mem_cons.mp rightMember with
        | inl isHead => exact isHead ▸ leftPair
        | inr rightLater =>
          cases List.mem_cons.mp leftMember with
          | inl isHead => exact isHead ▸ rightPair
          | inr leftLater =>
            have up := Std.TransCmp.lt_of_lt_of_eq (leftBelow left' leftLater) (identity _ _ rightPair)
            have down := Std.TransCmp.lt_of_lt_of_eq (rightBelow right' rightLater)
              (Std.OrientedCmp.eq_symm (identity _ _ leftPair))
            have circle := Std.TransCmp.lt_trans up down
            have equal : left.orderIdentity left = .eq := Std.ReflCmp.compare_self
            rw [equal] at circle
            cases circle
      refine .cons heads (ih leftsAscending rightsAscending ?_ ?_)
      · intro other member
        obtain ⟨partner, isPartner, pair⟩ := rightward other (List.mem_cons_of_mem _ member)
        cases List.mem_cons.mp isPartner with
        | inr later => exact ⟨partner, later, pair⟩
        | inl isHead =>
          have below := Std.TransCmp.lt_of_lt_of_eq (leftBelow other member) (identity _ _ pair)
          rw [isHead, identity _ _ heads] at below
          cases below
      · intro other member
        obtain ⟨partner, isPartner, pair⟩ := leftward other (List.mem_cons_of_mem _ member)
        cases List.mem_cons.mp isPartner with
        | inr later => exact ⟨partner, later, pair⟩
        | inl isHead =>
          rw [isHead] at pair
          have equal := Std.TransCmp.eq_trans (Std.OrientedCmp.eq_symm (identity _ _ heads))
            (identity _ _ pair)
          rw [rightBelow other member] at equal
          cases equal

/-- Whatever the order of the diagnostics, the same severity is kept of the same identity. -/
theorem exists_sameButSpelling {first second : List Diagnostic} (perm : first.Perm second)
    {diagnostic : Diagnostic} (member : diagnostic ∈ normalize first) :
    ∃ other ∈ normalize second, SameButSpelling diagnostic other := by
  have inside := perm.mem_iff.mp (normalize_subset _ member)
  obtain ⟨kept, isKept, same, below⟩ := exists_severer_mem_normalize inside
  have bounded := ((mem_normalize_iff_latest _ _).mp member).1
  have above := bounded kept (perm.mem_iff.mpr (normalize_subset _ isKept)) (sameIdentity_symm same)
  exact ⟨kept, isKept, (sameButSpelling_iff _ _).mpr ⟨same, Severity.le_antisymm below above⟩⟩

theorem SameButSpelling.symm {first second : Diagnostic} (same : SameButSpelling first second) :
    SameButSpelling second first := by
  obtain ⟨identity, severity⟩ := (sameButSpelling_iff _ _).mp same
  exact (sameButSpelling_iff _ _).mpr ⟨sameIdentity_symm identity, severity.symm⟩

theorem normalize_perm {first second : List Diagnostic} (perm : first.Perm second) :
    List.Forall₂ SameButSpelling (normalize first) (normalize second) := by
  refine forall₂_of_ascending ?_ (normalize_ascending first) (normalize_ascending second) ?_ ?_
  · intro left right same
    exact (orderIdentity_eq_eq_iff _ _).mpr ((sameButSpelling_iff _ _).mp same).1
  · intro left member
    exact exists_sameButSpelling perm member
  · intro right member
    obtain ⟨left, isLeft, same⟩ := exists_sameButSpelling perm.symm member
    exact ⟨left, isLeft, same.symm⟩

/-- However a list of diagnostics is cut into batches, and whichever of these are brought into normal form
before they are handed in, the result is the normal form of the list. Handing the batches in in another
order gives the same result but for the spellings of paths. -/
theorem aggregate_of_batches {diagnostics : List Diagnostic} {batches units : List (List Diagnostic)}
    (cut : batches.flatten = diagnostics)
    (handed : List.Forall₂ (fun batch unit => unit = batch ∨ unit = normalize batch) batches units) :
    aggregate units = normalize diagnostics ∧
      ∀ shuffled, units.Perm shuffled →
        List.Forall₂ SameButSpelling (aggregate units) (aggregate shuffled) := by
  constructor
  · have alike : List.Forall₂ (fun batch unit => normalize unit = normalize batch) batches units := by
      refine handed.imp fun batch unit isUnit => ?_
      cases isUnit with
      | inl same => rw [same]
      | inr normal => rw [normal, normalize_of_ascending (normalize_ascending batch)]
    rw [aggregate, normalize_flatten alike, cut]
  · intro shuffled perm
    exact normalize_perm perm.flatten

/-- One identity in three spellings and two severities; the first batch is brought into normal form before.
Handed in backwards, the batches keep the other spelling of the error. -/
theorem aggregate_of_batches_backwards :
    let said (file : String) (severity : Severity) : Diagnostic := ⟨"no-eval", file, .ofLine 1, "", severity⟩
    let batches := [[said "a//b" .warning, said "a/./b" .error], [said "a/b" .error]]
    let units := [normalize [said "a//b" .warning, said "a/./b" .error], [said "a/b" .error]]
    aggregate units = normalize batches.flatten ∧
      List.Forall₂ SameButSpelling (aggregate units) (aggregate units.reverse) ∧
      aggregate units = [said "a/b" .error] ∧ aggregate units.reverse = [said "a/./b" .error] := by
  intro said batches units
  have handed : List.Forall₂ (fun batch unit => unit = batch ∨ unit = normalize batch) batches units :=
    .cons (.inr rfl) (.cons (.inl rfl) .nil)
  obtain ⟨together, reordered⟩ := aggregate_of_batches rfl handed
  exact ⟨together, reordered _ units.reverse_perm.symm, by cbv, by cbv⟩

end Lintel.Diagnostic
