import Lintel.Analyzer

/-!
# How rules behave

What the analysis may rely on: rules keep to their own ids, and none asks for a run to be cancelled. The
rules that come with the program behave like that.
-/

set_option autoImplicit false

namespace Lintel

/-- Rules that keep to their own ids: none has an id that diagnostics about the analysis itself use, and
each finding goes under the id of the rule that made it. -/
structure Registry.OwnIds (registry : Registry) : Prop where
  notFailure : ∀ rule ∈ registry.rules, rule.id ≠ ruleFailureId
  notSuppression : ∀ rule ∈ registry.rules, rule.id ≠ invalidSuppressionId
  labelled : ∀ rule ∈ registry.rules, ∀ node context found,
    (rule.evaluate node context).outcome = .findings found → ∀ finding ∈ found, finding.ruleId = rule.id

/-- Rules none of which ever asks for the run to be cancelled. -/
def Registry.Calm (registry : Registry) : Prop :=
  ∀ rule ∈ registry.rules, ∀ node context, (rule.evaluate node context).cancels = false

namespace Registry

theorem mem_insertRule {rule inserted : Rule} {rules : List Rule} (member : rule ∈ insertRule inserted rules) :
    rule = inserted ∨ rule ∈ rules := by
  induction rules with
  | nil => exact .inl (List.mem_singleton.mp member)
  | cons first rest ih =>
    rw [insertRule] at member
    split at member
    · exact .inr member
    · split at member
      · exact List.mem_cons.mp member
      · rcases List.mem_cons.mp member with rfl | later
        · exact .inr List.mem_cons_self
        · exact (ih later).imp id (List.mem_cons_of_mem _)

theorem mem_of_mem_ofRules {rule : Rule} {rules : List Rule} (member : rule ∈ (ofRules rules).rules) :
    rule ∈ rules := by
  have grown : ∀ (later kept : List Rule),
      rule ∈ later.foldl (fun kept rule => insertRule rule kept) kept → rule ∈ later ∨ rule ∈ kept := by
    intro later
    induction later with
    | nil => exact fun _ inside => .inr inside
    | cons next later ih =>
      intro kept inside
      rcases ih _ inside with found | found
      · exact .inl (List.mem_cons_of_mem _ found)
      · rcases mem_insertRule found with rfl | earlier
        · exact .inl List.mem_cons_self
        · exact .inr earlier
  exact (grown rules [] member).resolve_right List.not_mem_nil

end Registry

namespace Rule

/-- A rule that keeps to its own id, which is not a reserved one, and never asks for a cancellation. -/
structure Orderly (rule : Rule) : Prop where
  notFailure : rule.id ≠ ruleFailureId
  notSuppression : rule.id ≠ invalidSuppressionId
  labelled : ∀ node context found, (rule.evaluate node context).outcome = .findings found →
    ∀ finding ∈ found, finding.ruleId = rule.id
  calm : ∀ node context, (rule.evaluate node context).cancels = false

/-- A rule that only lists findings is judged by what it lists. -/
theorem Orderly.of_found {rule : Rule} {list : Node → RuleContext → List Finding}
    (notFailure : rule.id ≠ ruleFailureId) (notSuppression : rule.id ≠ invalidSuppressionId)
    (evaluates : ∀ node context, rule.evaluate node context = .found (list node context))
    (labelled : ∀ node context, ∀ finding ∈ list node context, finding.ruleId = rule.id) :
    rule.Orderly where
  notFailure := notFailure
  notSuppression := notSuppression
  labelled node context found outcome := by
    rw [evaluates] at outcome
    cases outcome
    exact labelled node context
  calm node context := by
    rw [evaluates]
    rfl

/-- A rule that reads a parameter first fails without it, and otherwise only lists findings. -/
theorem Orderly.of_withInteger {rule : Rule} {name : String}
    {list : Node → RuleContext → Nat → List Finding} (notFailure : rule.id ≠ ruleFailureId)
    (notSuppression : rule.id ≠ invalidSuppressionId)
    (evaluates : ∀ node context,
      rule.evaluate node context = .withInteger context name (list node context))
    (labelled : ∀ node context value, ∀ finding ∈ list node context value, finding.ruleId = rule.id) :
    rule.Orderly where
  notFailure := notFailure
  notSuppression := notSuppression
  labelled node context found outcome := by
    rw [evaluates, Evaluation.withInteger] at outcome
    split at outcome
    · cases outcome
      exact labelled node context _
    · cases outcome
  calm node context := by
    rw [evaluates, Evaluation.withInteger]
    split <;> rfl

theorem orderly_aboutCalls {id description : String} {severity : Severity} {onByDefault : Bool}
    {complaint : CallView → Option String} (notFailure : id ≠ ruleFailureId)
    (notSuppression : id ≠ invalidSuppressionId) :
    (aboutCalls id description severity onByDefault complaint).Orderly := by
  refine .of_found notFailure notSuppression (fun _ _ => rfl) fun node context finding member => ?_
  simp only [Option.mem_toList, Option.bind_eq_some_iff, Option.map_eq_some_iff] at member
  obtain ⟨_, _, _, _, rfl⟩ := member
  rfl

theorem orderly_aboutHandlers {id description message : String} {isBad : Python.Handler → Bool}
    (notFailure : id ≠ ruleFailureId) (notSuppression : id ≠ invalidSuppressionId) :
    (aboutHandlers id description message isBad).Orderly := by
  refine .of_found notFailure notSuppression (fun _ _ => rfl) fun node context finding member => ?_
  split at member
  · split at member
    · rw [List.mem_singleton.mp member]
      rfl
    · cases member
  · cases member

theorem orderly_maxNestingDepth : maxNestingDepth.Orderly := by
  refine .of_withInteger (by decide) (by decide) (fun _ _ => rfl) fun node context limit finding member => ?_
  dsimp only at member
  split at member
  · rw [List.mem_singleton.mp member]
    rfl
  · cases member

theorem orderly_tooManyParameters : tooManyParameters.Orderly := by
  refine .of_withInteger (by decide) (by decide) (fun _ _ => rfl) fun node context limit finding member => ?_
  split at member
  · cases member
  · dsimp only at member
    split at member
    · rw [List.mem_singleton.mp member]
      rfl
    · cases member

theorem orderly_mutableDefaultArgument : mutableDefaultArgument.Orderly := by
  refine .of_found (by decide) (by decide) (fun _ _ => rfl) fun node context finding member => ?_
  split at member
  · cases member
  · obtain ⟨parameter, _, bound⟩ := List.mem_filterMap.mp member
    obtain ⟨value, _, found⟩ := Option.bind_eq_some_iff.mp bound
    split at found
    · rw [← Option.some.inj found]
      rfl
    · cases found

theorem orderly_noWildcardImport : noWildcardImport.Orderly := by
  refine .of_found (by decide) (by decide) (fun _ _ => rfl) fun node context finding member => ?_
  split at member
  · split at member
    · rw [List.mem_singleton.mp member]
      rfl
    · cases member
  · cases member

theorem orderly_compareToNone : compareToNone.Orderly := by
  refine .of_found (by decide) (by decide) (fun _ _ => rfl) fun node context finding member => ?_
  split at member
  · split at member
    · rw [List.mem_singleton.mp member]
      rfl
    · cases member
  · cases member

theorem orderly_hardcodedSecret : hardcodedSecret.Orderly := by
  refine .of_withInteger (by decide) (by decide) (fun _ _ => rfl) fun node context limit finding member => ?_
  split at member
  · split at member
    · obtain ⟨name, _, rfl⟩ := List.mem_map.mp member
      rfl
    · cases member
  · cases member

theorem orderly_builtin : ∀ rule ∈ Registry.builtin.rules, rule.Orderly := by
  intro rule member
  have listed := Registry.mem_of_mem_ofRules member
  simp only [Registry.builtinRules, List.mem_cons, List.not_mem_nil, or_false] at listed
  rcases listed with rfl | rfl | rfl | rfl | rfl | rfl | rfl | rfl | rfl | rfl | rfl
  · exact orderly_aboutHandlers (by decide) (by decide)
  · exact orderly_aboutHandlers (by decide) (by decide)
  · exact orderly_aboutCalls (by decide) (by decide)
  · exact orderly_aboutCalls (by decide) (by decide)
  · exact orderly_maxNestingDepth
  · exact orderly_tooManyParameters
  · exact orderly_mutableDefaultArgument
  · exact orderly_noWildcardImport
  · exact orderly_compareToNone
  · exact orderly_hardcodedSecret
  · exact orderly_aboutCalls (by decide) (by decide)

end Rule

namespace Registry

theorem ownIds_builtin : builtin.OwnIds where
  notFailure rule member := (Rule.orderly_builtin rule member).notFailure
  notSuppression rule member := (Rule.orderly_builtin rule member).notSuppression
  labelled rule member := (Rule.orderly_builtin rule member).labelled

theorem calm_builtin : builtin.Calm :=
  fun rule member => (Rule.orderly_builtin rule member).calm

end Registry

end Lintel
