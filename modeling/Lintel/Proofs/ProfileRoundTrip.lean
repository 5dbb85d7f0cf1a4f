import Lintel.Proofs.ProfileOrder

/-!
# Profiles in their own JSON form

A profile that was read, in whatever spelling, is written with every field present and its tables in order.
What is written nests no deeper than what was read, so reading it gives the profile again. Doubles among the
parameters are left out.
-/

set_option autoImplicit false

namespace Lintel

open Json

/-! ## Parameters that were read -/

namespace RuleOverride

/-- A section whose parameters nest no deeper than `levels`. -/
def Readable (levels : Nat) (entry : RuleOverride) : Prop :=
  ∀ parameter ∈ entry.parameters, Json.Readable levels parameter.2

/-- A section that is being read, and its parameters if they have been seen. -/
def Draft.Readable (levels : Nat) (draft : Draft) : Prop :=
  ∀ table, draft.parameters = some table → ∀ parameter ∈ table, Json.Readable levels parameter.2

theorem Draft.Readable.finish {levels : Nat} {draft : Draft} (readable : draft.Readable levels) :
    draft.finish.Readable levels :=
  holds_getD (fun _ member => absurd member List.not_mem_nil) readable

theorem keepsAt_fields (depth : Nat) :
    ∀ field ∈ fields, field.KeepsAt depth (Draft.Readable (depth - 1)) := by
  intro field member
  simp only [fields, List.mem_cons, List.not_mem_nil, or_false] at member
  have others {α : Type} (value : Reader α) : value.GivesAt depth fun _ => True := fun _ _ _ _ => trivial
  rcases member with rfl | rfl | rfl
  · exact Field.keepsAt_of (others _) fun _ _ holds _ => holds
  · exact Field.keepsAt_of (others _) fun _ _ holds _ => holds
  · refine Field.keepsAt_of (gives_readTable (gives_readValue _)) fun _ table _ fits => ?_
    intro seen isSeen
    cases isSeen
    exact fits.2

theorem gives_readJson (depth : Nat) : readJson.GivesAt depth (Readable (depth - 1 - 1)) := by
  intro input entry rest read
  obtain ⟨⟨draft, behind⟩, isDraft, read⟩ := bind_eq_ok read
  cases read
  have empty : Draft.Readable (depth - 1 - 1) {} := fun _ seen => by cases seen
  exact Draft.Readable.finish (gives_readRecord (keepsAt_fields _) empty _ _ _ _ isDraft)

end RuleOverride

namespace Profile

/-- A profile that is being read, and its sections if they have been seen. -/
def Draft.Readable (levels : Nat) (draft : Draft) : Prop :=
  ∀ table, draft.rules = some table → ∀ entry ∈ table, entry.2.Readable levels

theorem keepsAt_fields (depth : Nat) :
    ∀ field ∈ fields, field.KeepsAt depth (Draft.Readable (depth - 1 - 1 - 1)) := by
  intro field member
  simp only [fields, List.mem_cons, List.not_mem_nil, or_false] at member
  have others {α : Type} (value : Reader α) : value.GivesAt depth fun _ => True := fun _ _ _ _ => trivial
  rcases member with rfl | rfl | rfl | rfl | rfl | rfl | rfl
  case inr.inr.inl =>
    refine Field.keepsAt_of (gives_readTable (RuleOverride.gives_readJson _)) fun _ table _ fits => ?_
    intro seen isSeen
    cases isSeen
    exact fits.2
  all_goals exact Field.keepsAt_of (others _) fun _ _ holds _ => holds

/-- Four containers are open around a parameter. -/
theorem readable_ofJson {text : String} {profile : Profile} (read : ofJson text = .ok profile) :
    ∀ entry ∈ profile.rules, entry.2.Readable (depthLimit - 4) := by
  obtain ⟨draft, input, rest, isDraft, rfl⟩ := exists_draft_of_ofJson read
  have empty : Draft.Readable (depthLimit - 4) {} := fun _ seen => by cases seen
  have readable := gives_readRecord (keepsAt_fields _) empty _ _ _ _ isDraft
  exact holds_getD (fun _ member => absurd member List.not_mem_nil) readable

end Profile

/-! ## Reading back -/

theorem RuleOverride.optionalText_back {levels : Nat} (text : Option String) :
    ReadsBack (readOptional readString) True levels (optionalText text) text :=
  readOptional_back (fun _ _ => ⟨trivial, nofun⟩) fun item _ => readString_back True levels item

theorem readTexts_back (levels : Nat) (texts : List String) :
    ReadsBack (readArray readString) True (levels + 1) (.array (texts.map .string)) texts := by
  have each : ReadsBack (readArray readString) (∀ text ∈ texts, True) (levels + 1)
      (.array (texts.map .string)) texts :=
    readArray_back (fun _ _ => startsItem_string _)
      fun text _ => readString_back True levels text
  exact each.mono fun _ _ _ => trivial

theorem RuleOverride.readJson_back {levels : Nat} {entry : RuleOverride} (inOrder : entry.InOrder)
    (readable : entry.Readable levels) (whole : HaveWhole entry.parameters) :
    ReadsBack readJson True (levels + 2) entry.toJson entry := by
  have parameters : ReadsBack (readTable readValue) True (levels + 1) (.object entry.parameters) entry.parameters :=
    readTable_self_back inOrder fun parameter member =>
      readValue_back (readable parameter member) (whole.isWhole parameter member)
  have enable : ReadsBack (readOptional readBool) True (levels + 1)
      ((entry.enable.map Value.bool).getD .null) entry.enable :=
    readOptional_back (fun _ _ => ⟨trivial, nofun⟩) fun item _ => readBool_back True _ item
  have fills : Fills fields (levels + 1) {}
      [("enable", (entry.enable.map Value.bool).getD .null), ("severity", optionalText entry.severity),
        ("parameters", .object entry.parameters)]
      (True ∧ True ∧ True ∧ True) ⟨some entry.enable, some entry.severity, some entry.parameters⟩ := by
    refine .cons rfl (Field.takes_of rfl enable) ?_
    refine .cons rfl (Field.takes_of rfl (optionalText_back _)) ?_
    exact .cons rfl (Field.takes_of rfl parameters) .nil
  have record := (readRecord_back "struct RuleOverride" fills).finish (fun draft => .ok draft.finish) rfl
  exact record.mono fun _ => ⟨trivial, trivial, trivial, trivial⟩

namespace Profile

theorem readJson_back {levels : Nat} {profile : Profile} (inOrder : profile.InOrder)
    (readable : ∀ entry ∈ profile.rules, entry.2.Readable levels)
    (whole : ∀ entry ∈ profile.rules, HaveWhole entry.2.parameters) :
    ReadsBack readJson True (levels + 4) profile.toJson profile := by
  have rules := readTable_back RuleOverride.toJson inOrder.rules fun entry member =>
    RuleOverride.readJson_back (inOrder.sections entry member) (readable entry member) (whole entry member)
  have ignores := readTable_back (fun ids : List String => .array (ids.map .string)) inOrder.perFileIgnores
    fun entry _ => readTexts_back (levels + 1) entry.2
  have fills : Fills fields (levels + 3) {} [("includeDefaultRules", .bool profile.includeDefaultRules),
      ("excludeRules", .array (profile.excludeRules.map .string)),
      ("rules", .object (profile.rules.map fun entry => (entry.1, entry.2.toJson))),
      ("severityReportThreshold", RuleOverride.optionalText profile.severityReportThreshold),
      ("failThreshold", RuleOverride.optionalText profile.failThreshold),
      ("exclude", .array (profile.exclude.map .string)),
      ("perFileIgnores", .object (profile.perFileIgnores.map fun entry =>
        (entry.1, .array (entry.2.map .string))))]
      (True ∧ True ∧ True ∧ True ∧ True ∧ True ∧ True ∧ True)
      ⟨some profile.includeDefaultRules, some profile.excludeRules, some profile.rules,
        some profile.severityReportThreshold, some profile.failThreshold, some profile.exclude,
        some profile.perFileIgnores⟩ := by
    refine .cons rfl (Field.takes_of rfl (readBool_back True _ _)) ?_
    refine .cons rfl (Field.takes_of rfl (readTexts_back _ _)) ?_
    refine .cons rfl (Field.takes_of rfl rules) ?_
    refine .cons rfl (Field.takes_of rfl (RuleOverride.optionalText_back _)) ?_
    refine .cons rfl (Field.takes_of rfl (RuleOverride.optionalText_back _)) ?_
    refine .cons rfl (Field.takes_of rfl (readTexts_back _ _)) ?_
    exact .cons rfl (Field.takes_of rfl ignores) .nil
  have record := (readRecord_back "struct Profile" fills).finish (fun draft => .ok draft.finish) rfl
  exact record.mono fun _ => ⟨trivial, trivial, trivial, trivial, trivial, trivial, trivial, trivial⟩

/-- A profile that was read from any text, and that holds no double among its parameters, is read again from
its own JSON form. -/
theorem ofJson_toJson {text : String} {profile : Profile} (read : ofJson text = .ok profile)
    (whole : ∀ entry ∈ profile.rules, HaveWhole entry.2.parameters) :
    ofJson profile.toJson.compactText = .ok profile := by
  have back := readJson_back (inOrder_ofJson read) (readable_ofJson read) whole depthLimit [] (by decide)
    endsNumber_nil
  rw [List.append_nil] at back
  have again : Yields True (ofJson profile.toJson.compactText) profile := by
    rw [ofJson, readWhole, Value.compactText, String.toList_ofList]
    exact back.andThen rfl
  exact again.success trivial

/-- A profile whose fields and sections are given by position, with a key twice, an escape and a null. -/
def positionalText : String :=
  "[false,[\"A\"],\x7b\"R\":[true,null,\x7b\"n\":1,\"d\":[null,\"\\u0041\"],\"n\":-5\x7d]\x7d]"

/-- The profile that it stands for. -/
def positional : Profile where
  includeDefaultRules := false
  excludeRules := ["A"]
  rules := [("R", ⟨some true, none, [("d", .array [.null, .string "A"]), ("n", .number (.negative 5))]⟩)]

theorem ofJson_toJson_positional :
    ofJson positionalText = .ok positional ∧
      (∀ entry ∈ positional.rules, HaveWhole entry.2.parameters) ∧
      ofJson positional.toJson.compactText = .ok positional := by
  have read : ofJson positionalText = .ok positional := by rfl
  have whole : ∀ entry ∈ positional.rules, HaveWhole entry.2.parameters := by
    intro entry member
    rw [List.mem_singleton.mp member]
    exact ⟨⟨trivial, trivial, trivial⟩, trivial, trivial⟩
  exact ⟨read, whole, ofJson_toJson read whole⟩

end Profile

end Lintel
