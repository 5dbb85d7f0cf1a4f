import Lintel.Profile.File
import Lintel.Proofs.ConfigView
import Lintel.Proofs.JsonValues

/-!
# Tables of a profile

Whatever the text of a profile says, and in whatever order, the tables of the profile that is read from it
have their keys in ascending order, each of them once. This holds of both formats.
-/

set_option autoImplicit false

namespace Lintel

/-- A field that was not seen holds nothing. -/
theorem holds_getD {α : Type} {Holds : List α → Prop} {seen : Option (List α)} (empty : Holds [])
    (each : ∀ items, seen = some items → Holds items) : Holds (seen.getD []) := by
  cases seen with
  | none => exact empty
  | some items => exact each items rfl

/-- A section whose parameters stand in ascending order of name. -/
def RuleOverride.InOrder (entry : RuleOverride) : Prop :=
  Table.Ascending entry.parameters

/-- A profile whose tables stand in ascending order of key. -/
structure Profile.InOrder (profile : Profile) : Prop where
  rules : Table.Ascending profile.rules
  sections : ∀ entry ∈ profile.rules, entry.2.InOrder
  perFileIgnores : Table.Ascending profile.perFileIgnores

/-- A section that is being read, with its parameters in order if they have been seen. -/
def RuleOverride.Draft.InOrder (draft : Draft) : Prop :=
  ∀ table, draft.parameters = some table → Table.Ascending table

theorem RuleOverride.Draft.InOrder.finish {draft : Draft} (inOrder : draft.InOrder) : draft.finish.InOrder :=
  holds_getD List.Pairwise.nil inOrder

namespace Profile

/-- A profile that is being read, with those of its tables in order that have been seen. -/
structure Draft.InOrder (draft : Draft) : Prop where
  rules : ∀ table, draft.rules = some table →
    Table.Ascending table ∧ ∀ entry ∈ table, entry.2.InOrder
  perFileIgnores : ∀ table, draft.perFileIgnores = some table → Table.Ascending table

theorem Draft.inOrder_empty : Draft.InOrder {} where
  rules _ seen := by cases seen
  perFileIgnores _ seen := by cases seen

theorem Draft.InOrder.finish {draft : Draft} (inOrder : draft.InOrder) : draft.finish.InOrder := by
  have rules : Table.Ascending draft.finish.rules ∧ ∀ entry ∈ draft.finish.rules, entry.2.InOrder :=
    holds_getD ⟨List.Pairwise.nil, fun _ member => absurd member List.not_mem_nil⟩ inOrder.rules
  exact ⟨rules.1, rules.2, holds_getD List.Pairwise.nil inOrder.perFileIgnores⟩

end Profile

/-! ## Tables in JSON -/

namespace Json

/-- A reader that gives values of one sort only. -/
def Reader.Yields {α : Type} (reader : Reader α) (Holds : α → Prop) : Prop :=
  ∀ depth input value rest, reader depth input = .ok (value, rest) → Holds value

theorem yields_readTable {α : Type} {value : Reader α} {Holds : α → Prop} (yields : value.Yields Holds) :
    Reader.Yields (readTable value) fun table => Table.Ascending table ∧ ∀ entry ∈ table, Holds entry.2 :=
  fun depth => gives_readTable (yields (depth - 1))

/-- A field that keeps to what a record is like while it is being read. -/
def Field.Keeps {σ : Type} (field : Field σ) (Holds : σ → Prop) : Prop :=
  ∀ state depth input next rest, Holds state → field.read state depth input = .ok (next, rest) → Holds next

theorem Field.keeps_of {σ α : Type} {name : String} {current : σ → Option α} {put : σ → α → σ}
    {value : Reader α} {Holds : σ → Prop} {Fits : α → Prop} (yields : value.Yields Fits)
    (puts : ∀ state item, Holds state → Fits item → Holds (put state item)) :
    (Field.of name current put value).Keeps Holds :=
  fun state depth => Field.keepsAt_of (yields depth) puts state

theorem yields_readRecord {σ : Type} {Holds : σ → Prop} {fields : List (Field σ)} {unset : σ}
    (keeps : ∀ field ∈ fields, field.Keeps Holds) (holds : Holds unset) (expected : String) :
    Reader.Yields (readRecord expected fields unset) Holds :=
  fun depth => gives_readRecord (fun field member state => keeps field member state (depth - 1)) holds expected

end Json

namespace RuleOverride

theorem keeps_fields : ∀ field ∈ fields, field.Keeps Draft.InOrder := by
  intro field member
  simp only [fields, List.mem_cons, List.not_mem_nil, or_false] at member
  have others {α : Type} (value : Json.Reader α) : value.Yields fun _ => True := fun _ _ _ _ _ => trivial
  rcases member with rfl | rfl | rfl
  · exact Json.Field.keeps_of (others _) fun _ _ holds _ => holds
  · exact Json.Field.keeps_of (others _) fun _ _ holds _ => holds
  · refine Json.Field.keeps_of (Json.yields_readTable (others _)) fun _ table _ fits => ?_
    intro seen isSeen
    cases isSeen
    exact fits.1

theorem yields_readJson : Json.Reader.Yields readJson InOrder := by
  intro depth input entry rest read
  obtain ⟨⟨draft, behind⟩, isDraft, read⟩ := bind_eq_ok read
  cases read
  have empty : Draft.InOrder {} := fun _ seen => by cases seen
  exact (Json.yields_readRecord keeps_fields empty _ _ _ _ _ isDraft).finish

end RuleOverride

namespace Profile

theorem keeps_fields : ∀ field ∈ fields, field.Keeps Draft.InOrder := by
  intro field member
  simp only [fields, List.mem_cons, List.not_mem_nil, or_false] at member
  have others {α : Type} (value : Json.Reader α) : value.Yields fun _ => True := fun _ _ _ _ _ => trivial
  rcases member with rfl | rfl | rfl | rfl | rfl | rfl | rfl
  case inr.inr.inl =>
    refine Json.Field.keeps_of (Json.yields_readTable RuleOverride.yields_readJson) fun _ table holds fits => ?_
    refine ⟨fun seen isSeen => ?_, holds.perFileIgnores⟩
    cases isSeen
    exact fits
  case inr.inr.inr.inr.inr.inr =>
    refine Json.Field.keeps_of (Json.yields_readTable (others _)) fun _ table holds fits => ?_
    refine ⟨holds.rules, fun seen isSeen => ?_⟩
    cases isSeen
    exact fits.1
  -- the other fields are no tables and leave those that were read alone
  all_goals exact Json.Field.keeps_of (others _) fun _ _ holds _ => ⟨holds.rules, holds.perFileIgnores⟩

/-- A profile that was read from a text is what became of the fields that were seen. -/
theorem exists_draft_of_ofJson {text : String} {profile : Profile} (read : ofJson text = .ok profile) :
    ∃ draft input rest, Json.readRecord "struct Profile" fields {} Json.depthLimit input = .ok (draft, rest) ∧
      profile = draft.finish := by
  unfold ofJson Json.readWhole at read
  obtain ⟨⟨found, behind⟩, isFound, read⟩ := bind_eq_ok read
  obtain ⟨⟨draft, later⟩, isDraft, isFound⟩ := bind_eq_ok isFound
  cases isFound
  dsimp only at read
  split at read
  · cases read
    exact ⟨draft, _, _, isDraft, rfl⟩
  · cases read

theorem inOrder_ofJson {text : String} {profile : Profile} (read : ofJson text = .ok profile) :
    profile.InOrder := by
  obtain ⟨draft, input, rest, isDraft, rfl⟩ := exists_draft_of_ofJson read
  exact (Json.yields_readRecord keeps_fields Draft.inOrder_empty _ _ _ _ _ isDraft).finish

end Profile

/-! ## Tables in YAML -/

namespace Yaml

theorem forall_of_mapM {α β : Type} {read : α → Option β} (Holds : β → Prop)
    (each : ∀ item value, read item = some value → Holds value) {items : List α} {values : List β}
    (mapped : items.mapM read = some values) : ∀ value ∈ values, Holds value := by
  induction items generalizing values with
  | nil =>
    cases mapped
    exact fun _ member => absurd member List.not_mem_nil
  | cons item items ih =>
    rw [List.mapM_cons] at mapped
    obtain ⟨value, isValue, mapped⟩ := Option.bind_eq_some_iff.mp mapped
    obtain ⟨later, isLater, mapped⟩ := Option.bind_eq_some_iff.mp mapped
    cases mapped
    intro other member
    cases List.mem_cons.mp member with
    | inl isFirst =>
      rw [isFirst]
      exact each item value isValue
    | inr inside => exact ih isLater other inside

theorem ascending_of_table? {α : Type} {value : Node → Option α} (Holds : α → Prop)
    (each : ∀ node item, value node = some item → Holds item) {node : Node} {table : Table α}
    (read : node.table? value = some table) :
    Table.Ascending table ∧ ∀ entry ∈ table, Holds entry.2 := by
  obtain ⟨entries, _, read⟩ := Option.bind_eq_some_iff.mp read
  obtain ⟨items, isItems, read⟩ := Option.bind_eq_some_iff.mp read
  cases read
  refine ⟨Table.ascending_ofList items, fun entry member => ?_⟩
  refine forall_of_mapM (fun entry => Holds entry.2) ?_ isItems entry
    (Table.mem_of_mem_ofList member)
  intro found item isItem
  obtain ⟨inner, isInner, isItem⟩ := Option.bind_eq_some_iff.mp isItem
  cases isItem
  exact each _ _ isInner

theorem record?_invariant {σ : Type} (Holds : σ → Prop) {field : σ → String → Node → Option σ}
    (keeps : ∀ state key node next, Holds state → field state key node = some next → Holds next)
    {unset last : σ} (holds : Holds unset) {node : Node} (read : node.record? field unset = some last) :
    Holds last := by
  obtain ⟨entries, isEntries, folded⟩ := Option.bind_eq_some_iff.mp read
  clear read isEntries
  induction entries generalizing unset with
  | nil =>
    cases folded
    exact holds
  | cons entry entries ih =>
    rw [List.foldlM_cons] at folded
    obtain ⟨next, isNext, folded⟩ := Option.bind_eq_some_iff.mp folded
    exact ih (keeps unset entry.1 entry.2 next holds isNext) folded

theorem setOnce_eq_some {α σ : Type} {current value : Option α} {put : α → σ} {next : σ}
    (set : setOnce current value put = some next) : ∃ item, value = some item ∧ next = put item := by
  unfold setOnce at set
  split at set
  · cases set
  · obtain ⟨item, isItem, isNext⟩ := Option.map_eq_some_iff.mp set
    exact ⟨item, isItem, isNext.symm⟩

end Yaml

theorem RuleOverride.inOrder_ofYaml? {node : Yaml.Node} {entry : RuleOverride}
    (read : ofYaml? node = some entry) : entry.InOrder := by
  obtain ⟨draft, isDraft, rfl⟩ := Option.map_eq_some_iff.mp read
  have empty : Draft.InOrder {} := fun _ seen => by cases seen
  refine (Yaml.record?_invariant Draft.InOrder ?_ empty isDraft).finish
  intro state key node next holds set
  unfold yamlField at set
  split_ifs at set
  · obtain ⟨_, _, rfl⟩ := Yaml.setOnce_eq_some set
    exact holds
  · obtain ⟨_, _, rfl⟩ := Yaml.setOnce_eq_some set
    exact holds
  · obtain ⟨table, isTable, rfl⟩ := Yaml.setOnce_eq_some set
    intro seen isSeen
    cases isSeen
    exact (Yaml.ascending_of_table? (fun _ => True) (fun _ _ _ => trivial) isTable).1

namespace Profile

theorem inOrder_ofYaml? {text : String} {profile : Profile} (read : ofYaml? text = some profile) :
    profile.InOrder := by
  obtain ⟨root, _, read⟩ := Option.bind_eq_some_iff.mp read
  obtain ⟨draft, isDraft, read⟩ := Option.bind_eq_some_iff.mp read
  cases read
  refine (Yaml.record?_invariant Draft.InOrder ?_ Draft.inOrder_empty isDraft).finish
  intro state key node next holds set
  unfold yamlField at set
  split_ifs at set
  all_goals obtain ⟨table, isTable, rfl⟩ := Yaml.setOnce_eq_some set
  -- as in JSON, only two of the fields are tables
  all_goals try exact ⟨holds.rules, holds.perFileIgnores⟩
  · refine ⟨fun seen isSeen => ?_, holds.perFileIgnores⟩
    cases isSeen
    exact Yaml.ascending_of_table? RuleOverride.InOrder (fun _ _ => RuleOverride.inOrder_ofYaml?) isTable
  · refine ⟨holds.rules, fun seen isSeen => ?_⟩
    cases isSeen
    exact (Yaml.ascending_of_table? (fun _ => True) (fun _ _ _ => trivial) isTable).1

/-- A profile that is read from a text, in either format, has its tables in order. -/
theorem inOrder_ofText {path text : String} {profile : Profile} (read : ofText path text = .ok profile) :
    profile.InOrder := by
  unfold ofText at read
  split at read
  · split at read
    · rename_i found isFound
      cases read
      exact inOrder_ofYaml? isFound
    · cases read
  · split at read
    · rename_i found isFound
      cases read
      exact inOrder_ofJson isFound
    · cases read

end Profile

end Lintel
