import Lintel.Suppression.Directive
import Lintel.Proofs.TextPieces
import Mathlib.Data.List.Forall2

/-!
# The grammar of directives

What a comment has to look like to be a directive, told by the text alone. Reading a comment gives a
directive exactly where this grammar has one, with the selectors and the faults that it prescribes; of all
other comments those with the marker are at fault, and the rest is ordinary. No mistake in a list of rules
makes a directive be about all of them.
-/

set_option autoImplicit false

namespace Lintel.Suppression

open Text (Cuts Trims)

/-! ## Ids -/

/-- The characters of a rule id between its dashes. -/
def IsWordChar (c : Char) : Prop :=
  'a' ≤ c ∧ c ≤ 'z' ∨ '0' ≤ c ∧ c ≤ '9'

/-- The form of a rule id, `[a-z][a-z0-9]*(-[a-z0-9]+)*`. -/
inductive HasIdForm : List Char → Prop where
  | word {first : Char} {rest : List Char} :
      'a' ≤ first → first ≤ 'z' → (∀ c ∈ rest, IsWordChar c) → HasIdForm (first :: rest)
  | dash {text word : List Char} :
      HasIdForm text → word ≠ [] → (∀ c ∈ word, IsWordChar c) → HasIdForm (text ++ '-' :: word)

theorem isIdChar_iff {c : Char} : isIdChar c = true ↔ IsWordChar c := by
  simp [isIdChar, isIdLetter, IsWordChar]

theorem IsWordChar.ne_dash {c : Char} (isWord : IsWordChar c) : c ≠ '-' := by
  rintro rfl
  revert isWord
  unfold IsWordChar
  decide

theorem HasIdForm.intercalate {text : List Char} {words : List (List Char)} (hasForm : HasIdForm text)
    (areWords : ∀ word ∈ words, word ≠ [] ∧ ∀ c ∈ word, IsWordChar c) :
    HasIdForm (['-'].intercalate (text :: words)) := by
  induction words generalizing text with
  | nil => simpa [List.intercalate] using hasForm
  | cons word words ih =>
    obtain ⟨nonempty, chars⟩ := areWords word List.mem_cons_self
    rw [Text.intercalate_cons_cons_eq]
    exact ih (.dash hasForm nonempty chars) fun other member => areWords other (List.mem_cons_of_mem _ member)

theorem HasIdForm.pieces {text : List Char} (hasForm : HasIdForm text) :
    (∃ first rest, text = first :: rest ∧ 'a' ≤ first ∧ first ≤ 'z') ∧
      ∀ word ∈ Text.splitAll '-' text, word ≠ [] ∧ ∀ c ∈ word, IsWordChar c := by
  have single : ∀ {word : List Char}, (∀ c ∈ word, IsWordChar c) → Text.splitAll '-' word = [word] := by
    intro word chars
    exact Text.splitAll_of_notMem fun inside => (chars '-' inside).ne_dash rfl
  induction hasForm with
  | @word first rest above below chars =>
    have isWord : ∀ c ∈ first :: rest, IsWordChar c :=
      List.forall_mem_cons.mpr ⟨.inl ⟨above, below⟩, chars⟩
    refine ⟨⟨first, rest, rfl, above, below⟩, ?_⟩
    rw [single isWord]
    exact List.forall_mem_singleton.mpr ⟨List.cons_ne_nil _ _, isWord⟩
  | @dash text word _ nonempty chars ih =>
    obtain ⟨⟨first, rest, isText, above, below⟩, words⟩ := ih
    refine ⟨⟨first, rest ++ '-' :: word, by rw [isText, List.cons_append], above, below⟩, ?_⟩
    rw [Text.splitAll_append, single chars]
    exact List.forall_mem_append.mpr ⟨words, List.forall_mem_singleton.mpr ⟨nonempty, chars⟩⟩

theorem isRuleId_iff {text : List Char} : isRuleId text = true ↔ HasIdForm text := by
  have unfolded : isRuleId text = true ↔ (text.head?.map isIdLetter).getD false = true ∧
      ∀ word ∈ Text.splitAll '-' text, word ≠ [] ∧ ∀ c ∈ word, IsWordChar c := by
    simp [isRuleId, isIdChar_iff]
  rw [unfolded]
  constructor
  · rintro ⟨starts, words⟩
    obtain ⟨nonempty, -, joined⟩ := Text.cuts_splitAll '-' text
    cases pieces : Text.splitAll '-' text with
    | nil => exact absurd pieces nonempty
    | cons piece later =>
      rw [pieces] at words joined
      obtain ⟨⟨filled, chars⟩, laterWords⟩ := List.forall_mem_cons.mp words
      cases piece with
      | nil => exact absurd rfl filled
      | cons first rest =>
        rw [← joined, Text.head?_intercalate_cons] at starts
        obtain ⟨above, below⟩ : 'a' ≤ first ∧ first ≤ 'z' := by simpa [isIdLetter] using starts
        have form := HasIdForm.word above below fun c member => chars c (List.mem_cons_of_mem _ member)
        exact joined ▸ form.intercalate laterWords
  · intro hasForm
    obtain ⟨⟨first, rest, rfl, above, below⟩, words⟩ := hasForm.pieces
    exact ⟨by simp [isIdLetter, above, below], words⟩

/-- The ids that directives may name: those of rules, and the one of rules that fail. -/
def IsKnown (registry : Registry) (id : String) : Prop :=
  (∃ rule ∈ registry.rules, rule.id = id) ∨ id = "rule-failure"

theorem isKnownId_iff {registry : Registry} {id : String} :
    isKnownId registry id = true ↔ IsKnown registry id := by
  rw [isKnownId, Bool.or_eq_true, decide_eq_true_eq]
  simp [IsKnown, Registry.contains, Registry.get?, ruleFailureId]

/-! ## Items of a list -/

/-- What an item of a list of rules names. -/
inductive Named where
  | all
  | known (id : String)
  | unknown (id : String)

namespace Named

def selector? : Named → Option Selector
  | all => some .all
  | known id => some (.rule id)
  | unknown _ => none

def fault? : Named → Option Fault
  | all => none
  | known _ => none
  | unknown id => some (.unknownRule id)

end Named

/-- An item, with blanks around it: the word for all rules, or an id that is known or not. -/
inductive Names (registry : Registry) (item : List Char) : Named → Prop where
  | all : Trims item "all".toList → Names registry item .all
  | known {id : String} : Trims item id.toList → id ≠ "all" → HasIdForm id.toList → IsKnown registry id →
      Names registry item (.known id)
  | unknown {id : String} : Trims item id.toList → id ≠ "all" → HasIdForm id.toList → ¬ IsKnown registry id →
      Names registry item (.unknown id)

section Items

variable {registry : Registry} {item : List Char} {items : List (List Char)}

theorem HasIdForm.nonempty {text : List Char} (hasForm : HasIdForm text) : text ≠ [] := by
  obtain ⟨⟨first, rest, rfl, -⟩, -⟩ := hasForm.pieces
  exact List.cons_ne_nil first rest

/-- An item that names something adds its selector or its fault to those of the items behind it. -/
theorem readSelectors_of_names {named : Named} (names : Names registry item named) :
    readSelectors registry (item :: items) =
      ((readSelectors registry items).1.map (named.selector?.toList ++ ·),
        named.fault?.toList ++ (readSelectors registry items).2) := by
  cases names with
  | all trims =>
    simp [readSelectors, Text.trim_eq_iff.mpr trims, Named.selector?, Named.fault?]
  | known trims notAll hasForm isKnown =>
    simp [readSelectors, Text.trim_eq_iff.mpr trims, hasForm.nonempty, notAll, isRuleId_iff.mpr hasForm,
      isKnownId_iff.mpr isKnown, Named.selector?, Named.fault?]
  | unknown trims notAll hasForm notKnown =>
    have refused : isKnownId registry _ = false := Bool.eq_false_iff.mpr fun isKnown => notKnown (isKnownId_iff.mp isKnown)
    simp [readSelectors, Text.trim_eq_iff.mpr trims, hasForm.nonempty, notAll, isRuleId_iff.mpr hasForm,
      refused, Named.selector?, Named.fault?]

theorem readSelectors_of_nameless (items : List (List Char)) (nameless : ∀ named, ¬ Names registry item named) :
    ∃ fault, readSelectors registry (item :: items) = (none, [fault]) := by
  obtain ⟨id, isId⟩ : ∃ id : String, id.toList = Text.trim item := ⟨String.ofList (Text.trim item), by simp⟩
  have trims : Trims item id.toList := isId ▸ Text.trims_trim item
  have isText : String.ofList id.toList = id := by simp
  by_cases isBlank : id.toList = []
  · exact ⟨.emptySelector, by simp [readSelectors, ← isId, isBlank]⟩
  · have notAll : id ≠ "all" := by
      rintro rfl
      exact nameless .all (.all trims)
    have malformed : isRuleId id.toList = false := by
      rw [Bool.eq_false_iff]
      intro isRule
      by_cases isKnown : IsKnown registry id
      · exact nameless _ (.known trims notAll (isRuleId_iff.mp isRule) isKnown)
      · exact nameless _ (.unknown trims notAll (isRuleId_iff.mp isRule) isKnown)
    exact ⟨.invalidRuleId id, by simp [readSelectors, ← isId, isBlank, notAll, malformed]⟩

theorem readSelectors_eq_some_iff {selectors : List Selector} {faults : List Fault} :
    readSelectors registry items = (some selectors, faults) ↔
      ∃ named, List.Forall₂ (Names registry) items named ∧ selectors = named.filterMap Named.selector? ∧
        faults = named.filterMap Named.fault? := by
  induction items generalizing selectors faults with
  | nil =>
    constructor
    · rintro ⟨⟩
      exact ⟨[], .nil, rfl, rfl⟩
    · rintro ⟨named, names, rfl, rfl⟩
      cases names
      rfl
  | cons item items ih =>
    constructor
    · intro isRead
      by_cases hasName : ∃ named, Names registry item named
      · obtain ⟨named, names⟩ := hasName
        rw [readSelectors_of_names names] at isRead
        cases behind : readSelectors registry items with
        | mk later laterFaults =>
          rw [behind] at isRead
          cases later with
          | none => cases isRead
          | some later =>
            obtain ⟨others, othersNamed, rfl, rfl⟩ := ih.mp behind
            cases isRead
            refine ⟨named :: others, .cons names othersNamed, ?_, ?_⟩
            · cases named <;> rfl
            · cases named <;> rfl
      · obtain ⟨fault, refused⟩ := readSelectors_of_nameless items (not_exists.mp hasName)
        rw [refused] at isRead
        cases isRead
    · rintro ⟨named, names, rfl, rfl⟩
      cases names with
      | @cons _ named _ others names othersNamed =>
        rw [readSelectors_of_names names, ih.mpr ⟨others, othersNamed, rfl, rfl⟩]
        cases named <;> rfl

theorem exists_item_of_mem {named : List Named} (names : List.Forall₂ (Names registry) items named) {name : Named}
    (member : name ∈ named) : ∃ item ∈ items, Names registry item name := by
  induction names with
  | nil => cases member
  | cons here _ ih =>
    cases member with
    | head => exact ⟨_, List.mem_cons_self, here⟩
    | tail _ later =>
      obtain ⟨item, listed, namesItem⟩ := ih later
      exact ⟨item, List.mem_cons_of_mem _ listed, namesItem⟩

theorem faults_readSelectors_of_none (refused : (readSelectors registry items).1 = none) :
    (readSelectors registry items).2 ≠ [] := by
  induction items with
  | nil => cases refused
  | cons item items ih =>
    by_cases hasName : ∃ named, Names registry item named
    · obtain ⟨named, names⟩ := hasName
      rw [readSelectors_of_names names] at refused ⊢
      rw [Option.map_eq_none_iff] at refused
      exact List.append_ne_nil_of_right_ne_nil _ (ih refused)
    · obtain ⟨fault, isRefused⟩ := readSelectors_of_nameless items (not_exists.mp hasName)
      rw [isRefused]
      exact List.cons_ne_nil fault []

end Items

/-! ## Directives -/

/-- How the name of an action is written. -/
def Action.name : Action → String
  | disableLine => "disable-line"
  | disableNextLine => "disable-next-line"
  | disableStatement => "disable-statement"
  | disable => "disable"
  | enable => "enable"

theorem Action.ofName?_eq_some_iff {name : String} {action : Action} :
    ofName? name = some action ↔ name = action.name := by
  constructor
  · intro isNamed
    unfold ofName? at isNamed
    repeat' split at isNamed
    all_goals cases isNamed
    all_goals assumption
  · rintro rfl
    cases action <;> decide

/-- What follows the marker of a directive, without the blanks around it: an action, which is then about all
rules, or an action, an equals sign and a list of rules that names at least one. -/
inductive WrittenBody (registry : Registry) : List Char → Directive → List Fault → Prop where
  | alone (action : Action) : WrittenBody registry action.name.toList ⟨action, [.all]⟩ []
  | listed {before list : List Char} {action : Action} {items : List (List Char)} {named : List Named} :
      '=' ∉ before → Trims before action.name.toList → Cuts ',' list items →
      List.Forall₂ (Names registry) items named → named.filterMap Named.selector? ≠ [] →
      WrittenBody registry (before ++ '=' :: list) ⟨action, named.filterMap Named.selector?⟩
        (named.filterMap Named.fault?)

theorem Named.fault_of_no_selector {named : List Named} (nonempty : named ≠ [])
    (noSelector : named.filterMap Named.selector? = []) : named.filterMap Named.fault? ≠ [] := by
  cases named with
  | nil => exact absurd rfl nonempty
  | cons first rest =>
    cases first with
    | all => cases noSelector
    | known id => cases noSelector
    | unknown id => exact List.cons_ne_nil _ _

section Bodies

variable {registry : Registry} {body before list : List Char} {directive : Directive} {faults : List Fault}

theorem readBody_alone (absent : '=' ∉ body) :
    readBody registry body = match Action.ofName? (String.ofList body) with
      | some action => (some ⟨action, [.all]⟩, [])
      | none => (none, [if body.isEmpty then .missingAction else .unknownAction (String.ofList body)]) := by
  simp only [readBody, Text.splitFirst_eq_none_iff.mpr absent]
  cases body with
  | nil => rfl
  | cons c rest => cases Action.ofName? (String.ofList (c :: rest)) <;> rfl

theorem readBody_listed (absent : '=' ∉ before) :
    readBody registry (before ++ '=' :: list) = match Action.ofName? (String.ofList (Text.trim before)) with
      | some action =>
        (((readSelectors registry (Text.splitAll ',' list)).1.bind nonEmpty).map fun selectors => ⟨action, selectors⟩,
          (readSelectors registry (Text.splitAll ',' list)).2)
      | none => (none, [if (Text.trim before).isEmpty then .missingAction
          else .unknownAction (String.ofList (Text.trim before))]) := by
  simp only [readBody, Text.splitFirst_eq_some_iff.mpr ⟨rfl, absent⟩]
  cases Text.trim before with
  | nil => rfl
  | cons c rest => cases Action.ofName? (String.ofList (c :: rest)) <;> rfl

theorem nonEmpty_eq_some_iff {selectors kept : List Selector} :
    nonEmpty selectors = some kept ↔ selectors = kept ∧ kept ≠ [] := by
  cases selectors with
  | nil => simp [nonEmpty, eq_comm]
  | cons first rest =>
    simp only [nonEmpty, List.isEmpty_cons, Bool.false_eq_true, if_false, Option.some.injEq]
    constructor
    · rintro rfl
      exact ⟨rfl, List.cons_ne_nil _ _⟩
    · exact And.left

theorem readBody_eq_some_iff :
    readBody registry body = (some directive, faults) ↔ WrittenBody registry body directive faults := by
  constructor
  · intro isRead
    by_cases present : '=' ∈ body
    · obtain ⟨before, list, rfl, absent⟩ := List.eq_append_cons_of_mem present
      rw [readBody_listed absent] at isRead
      cases isAction : Action.ofName? (String.ofList (Text.trim before)) with
      | none =>
        rw [isAction] at isRead
        cases isRead
      | some action =>
        rcases isList : readSelectors registry (Text.splitAll ',' list) with ⟨found, listFaults⟩
        rw [isAction, isList] at isRead
        obtain ⟨isDirective, rfl⟩ := Prod.mk.inj isRead
        obtain ⟨selectors, isKept, rfl⟩ := Option.map_eq_some_iff.mp isDirective
        obtain ⟨_, rfl, kept⟩ := Option.bind_eq_some_iff.mp isKept
        obtain ⟨rfl, nonempty⟩ := nonEmpty_eq_some_iff.mp kept
        obtain ⟨named, names, rfl, rfl⟩ := readSelectors_eq_some_iff.mp isList
        have trims : Trims before action.name.toList := by
          rw [← Text.trim_eq_iff, ← Action.ofName?_eq_some_iff.mp isAction, String.toList_ofList]
        exact .listed absent trims (Text.cuts_splitAll ',' list) names nonempty
    · rw [readBody_alone present] at isRead
      cases isAction : Action.ofName? (String.ofList body) with
      | none =>
        rw [isAction] at isRead
        cases isRead
      | some action =>
        rw [isAction] at isRead
        cases isRead
        have isName : body = action.name.toList := by
          rw [← Action.ofName?_eq_some_iff.mp isAction, String.toList_ofList]
        rw [isName]
        exact .alone action
  · intro written
    cases written with
    | alone action =>
      have absent : '=' ∉ action.name.toList := by cases action <;> decide
      have isAction := Action.ofName?_eq_some_iff.mpr (rfl : action.name = action.name)
      rw [readBody_alone absent, String.ofList_toList, isAction]
    | @listed before list action items named absent trims cuts names nonempty =>
      have isAction := Action.ofName?_eq_some_iff.mpr (rfl : action.name = action.name)
      have isRead := readSelectors_eq_some_iff.mpr ⟨named, names, rfl, rfl⟩
      rw [readBody_listed absent, Text.trim_eq_iff.mpr trims, String.ofList_toList, isAction,
        Text.splitAll_eq_iff.mpr cuts, isRead]
      simp [nonEmpty_eq_some_iff.mpr ⟨rfl, nonempty⟩]

theorem faults_readBody_of_none (refused : (readBody registry body).1 = none) :
    (readBody registry body).2 ≠ [] := by
  by_cases present : '=' ∈ body
  · obtain ⟨before, list, rfl, absent⟩ := List.eq_append_cons_of_mem present
    rw [readBody_listed absent] at refused ⊢
    cases isAction : Action.ofName? (String.ofList (Text.trim before)) with
    | none => exact List.cons_ne_nil _ _
    | some action =>
      rcases isList : readSelectors registry (Text.splitAll ',' list) with ⟨found, listFaults⟩
      rw [isAction, isList] at refused
      dsimp only at refused ⊢
      rw [Option.map_eq_none_iff] at refused
      cases found with
      | none =>
        have notFound := faults_readSelectors_of_none (congrArg Prod.fst isList)
        rwa [isList] at notFound
      | some found =>
        -- every item has a name, and all the names are unknown
        obtain ⟨named, names, rfl, rfl⟩ := readSelectors_eq_some_iff.mp isList
        rw [Option.bind_some] at refused
        apply Named.fault_of_no_selector
        · rintro rfl
          exact Text.splitAll_ne_nil ',' list (List.forall₂_nil_right_iff.mp names)
        · by_contra nonempty
          rw [nonEmpty_eq_some_iff.mpr ⟨rfl, nonempty⟩] at refused
          cases refused
  · rw [readBody_alone present] at refused ⊢
    cases isAction : Action.ofName? (String.ofList body) with
    | none => exact List.cons_ne_nil _ _
    | some action =>
      rw [isAction] at refused
      cases refused

end Bodies

/-! ## Comments -/

/-- The text with the marker in front, and what follows the marker without the blanks around it. -/
def Marked (text body : List Char) : Prop :=
  ∃ rest, Trims text ("skylos:".toList ++ rest) ∧ Trims rest body

/-- A comment is a directive with the old spelling anywhere in it, or else with a marker and a directive. -/
inductive Written (registry : Registry) (text : List Char) : Directive → List Fault → Prop where
  | pragma : "pragma: no skylos".toList <:+: text → Written registry text ⟨.disableLine, [.all]⟩ []
  | marked {body : List Char} {directive : Directive} {faults : List Fault} :
      ¬ "pragma: no skylos".toList <:+: text → Marked text body → WrittenBody registry body directive faults →
      Written registry text directive faults

section Comments

variable {registry : Registry} {text body : List Char}

theorem solid_pragma : Text.Solid "pragma: no skylos".toList where
  starts := by
    rintro c ⟨⟩
    rfl
  ends := by
    rintro c ⟨⟩
    rfl

theorem contains_pragma_trim : Text.contains pragma (Text.trim text) = true ↔ "pragma: no skylos".toList <:+: text := by
  rw [Text.contains_iff_isInfix]
  exact Text.infix_trim_iff (List.cons_ne_nil _ _) solid_pragma

theorem readComment_of_pragma (isPragma : "pragma: no skylos".toList <:+: text) :
    readComment registry text = (some ⟨.disableLine, [.all]⟩, []) := by
  simp [readComment, contains_pragma_trim.mpr isPragma]

theorem readComment_of_marked (noPragma : ¬ "pragma: no skylos".toList <:+: text) (isMarked : Marked text body) :
    readComment registry text = readBody registry body := by
  obtain ⟨rest, trims, trimsBody⟩ := isMarked
  have isTrimmed : Text.trim text = marker ++ rest := Text.trim_eq_iff.mpr trims
  have refused : Text.contains pragma (Text.trim text) = false :=
    Bool.eq_false_iff.mpr fun isPragma => noPragma (contains_pragma_trim.mp isPragma)
  have isPrefix : marker.isPrefixOf (marker ++ rest) = true :=
    List.isPrefixOf_iff_prefix.mpr (List.prefix_append _ _)
  rw [isTrimmed] at refused
  simp only [readComment, isTrimmed, refused, isPrefix, List.drop_left, Text.trim_eq_iff.mpr trimsBody,
    Bool.false_eq_true, if_false, if_true]

theorem readComment_of_unmarked (noPragma : ¬ "pragma: no skylos".toList <:+: text)
    (unmarked : ∀ body, ¬ Marked text body) : readComment registry text = (none, []) := by
  have refused : Text.contains pragma (Text.trim text) = false :=
    Bool.eq_false_iff.mpr fun isPragma => noPragma (contains_pragma_trim.mp isPragma)
  have noPrefix : marker.isPrefixOf (Text.trim text) = false := by
    rw [Bool.eq_false_iff]
    intro isPrefix
    obtain ⟨rest, isTrimmed⟩ := List.isPrefixOf_iff_prefix.mp isPrefix
    exact unmarked (Text.trim rest) ⟨rest, Text.trim_eq_iff.mp isTrimmed.symm, Text.trims_trim rest⟩
  simp [readComment, refused, noPrefix]

theorem readComment_eq_some_iff {directive : Directive} {faults : List Fault} :
    readComment registry text = (some directive, faults) ↔ Written registry text directive faults := by
  constructor
  · intro isRead
    by_cases isPragma : "pragma: no skylos".toList <:+: text
    · rw [readComment_of_pragma isPragma] at isRead
      cases isRead
      exact .pragma isPragma
    · by_cases isMarked : ∃ body, Marked text body
      · obtain ⟨body, isMarked⟩ := isMarked
        rw [readComment_of_marked isPragma isMarked] at isRead
        exact .marked isPragma isMarked (readBody_eq_some_iff.mp isRead)
      · rw [readComment_of_unmarked isPragma (not_exists.mp isMarked)] at isRead
        cases isRead
  · intro written
    cases written with
    | pragma isPragma => exact readComment_of_pragma isPragma
    | marked noPragma isMarked writtenBody =>
      rw [readComment_of_marked noPragma isMarked]
      exact readBody_eq_some_iff.mpr writtenBody

theorem readComment_eq_none_iff :
    readComment registry text = (none, []) ↔
      ¬ "pragma: no skylos".toList <:+: text ∧ ∀ body, ¬ Marked text body := by
  constructor
  · intro isRead
    have noPragma : ¬ "pragma: no skylos".toList <:+: text := by
      intro isPragma
      rw [readComment_of_pragma isPragma] at isRead
      cases isRead
    refine ⟨noPragma, fun body isMarked => ?_⟩
    rw [readComment_of_marked noPragma isMarked] at isRead
    exact faults_readBody_of_none (congrArg Prod.fst isRead) (congrArg Prod.snd isRead)
  · rintro ⟨noPragma, unmarked⟩
    exact readComment_of_unmarked noPragma unmarked

theorem Written.all_named {directive : Directive} {faults : List Fault}
    (written : Written registry text directive faults) (isAll : .all ∈ directive.selectors) :
    "pragma: no skylos".toList <:+: text ∨ (∃ body, Marked text body ∧ '=' ∉ body) ∨
      ∃ before list items item, Marked text (before ++ '=' :: list) ∧ '=' ∉ before ∧ Cuts ',' list items ∧
        item ∈ items ∧ Trims item "all".toList := by
  cases written with
  | pragma isPragma => exact .inl isPragma
  | marked noPragma isMarked writtenBody =>
    cases writtenBody with
    | alone action =>
      right
      left
      exact ⟨_, isMarked, by cases action <;> decide⟩
    | @listed before list action items named absent trims cuts names nonempty =>
      right
      right
      obtain ⟨name, member, isSelector⟩ := List.mem_filterMap.mp isAll
      obtain ⟨item, listed, namesItem⟩ := exists_item_of_mem names member
      cases namesItem with
      | all trimsItem => exact ⟨before, list, items, item, isMarked, absent, cuts, listed, trimsItem⟩
      | known => cases isSelector
      | unknown => cases isSelector

end Comments

/-- A comment is read as a directive exactly if it is written as one, and then with the selectors and the faults
that the grammar gives it. It is passed over without a fault exactly if it has neither the old spelling nor the
marker, so a comment with the marker that is no directive is at fault. All rules are meant only where the
comment says so: by the old spelling, by no equals sign, or by an item. -/
theorem readComment_follows_grammar (registry : Registry) (text : List Char) :
    (∀ directive faults,
      readComment registry text = (some directive, faults) ↔ Written registry text directive faults) ∧
    (readComment registry text = (none, []) ↔
      ¬ "pragma: no skylos".toList <:+: text ∧ ∀ body, ¬ Marked text body) ∧
    (∀ body, ¬ "pragma: no skylos".toList <:+: text → Marked text body →
      (∀ directive faults, ¬ WrittenBody registry body directive faults) →
      ∃ fault faults, readComment registry text = (none, fault :: faults)) ∧
    ∀ directive faults, readComment registry text = (some directive, faults) → .all ∈ directive.selectors →
      "pragma: no skylos".toList <:+: text ∨ (∃ body, Marked text body ∧ '=' ∉ body) ∨
        ∃ before list items item, Marked text (before ++ '=' :: list) ∧ '=' ∉ before ∧ Cuts ',' list items ∧
          item ∈ items ∧ Trims item "all".toList := by
  refine ⟨fun directive faults => readComment_eq_some_iff, readComment_eq_none_iff, ?_, ?_⟩
  · intro body noPragma isMarked notWritten
    rw [readComment_of_marked noPragma isMarked]
    rcases isRead : readBody registry body with ⟨directive, faults⟩
    cases directive with
    | some directive => exact absurd (readBody_eq_some_iff.mp isRead) (notWritten directive faults)
    | none =>
      cases faults with
      | nil => exact absurd (congrArg Prod.snd isRead) (faults_readBody_of_none (congrArg Prod.fst isRead))
      | cons fault faults => exact ⟨fault, faults, rfl⟩
  · intro directive faults isRead isAll
    exact (readComment_eq_some_iff.mp isRead).all_named isAll

/-- A list with a known id, one that no rule has, and the word for all rules, in blanks. -/
theorem readComment_follows_grammar_mixed :
    let text := " skylos:disable = no-eval ,nope, all".toList
    Written .builtin text ⟨.disable, [.rule "no-eval", .all]⟩ [.unknownRule "nope"] ∧
      ("pragma: no skylos".toList <:+: text ∨ (∃ body, Marked text body ∧ '=' ∉ body) ∨
        ∃ before list items item, Marked text (before ++ '=' :: list) ∧ '=' ∉ before ∧ Cuts ',' list items ∧
          item ∈ items ∧ Trims item "all".toList) := by
  intro text
  obtain ⟨isWritten, -, -, isNamed⟩ := readComment_follows_grammar .builtin text
  have isRead : readComment .builtin text = (some ⟨.disable, [.rule "no-eval", .all]⟩, [.unknownRule "nope"]) := by
    decide +kernel
  exact ⟨(isWritten _ _).mp isRead, isNamed _ _ isRead (by decide)⟩

end Lintel.Suppression
