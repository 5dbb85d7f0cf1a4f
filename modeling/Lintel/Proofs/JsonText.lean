import Lintel.Proofs.JsonReading

/-!
# One text, one value

The compact form of a value without doubles determines the value. It does so in front of any text that
does not go on with a number, which is what stands behind a value inside another one.
-/

set_option autoImplicit false

namespace Lintel.Json

mutual

/-- A value that holds no double. -/
def IsWhole : Value → Prop
  | .number (.float _) => False
  | .array items => AreWhole items
  | .object members => HaveWhole members
  | _ => True

/-- Items that hold no double. -/
def AreWhole : List Value → Prop
  | [] => True
  | item :: items => IsWhole item ∧ AreWhole items

/-- Members that hold no double. -/
def HaveWhole : List (String × Value) → Prop
  | [] => True
  | (_, value) :: members => IsWhole value ∧ HaveWhole members

end

theorem areWhole_of_forall {items : List Value} (whole : ∀ item ∈ items, IsWhole item) :
    AreWhole items := by
  induction items with
  | nil => trivial
  | cons item items ih =>
    exact ⟨whole item List.mem_cons_self, ih fun other member => whole other (List.mem_cons_of_mem _ member)⟩

theorem haveWhole_of_forall {members : List (String × Value)}
    (whole : ∀ member ∈ members, IsWhole member.2) : HaveWhole members := by
  induction members with
  | nil => trivial
  | cons member members ih =>
    exact ⟨whole member List.mem_cons_self, ih fun other inside => whole other (List.mem_cons_of_mem _ inside)⟩

/-! ## The first character -/

/-- What the first character of a value tells; all numbers begin alike. -/
def leadOf (c : Char) : Char := if c.isDigit ∨ c = '-' then '0' else c

/-- What the kind of a value says of its first character. -/
def Value.lead : Value → Char
  | .null => 'n'
  | .bool true => 't'
  | .bool false => 'f'
  | .number _ => '0'
  | .string _ => '"'
  | .array _ => '['
  | .object _ => '{'

theorem compact_lead {value : Value} (whole : IsWhole value) :
    ∃ c text, compact value = c :: text ∧ leadOf c = value.lead := by
  match value with
  | .null => exact ⟨_, _, rfl, rfl⟩
  | .bool true => exact ⟨_, _, rfl, rfl⟩
  | .bool false => exact ⟨_, _, rfl, rfl⟩
  | .number (.natural number) =>
    obtain ⟨c, after, written, digit, _⟩ := naturalText_cons number
    exact ⟨c, after, written, by simp [leadOf, digit, Value.lead]⟩
  | .number (.negative number) => exact ⟨_, _, rfl, rfl⟩
  | .number (.float bits) => exact whole.elim
  | .string text => exact ⟨_, _, rfl, rfl⟩
  | .array items => exact ⟨_, _, rfl, rfl⟩
  | .object members => exact ⟨_, _, rfl, rfl⟩

theorem lead_ne_bracket (value : Value) : value.lead ≠ ']' := by
  rcases value with _ | (_ | _) | _ | _ | _ | _ <;> simp [Value.lead]

private theorem lead_eq {first second : Value} {rest other : List Char} (firstWhole : IsWhole first)
    (secondWhole : IsWhole second) (same : compact first ++ rest = compact second ++ other) :
    first.lead = second.lead := by
  obtain ⟨c, text, written, lead⟩ := compact_lead firstWhole
  obtain ⟨d, otherText, otherWritten, otherLead⟩ := compact_lead secondWhole
  rw [written, otherWritten] at same
  rw [← lead, ← otherLead, (List.cons.inj same).1]

/-! ## Strings and numbers -/

theorem stringText_inj {first second : String} {rest other : List Char}
    (same : stringText first ++ rest = stringText second ++ other) : first = second ∧ rest = other := by
  rw [stringText_append, stringText_append] at same
  have read := readStringBody_escaped first rest
  rw [(List.cons.inj same).2, readStringBody_escaped second other] at read
  simpa [eq_comm] using read

private theorem takeWhile_naturalText (value : Nat) {rest : List Char} (ends : EndsNumber rest) :
    (naturalText value ++ rest).takeWhile Char.isDigit = naturalText value := by
  rw [List.takeWhile_append_of_pos fun c => isDigit_of_mem_naturalText]
  cases rest with
  | nil => simp
  | cons c more => simp [(ends c more rfl).1]

theorem naturalText_inj {first second : Nat} {rest other : List Char} (ends : EndsNumber rest)
    (otherEnds : EndsNumber other) (same : naturalText first ++ rest = naturalText second ++ other) :
    first = second ∧ rest = other := by
  have digits : naturalText first = naturalText second := by
    rw [← takeWhile_naturalText first ends, same, takeWhile_naturalText second otherEnds]
  have value := congrArg (fun text => Nat.ofDigitChars 10 text 0) digits
  simp only [naturalText, Nat.ofDigitChars_ten_toDigits] at value
  rw [digits] at same
  exact ⟨value, List.append_cancel_left same⟩

private theorem minus_ne_naturalText {number : Nat} {text rest : List Char} :
    '-' :: text ≠ naturalText number ++ rest := by
  obtain ⟨c, after, written, digit, _⟩ := naturalText_cons number
  rw [written]
  intro same
  rw [← (List.cons.inj same).1] at digit
  cases digit

theorem numberText_inj {first second : Number} {rest other : List Char} (firstWhole : IsWhole (.number first))
    (secondWhole : IsWhole (.number second)) (ends : EndsNumber rest) (otherEnds : EndsNumber other)
    (same : first.text ++ rest = second.text ++ other) : first = second ∧ rest = other := by
  match first, second with
  | .natural a, .natural b =>
    obtain ⟨rfl, rfl⟩ := naturalText_inj ends otherEnds same
    exact ⟨rfl, rfl⟩
  | .negative a, .negative b =>
    obtain ⟨rfl, rfl⟩ := naturalText_inj ends otherEnds (List.cons.inj same).2
    exact ⟨rfl, rfl⟩
  | .natural a, .negative b => exact absurd same.symm minus_ne_naturalText
  | .negative a, .natural b => exact absurd same minus_ne_naturalText
  | .float _, _ => exact firstWhole.elim
  | _, .float _ => exact secondWhole.elim

/-! ## Arrays and objects -/

private theorem bracket_ne_item {item : Value} {rest other : List Char} (whole : IsWhole item) :
    ']' :: rest ≠ compact item ++ other := by
  obtain ⟨c, text, written, lead⟩ := compact_lead whole
  rw [written]
  intro same
  rw [← (List.cons.inj same).1] at lead
  exact lead_ne_bracket item lead.symm

mutual

/-- Values with one compact form are equal, and so is what follows them. -/
theorem compact_inj {first second : Value} {rest other : List Char} (firstWhole : IsWhole first)
    (secondWhole : IsWhole second) (ends : EndsNumber rest) (otherEnds : EndsNumber other)
    (same : compact first ++ rest = compact second ++ other) : first = second ∧ rest = other := by
  have leads := lead_eq firstWhole secondWhole same
  match first, second with
  | .null, .null | .bool true, .bool true | .bool false, .bool false =>
    exact ⟨rfl, List.append_cancel_left same⟩
  | .number a, .number b =>
    obtain ⟨rfl, rfl⟩ := numberText_inj firstWhole secondWhole ends otherEnds same
    exact ⟨rfl, rfl⟩
  | .string a, .string b =>
    obtain ⟨rfl, rfl⟩ := stringText_inj same
    exact ⟨rfl, rfl⟩
  | .array items, .array others =>
    obtain ⟨rfl, rfl⟩ := compactItems_inj firstWhole secondWhole (List.cons.inj same).2
    exact ⟨rfl, rfl⟩
  | .object members, .object others =>
    obtain ⟨rfl, rfl⟩ := compactMembers_inj firstWhole secondWhole (List.cons.inj same).2
    exact ⟨rfl, rfl⟩

theorem compactItems_inj {items others : List Value} {rest other : List Char} (whole : AreWhole items)
    (othersWhole : AreWhole others) (same : compactItems items ++ rest = compactItems others ++ other) :
    items = others ∧ rest = other := by
  match items, others with
  | [], [] => exact ⟨rfl, (List.cons.inj same).2⟩
  | [], item :: others =>
    rw [compactItems_cons, List.append_assoc] at same
    exact absurd same (bracket_ne_item othersWhole.1)
  | item :: items, [] =>
    rw [compactItems_cons, List.append_assoc] at same
    exact absurd same.symm (bracket_ne_item whole.1)
  | item :: items, wanted :: others =>
    rw [compactItems_cons, compactItems_cons, List.append_assoc, List.append_assoc] at same
    obtain ⟨rfl, behind⟩ := compact_inj whole.1 othersWhole.1 (endsNumber_itemsBehind _ _)
      (endsNumber_itemsBehind _ _) same
    match items, others with
    | [], [] => exact ⟨rfl, (List.cons.inj behind).2⟩
    | [], _ :: _ => simp [itemsBehind] at behind
    | _ :: _, [] => simp [itemsBehind] at behind
    | next :: items, following :: others =>
      obtain ⟨tail, rfl⟩ := compactItems_inj whole.2 othersWhole.2 (List.cons.inj behind).2
      exact ⟨by rw [tail], rfl⟩

theorem compactMembers_inj {members others : List (String × Value)} {rest other : List Char}
    (whole : HaveWhole members) (othersWhole : HaveWhole others)
    (same : compactMembers members ++ rest = compactMembers others ++ other) :
    members = others ∧ rest = other := by
  match members, others with
  | [], [] => exact ⟨rfl, (List.cons.inj same).2⟩
  | [], (key, value) :: others => simp [compactMembers_cons, compactMembers, stringText] at same
  | (key, value) :: members, [] => simp [compactMembers_cons, compactMembers, stringText] at same
  | (key, value) :: members, (name, wanted) :: others =>
    rw [compactMembers_cons, compactMembers_cons, List.append_assoc, List.append_assoc] at same
    obtain ⟨rfl, values⟩ := stringText_inj same
    rw [List.cons_append, List.cons_append, List.append_assoc, List.append_assoc] at values
    have texts := (List.cons.inj values).2
    obtain ⟨rfl, behind⟩ := compact_inj whole.1 othersWhole.1 (endsNumber_membersBehind _ _)
      (endsNumber_membersBehind _ _) texts
    match members, others with
    | [], [] => exact ⟨rfl, (List.cons.inj behind).2⟩
    | [], _ :: _ => simp [membersBehind] at behind
    | _ :: _, [] => simp [membersBehind] at behind
    | next :: members, following :: others =>
      obtain ⟨tail, rfl⟩ := compactMembers_inj whole.2 othersWhole.2 (List.cons.inj behind).2
      exact ⟨by rw [tail], rfl⟩

end

/-- Values without doubles that have one compact text are equal. -/
theorem compactText_inj {first second : Value} (firstWhole : IsWhole first) (secondWhole : IsWhole second)
    (same : first.compactText = second.compactText) : first = second := by
  have texts : compact first ++ [] = compact second ++ [] := by
    rw [List.append_nil, List.append_nil]
    exact String.ofList_inj.mp same
  exact (compact_inj firstWhole secondWhole endsNumber_nil endsNumber_nil texts).1

end Lintel.Json
