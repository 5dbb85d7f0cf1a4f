import Lintel.Proofs.JsonText
import Lintel.Proofs.Stages
import Lintel.Proofs.Table

/-!
# Values that were read

What reading can give: whole numbers in the range of the format, tables in order, and no more containers
inside one another than were allowed. A value of this kind without doubles is read back from its compact form.
Doubles are left out, because reading them back rests on how they are rounded.
-/

set_option autoImplicit false

namespace Lintel.Json

/-! ## Results of readers -/

/-- A reader that gives values of one sort only, if it may open `depth` containers. -/
def Reader.GivesAt {α : Type} (reader : Reader α) (depth : Nat) (Holds : α → Prop) : Prop :=
  ∀ input value rest, reader depth input = .ok (value, rest) → Holds value

theorem mismatchAt_ne_ok {α : Type} {expected : String} {input : List Char} {result : α} :
    (mismatchAt expected input : Except Fault α) ≠ .ok result := by
  intro read
  unfold mismatchAt at read
  dsimp only at read
  split at read
  case h_1 | h_7 | h_8 => cases read
  case h_9 =>
    split at read
    · obtain ⟨_, _, read⟩ := bind_eq_ok read
      cases read
    · cases read
  all_goals
    obtain ⟨_, _, read⟩ := bind_eq_ok read
    cases read

theorem readItems_invariant {α : Type} {Holds : α → Prop} {item : List Char → Except Fault (α × List Char)}
    (each : ∀ input value rest, item input = .ok (value, rest) → Holds value) (fuel : Nat) {first : Bool}
    {input rest : List Char} {values : List α} (read : readItems item fuel first input = .ok (values, rest)) :
    ∀ value ∈ values, Holds value := by
  induction fuel generalizing first input values rest with
  | zero => cases read
  | succ fuel ih =>
    rw [readItems] at read
    obtain ⟨next, _, read⟩ := bind_eq_ok read
    cases next with
    | none =>
      cases read
      exact fun _ member => absurd member List.not_mem_nil
    | some start =>
      obtain ⟨⟨value, behind⟩, isValue, read⟩ := bind_eq_ok read
      obtain ⟨⟨later, left⟩, isLater, read⟩ := bind_eq_ok read
      cases read
      intro other member
      rcases List.mem_cons.mp member with isFirst | inside
      · rw [isFirst]
        exact each _ _ _ isValue
      · exact ih isLater other inside

theorem readMembers_invariant {σ : Type} (Holds : σ → Prop)
    {member : σ → String → Except Fault (List Char → Except Fault (σ × List Char))}
    (keeps : ∀ state key read input next rest, Holds state → member state key = .ok read →
      read input = .ok (next, rest) → Holds next) (fuel : Nat) {first : Bool} {state last : σ}
    {input rest : List Char} (holds : Holds state)
    (read : readMembers member fuel first state input = .ok (last, rest)) : Holds last := by
  induction fuel generalizing first state input with
  | zero => cases read
  | succ fuel ih =>
    rw [readMembers] at read
    obtain ⟨next, _, read⟩ := bind_eq_ok read
    cases next with
    | none =>
      cases read
      exact holds
    | some found =>
      obtain ⟨key, behind⟩ := found
      obtain ⟨value, isValue, read⟩ := bind_eq_ok read
      obtain ⟨colon, _, read⟩ := bind_eq_ok read
      obtain ⟨⟨middle, later⟩, isMiddle, read⟩ := bind_eq_ok read
      exact ih (keeps state key value colon middle later holds isValue isMiddle) read

section Containers

variable {α σ : Type} {reader : Reader α} {Fits : α → Prop} {Holds : σ → Prop} {depth : Nat}

theorem gives_readArray (gives : reader.GivesAt (depth - 1) Fits) :
    Reader.GivesAt (readArray reader) depth fun items => ∀ item ∈ items, Fits item := by
  intro input items rest read
  unfold readArray at read
  split at read
  · split at read
    · cases read
    · obtain ⟨⟨found, behind⟩, isFound, read⟩ := bind_eq_ok read
      obtain ⟨_, _, read⟩ := bind_eq_ok read
      cases read
      exact readItems_invariant gives _ isFound
  · exact absurd read mismatchAt_ne_ok

theorem gives_readTable (gives : reader.GivesAt (depth - 1) Fits) :
    Reader.GivesAt (readTable reader) depth fun table =>
      Table.Ascending table ∧ ∀ entry ∈ table, Fits entry.2 := by
  intro input table rest read
  unfold readTable at read
  split at read
  · split at read
    · cases read
    · obtain ⟨⟨found, behind⟩, isFound, read⟩ := bind_eq_ok read
      obtain ⟨_, _, read⟩ := bind_eq_ok read
      cases read
      refine readMembers_invariant (fun table => Table.Ascending table ∧ ∀ entry ∈ table, Fits entry.2) ?_ _ ?_
        isFound
      · intro earlier key reader start next later holds isReader isRead
        cases isReader
        obtain ⟨⟨item, remaining⟩, isItem, isRead⟩ := bind_eq_ok isRead
        cases isRead
        refine ⟨Table.ascending_insert _ _ holds.1, fun entry member => ?_⟩
        cases Table.mem_insert member with
        | inl added =>
          rw [added]
          exact gives _ _ _ isItem
        | inr before => exact holds.2 entry before
      · exact ⟨List.Pairwise.nil, fun _ member => absurd member List.not_mem_nil⟩
  · exact absurd read mismatchAt_ne_ok

/-- A field that keeps to what a record is like while it is being read. -/
def Field.KeepsAt (field : Field σ) (depth : Nat) (Holds : σ → Prop) : Prop :=
  ∀ state input next rest, Holds state → field.read state depth input = .ok (next, rest) → Holds next

theorem Field.keepsAt_of {name : String} {current : σ → Option α} {put : σ → α → σ}
    (gives : reader.GivesAt depth Fits) (puts : ∀ state item, Holds state → Fits item → Holds (put state item)) :
    (Field.of name current put reader).KeepsAt depth Holds := by
  intro state input next rest holds read
  obtain ⟨⟨item, behind⟩, isItem, read⟩ := bind_eq_ok read
  cases read
  exact puts state item holds (gives _ _ _ isItem)

theorem readPositional_invariant {fields : List (Field σ)} (keeps : ∀ field ∈ fields, field.KeepsAt depth Holds)
    {first : Bool} {state last : σ} {input rest : List Char} (holds : Holds state)
    (read : readPositional depth fields first state input = .ok (last, rest)) : Holds last := by
  induction fields generalizing first state input with
  | nil =>
    cases read
    exact holds
  | cons field fields ih =>
    rw [readPositional] at read
    obtain ⟨next, _, read⟩ := bind_eq_ok read
    cases next with
    | none =>
      cases read
      exact holds
    | some start =>
      obtain ⟨⟨middle, behind⟩, isMiddle, read⟩ := bind_eq_ok read
      have kept := keeps field List.mem_cons_self state start middle behind holds isMiddle
      exact ih (fun other member => keeps other (List.mem_cons_of_mem _ member)) kept read

theorem gives_readRecord {fields : List (Field σ)} {unset : σ}
    (keeps : ∀ field ∈ fields, field.KeepsAt (depth - 1) Holds) (holds : Holds unset) (expected : String) :
    Reader.GivesAt (readRecord expected fields unset) depth Holds := by
  intro input record rest read
  unfold readRecord at read
  split at read
  · split at read
    · cases read
    · obtain ⟨⟨found, behind⟩, isFound, read⟩ := bind_eq_ok read
      obtain ⟨_, _, read⟩ := bind_eq_ok read
      cases read
      exact readPositional_invariant keeps holds isFound
  · split at read
    · cases read
    · obtain ⟨⟨found, behind⟩, isFound, read⟩ := bind_eq_ok read
      obtain ⟨_, _, read⟩ := bind_eq_ok read
      cases read
      refine readMembers_invariant Holds ?_ _ holds isFound
      intro state key reader start next later held isReader isRead
      split at isReader
      · cases isReader
      · rename_i field isField
        split at isReader
        · cases isReader
        · cases isReader
          exact keeps field (List.mem_of_find?_eq_some isField) state start next later held isRead
  · exact absurd read mismatchAt_ne_ok

end Containers

/-! ## Numbers -/

/-- A number as reading gives it. -/
def Number.InRange : Number → Prop
  | .natural value => value ≤ largestWhole
  | .negative magnitude => 0 < magnitude ∧ magnitude ≤ 0x8000000000000000
  | .float _ => True

theorem takeDigits_le (input : List Char) {start : Nat} (taken : Nat) (fits : start ≤ largestWhole) :
    (takeDigits start taken input).1 ≤ largestWhole := by
  induction input generalizing start taken with
  | nil => exact fits
  | cons c rest ih =>
    rw [takeDigits]
    split
    · dsimp only
      split
      · rename_i next
        exact ih _ next
      · exact fits
    · exact fits

theorem IsFloat.inRange {result : Except Fault (Number × List Char)} (float : IsFloat result) {number : Number}
    {rest : List Char} (read : result = .ok (number, rest)) : number.InRange := by
  obtain ⟨bits, rfl⟩ := float number rest read
  trivial

theorem inRange_wholeNumber {positive : Bool} {significand : Nat} {input rest : List Char} {number : Number}
    (fits : significand ≤ largestWhole)
    (read : readUnsigned.wholeNumber positive significand input = .ok (number, rest)) : number.InRange := by
  rw [readUnsigned.wholeNumber] at read
  split at read
  · cases read
    exact fits
  · split at read
    · exact (isFloat_floatOfParts _ _ _ _).inRange read
    · rename_i inside
      cases read
      rw [not_or, Nat.not_lt] at inside
      exact ⟨Nat.pos_of_ne_zero inside.1, inside.2⟩

theorem inRange_readUnsigned {positive : Bool} {input rest : List Char} {number : Number}
    (read : readUnsigned positive input = .ok (number, rest)) : number.InRange := by
  have fits := takeDigits_le input 0 (Nat.zero_le _)
  unfold readUnsigned at read
  split at read
  · cases read
  · rename_i c after
    split at read
    · cases read
    · split at read
      · cases read
      · generalize takeDigits 0 0 (c :: after) = taken at read fits
        obtain ⟨significand, count, behind⟩ := taken
        dsimp only at read fits
        split at read
        · exact (isFloat_readFraction _ _ _ _).inRange read
        · exact (isFloat_readExponent _ _ _ _).inRange read
        · exact (isFloat_readExponent _ _ _ _).inRange read
        · split at read
          · split at read
            · exact (isFloat_readFraction _ _ _ _).inRange read
            · exact (isFloat_readScale _ _ _ _).inRange read
          · exact inRange_wholeNumber fits read
        · exact inRange_wholeNumber fits read

/-! ## Values -/

/-- A value as reading gives it, with at most `levels` containers inside one another. -/
inductive Readable : Nat → Value → Prop where
  | null {levels : Nat} : Readable levels .null
  | bool {levels : Nat} {value : Bool} : Readable levels (.bool value)
  | number {levels : Nat} {value : Number} : value.InRange → Readable levels (.number value)
  | string {levels : Nat} {value : String} : Readable levels (.string value)
  | array {levels : Nat} {items : List Value} :
      (∀ item ∈ items, Readable levels item) → Readable (levels + 1) (.array items)
  | object {levels : Nat} {members : List (String × Value)} :
      Table.Ascending members → (∀ member ∈ members, Readable levels member.2) →
      Readable (levels + 1) (.object members)

private theorem bind_close {α β γ : Type} (taken : Except Fault (α × List Char))
    (close : List Char → Except Fault γ) (wrap : α → β) :
    (taken >>= fun found => close found.2 >>= fun rest => .ok (wrap found.1, rest)) =
      ((taken >>= fun found => close found.2 >>= fun rest => .ok (found.1, rest)) >>= fun found =>
        .ok (wrap found.1, found.2)) := by
  cases taken with
  | error fault => rfl
  | ok found =>
    show (close found.2 >>= fun rest => .ok (wrap found.1, rest)) =
      ((close found.2 >>= fun rest => .ok (found.1, rest)) >>= fun found => .ok (wrap found.1, found.2))
    cases close found.2 <;> rfl

theorem readValue_bracket {input rest : List Char} (starts : skipSpace input = '[' :: rest) (depth : Nat) :
    readValue depth input = (do
      let (items, rest) ← readArray readValue depth input
      .ok (.array items, rest)) := by
  rw [readValue, readArray, starts]
  cases depth with
  | zero => rfl
  | succ depth => exact bind_close (readItems (readValue depth) (rest.length + 1) true rest) closeArray Value.array

theorem readValue_brace {input rest : List Char} (starts : skipSpace input = '{' :: rest) (depth : Nat) :
    readValue depth input = (do
      let (members, rest) ← readTable readValue depth input
      .ok (.object members, rest)) := by
  rw [readValue, readTable, starts]
  cases depth with
  | zero => rfl
  | succ depth => exact bind_close (readMembers _ (rest.length + 1) true [] rest) closeObject Value.object

/-- Reading a value opens no more containers than it may. -/
theorem gives_readValue (depth : Nat) : Reader.GivesAt readValue depth (Readable depth) := by
  induction depth using Nat.strongRecOn with
  | _ depth ih =>
    intro input value rest read
    cases starts : skipSpace input with
    | nil =>
      rw [readValue, starts] at read
      cases read
    | cons c behind =>
      by_cases bracket : c = '['
      · rw [bracket] at starts
        rw [readValue_bracket starts] at read
        obtain ⟨⟨items, left⟩, isItems, read⟩ := bind_eq_ok read
        cases read
        cases depth with
        | zero =>
          rw [readArray, starts] at isItems
          cases isItems
        | succ depth => exact .array (gives_readArray (ih depth (Nat.lt_succ_self depth)) _ _ _ isItems)
      by_cases brace : c = '{'
      · rw [brace] at starts
        rw [readValue_brace starts] at read
        obtain ⟨⟨members, left⟩, isMembers, read⟩ := bind_eq_ok read
        cases read
        cases depth with
        | zero =>
          rw [readTable, starts] at isMembers
          cases isMembers
        | succ depth =>
          obtain ⟨ascending, each⟩ := gives_readTable (ih depth (Nat.lt_succ_self depth)) _ _ _ isMembers
          exact .object ascending each
      rw [readValue, starts] at read
      split at read
      case h_1 => cases read
      case h_7 same => exact absurd (List.cons.inj same).1 bracket
      case h_8 same => exact absurd (List.cons.inj same).1 brace
      case h_9 =>
        split at read
        · obtain ⟨⟨number, left⟩, isNumber, read⟩ := bind_eq_ok read
          cases read
          exact .number (inRange_readUnsigned isNumber)
        · cases read
      case h_5 =>
        obtain ⟨⟨number, left⟩, isNumber, read⟩ := bind_eq_ok read
        cases read
        exact .number (inRange_readUnsigned isNumber)
      all_goals
        obtain ⟨_, _, read⟩ := bind_eq_ok read
        cases read
        constructor

/-! ## Values are read back -/

/-- The first character of a value without doubles: no blank, and what its kind says. -/
theorem compact_solid {value : Value} (whole : IsWhole value) :
    ∃ c text, compact value = c :: text ∧ isSpace c = false ∧ leadOf c = value.lead := by
  obtain ⟨c, text, written, lead⟩ := compact_lead whole
  refine ⟨c, text, written, ?_, lead⟩
  by_cases numeric : c.isDigit ∨ c = '-'
  · rcases numeric with digit | rfl
    · exact digit_not_space digit
    · rfl
  · rw [leadOf, if_neg numeric] at lead
    rw [lead]
    rcases value with _ | (_ | _) | _ | _ | _ | _ <;> rfl

theorem startsItem_of_isWhole {value : Value} (whole : IsWhole value) : StartsItem value := by
  obtain ⟨c, text, written, solid, lead⟩ := compact_solid whole
  refine ⟨c, text, written, solid, ?_⟩
  rintro rfl
  exact lead_ne_bracket value lead.symm

theorem AreWhole.isWhole {items : List Value} (whole : AreWhole items) : ∀ item ∈ items, IsWhole item := by
  induction items with
  | nil => exact fun _ member => absurd member List.not_mem_nil
  | cons first items ih => exact List.forall_mem_cons.mpr ⟨whole.1, ih whole.2⟩

theorem HaveWhole.isWhole {members : List (String × Value)} (whole : HaveWhole members) :
    ∀ member ∈ members, IsWhole member.2 := by
  induction members with
  | nil => exact fun _ member => absurd member List.not_mem_nil
  | cons first members ih => exact List.forall_mem_cons.mpr ⟨whole.1, ih whole.2⟩

section Readers

variable {α : Type} {reader : Reader α} {write : α → Value} {levels : Nat}

theorem readBool_back (condition : Prop) (levels : Nat) (value : Bool) :
    ReadsBack readBool condition levels (.bool value) value := by
  intro depth rest _ _
  refine .of_eq ?_
  cases value <;> rfl

/-- What is no null is read as something, and null as nothing. -/
theorem readOptional_back {condition : Prop} {value : Option α}
    (whole : ∀ item ∈ value, IsWhole (write item) ∧ write item ≠ .null)
    (back : ∀ item ∈ value, ReadsBack reader condition levels (write item) item) :
    ReadsBack (readOptional reader) condition levels ((value.map write).getD .null) value := by
  intro depth rest deep ends
  cases value with
  | none => exact .of_eq rfl
  | some item =>
    obtain ⟨isWhole, proper⟩ := whole item rfl
    obtain ⟨c, text, written, solid, lead⟩ := compact_solid isWhole
    have notNull : c ≠ 'n' := by
      rintro rfl
      apply proper
      generalize write item = json at lead
      rcases json with _ | (_ | _) | _ | _ | _ | _ <;> first | rfl | cases lead
    have item_read := back item rfl depth rest deep ends
    rw [Option.map_some, Option.getD_some]
    rw [written, List.cons_append] at item_read ⊢
    rw [readOptional, skipSpace_cons solid]
    split
    · rename_i same
      exact absurd (List.cons.inj same).1 notNull
    · exact item_read.andThen rfl

/-- How `readTable` treats the key of a member. -/
def tableMember (reader : Reader α) (depth : Nat) (table : Table α) (key : String) :
    Except Fault (List Char → Except Fault (Table α × List Char)) :=
  .ok fun input => do
    let (item, rest) ← reader depth input
    .ok (Table.insert key item table, rest)

/-- Members in ascending order are put behind those that were read before. -/
private theorem proceeds_table {later : Table α} (earlier : Table α)
    (ascending : Table.Ascending (earlier ++ later))
    (back : ∀ entry ∈ later, ReadsBack reader True levels (write entry.2) entry.2) :
    ∃ condition, condition ∧ Proceeds (tableMember reader) levels earlier
      (later.map fun entry => (entry.1, write entry.2)) condition (earlier ++ later) := by
  induction later generalizing earlier with
  | nil => exact ⟨True, trivial, by simpa using Proceeds.nil⟩
  | cons entry later ih =>
    obtain ⟨key, value⟩ := entry
    have split : earlier ++ (key, value) :: later = (earlier ++ [(key, value)]) ++ later := by simp
    rw [split] at ascending ⊢
    obtain ⟨condition, holds, proceeds⟩ := ih _ ascending fun entry member =>
      back entry (List.mem_cons_of_mem _ member)
    refine ⟨True ∧ condition, ⟨trivial, holds⟩, .cons (fun _ => rfl) ?_ proceeds⟩
    intro depth rest deep ends
    have last : Table.insert key value earlier = earlier ++ [(key, value)] :=
      Table.insert_last (List.pairwise_append.mp ascending).1
    exact (back (key, value) List.mem_cons_self depth rest deep ends).andThen (by rw [← last])

theorem readTable_back (write : α → Value) {table : Table α} (ascending : Table.Ascending table)
    (back : ∀ entry ∈ table, ReadsBack reader True levels (write entry.2) entry.2) :
    ReadsBack (readTable reader) True (levels + 1)
      (.object (table.map fun entry => (entry.1, write entry.2))) table := by
  intro depth rest deep _
  obtain ⟨depth, rfl⟩ := Nat.exists_eq_add_of_le' (Nat.le_trans (Nat.le_add_left 1 levels) deep)
  obtain ⟨condition, holds, proceeds⟩ := proceeds_table [] ascending back
  exact (readObject_back proceeds depth rest (Nat.le_of_succ_le_succ deep)).mono fun _ => holds

theorem readTable_self_back {reader : Reader Value} {table : Table Value} (ascending : Table.Ascending table)
    (back : ∀ entry ∈ table, ReadsBack reader True levels entry.2 entry.2) :
    ReadsBack (readTable reader) True (levels + 1) (.object table) table := by
  have written := readTable_back id ascending back
  rwa [show (table.map fun entry => (entry.1, id entry.2)) = table from List.map_id table] at written

end Readers

theorem readNumber_back {levels : Nat} {value : Number} (inRange : value.InRange)
    (whole : IsWhole (.number value)) : ReadsBack readValue True levels (.number value) (.number value) := by
  intro depth rest _ ends
  refine .of_eq ?_
  cases value with
  | natural value =>
    obtain ⟨c, after, written, digit, _⟩ := naturalText_cons value
    have read := readUnsigned_of_fits value rest ends inRange
    rw [compact, Number.text]
    rw [written, List.cons_append] at read ⊢
    rw [readValue, skipSpace_cons (digit_not_space digit)]
    split
    case h_9 same =>
      obtain ⟨rfl, rfl⟩ := List.cons.inj same
      rw [if_pos digit, read]
      rfl
    case h_1 same => cases same
    -- no digit is the first character of another kind of value
    all_goals
      rename_i same
      rw [(List.cons.inj same).1] at digit
      cases digit
  | negative magnitude =>
    obtain ⟨positive, small⟩ := inRange
    have read := readUnsigned_naturalText false magnitude rest ends (Nat.le_trans small (by decide))
    rw [readUnsigned.wholeNumber, if_neg (by decide), if_neg (by omega)] at read
    rw [compact, Number.text, List.cons_append, readValue, skipSpace_cons (by decide)]
    show (readUnsigned false (naturalText magnitude ++ rest) >>= _) = _
    rw [read]
    rfl
  | float bits => exact whole.elim

/-- A value that was read and holds no double is read back from its compact form. -/
theorem readValue_back {levels : Nat} {value : Value} (readable : Readable levels value) (whole : IsWhole value) :
    ReadsBack readValue True levels value value := by
  induction readable with
  | null =>
    intro depth rest _ _
    refine .of_eq ?_
    rw [readValue]
    rfl
  | @bool _ value =>
    intro depth rest _ _
    refine .of_eq ?_
    rw [readValue]
    cases value <;> rfl
  | number inRange => exact readNumber_back inRange whole
  | string =>
    intro depth rest _ _
    refine .of_eq ?_
    rw [compact, stringText_append, readValue, skipSpace_cons (by decide)]
    show (readStringBody _ >>= _) = _
    rw [readStringBody_escaped]
    rfl
  | @array levels items each ih =>
    intro depth rest deep ends
    have written : ReadsBack (readArray readValue) (∀ item ∈ items, True) (levels + 1)
        (.array (items.map id)) items :=
      readArray_back (fun item member => startsItem_of_isWhole (whole.isWhole item member))
        fun item member => ih item member (whole.isWhole item member)
    rw [List.map_id] at written
    have back := (written depth rest deep ends).mono fun _ : True => fun _ _ => trivial
    rw [readValue_bracket (show skipSpace _ = '[' :: (compactItems items ++ rest) from rfl)]
    exact back.andThen rfl
  | @object levels members ascending each ih =>
    intro depth rest deep ends
    have back := readTable_self_back ascending
      (fun member inside => ih member inside (HaveWhole.isWhole whole member inside)) depth rest deep ends
    rw [readValue_brace (show skipSpace _ = '{' :: (compactMembers members ++ rest) from rfl)]
    exact back.andThen rfl

end Lintel.Json
