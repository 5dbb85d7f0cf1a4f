import Lintel.Json.OpenRecord

/-!
# Reading back what was written

The compact form of a value is read back as that value. Only whole numbers set a condition: one that
does not fit the widest whole number of the format is refused, never taken for another number. So a
reading of a written form gives the written value or nothing.
-/

set_option autoImplicit false

namespace Lintel.Json

/-! ## Readings -/

/-- A result that is a certain value if it is anything, and that is this value under a condition. -/
structure Yields {α : Type} (condition : Prop) (result : Except Fault α) (value : α) : Prop where
  unique : ∀ got, result = .ok got → got = value
  success : condition → result = .ok value

namespace Yields

variable {α β : Type} {condition further : Prop} {result : Except Fault α} {value : α}

theorem of_eq (equal : result = .ok value) : Yields condition result value where
  unique _ reached := Except.ok.inj (reached.symm.trans equal)
  success _ := equal

theorem mono (weaker : further → condition) (yields : Yields condition result value) :
    Yields further result value :=
  ⟨yields.unique, fun holds => yields.success (weaker holds)⟩

theorem bind {next : α → Except Fault β} {last : β} (yields : Yields condition result value)
    (later : Yields further (next value) last) :
    Yields (condition ∧ further) (result >>= next) last where
  unique got reached := by
    cases result with
    | error fault => cases reached
    | ok first =>
      rw [yields.unique first rfl] at reached
      exact later.unique got reached
  success holds := by
    rw [yields.success holds.1]
    exact later.success holds.2

theorem andThen {next : α → Except Fault β} {last : β} (yields : Yields condition result value)
    (equal : next value = .ok last) : Yields condition (result >>= next) last :=
  (yields.bind (of_eq equal)).mono fun holds => ⟨holds, trivial⟩

end Yields

/-- The text after a value does not go on with a number that ends the value. -/
def EndsNumber (rest : List Char) : Prop :=
  ∀ c more, rest = c :: more → c.isDigit = false ∧ c ≠ '.' ∧ c ≠ 'e' ∧ c ≠ 'E'

theorem endsNumber_nil : EndsNumber [] := by
  intro c more equal
  cases equal

theorem endsNumber_comma (rest : List Char) : EndsNumber (',' :: rest) := by
  intro c more equal
  cases equal
  decide

theorem endsNumber_bracket (rest : List Char) : EndsNumber (']' :: rest) := by
  intro c more equal
  cases equal
  decide

theorem endsNumber_brace (rest : List Char) : EndsNumber ('}' :: rest) := by
  intro c more equal
  cases equal
  decide

/-- A reader takes the compact form of `json` for `value`, whatever follows, if it may still open
`levels` containers. -/
def ReadsBack {α : Type} (reader : Reader α) (condition : Prop) (levels : Nat) (json : Value)
    (value : α) : Prop :=
  ∀ depth rest, levels ≤ depth → EndsNumber rest →
    Yields condition (reader depth (compact json ++ rest)) (value, rest)

theorem skipSpace_cons {c : Char} (solid : isSpace c = false) (rest : List Char) :
    skipSpace (c :: rest) = c :: rest := by
  simp [skipSpace, solid]

/-! ## Strings -/

theorem hexValue?_hexDigit : ∀ value < 16, hexValue? (hexDigit value) = some value := by decide

theorem readEscape_control (c : Char) (control : c.toNat < 0x20) (rest : List Char) :
    readEscape ('u' :: '0' :: '0' :: hexDigit (c.toNat / 16) :: hexDigit (c.toNat % 16) :: rest) =
      .ok (c, rest) := by
  have high := hexValue?_hexDigit (c.toNat / 16) (by omega)
  have low := hexValue?_hexDigit (c.toNat % 16) (by omega)
  have zero : hexValue? '0' = some 0 := rfl
  have code : ((0 * 16 + 0) * 16 + c.toNat / 16) * 16 + c.toNat % 16 = c.toNat := by omega
  have read : readHexEscape ('0' :: '0' :: hexDigit (c.toNat / 16) :: hexDigit (c.toNat % 16) :: rest) =
      .ok (c.toNat, rest) := by
    simp only [readHexEscape, zero, high, low, code]
  have notLow : ¬ (0xDC00 ≤ c.toNat ∧ c.toNat ≤ 0xDFFF) := by omega
  have plain : c.toNat < 0xD800 ∨ 0xDBFF < c.toNat := by omega
  simp only [readEscape, readUnicodeEscape, read, bind, Except.bind, notLow, plain, if_true, if_false,
    Char.ofNat_toNat]

theorem readStringChars_escapedChar (fuel : Nat) (c : Char) (rest : List Char) :
    readStringChars (fuel + 1) (escapedChar c ++ rest) = (do
      let (chars, rest) ← readStringChars fuel rest
      .ok (c :: chars, rest)) := by
  unfold escapedChar
  split
  · rfl
  · rfl
  · rfl
  · rfl
  · rfl
  · rfl
  · rfl
  · rename_i notQuote notBackslash _ _ _ _ _
    split
    · rename_i control
      rw [List.cons_append, readStringChars]
      simp only [List.cons_append, List.nil_append, readEscape_control c control]
      rfl
    · rename_i printable
      rw [List.singleton_append, readStringChars]
      · simp only [printable, if_false]
      · exact fun same => notQuote same
      · exact fun same => notBackslash same

theorem length_le_escaped (text : List Char) : text.length ≤ (text.flatMap escapedChar).length := by
  induction text with
  | nil => exact Nat.le_refl 0
  | cons c text ih =>
    have written : 0 < (escapedChar c).length := by
      unfold escapedChar
      repeat' split
      all_goals exact Nat.zero_lt_succ _
    rw [List.flatMap_cons, List.length_append, List.length_cons]
    omega

theorem readStringChars_escaped (fuel : Nat) (text rest : List Char) (enough : text.length < fuel) :
    readStringChars fuel (text.flatMap escapedChar ++ '"' :: rest) = .ok (text, rest) := by
  induction text generalizing fuel with
  | nil =>
    obtain ⟨fuel, rfl⟩ := Nat.exists_eq_succ_of_ne_zero (Nat.ne_of_gt enough)
    rfl
  | cons c text ih =>
    obtain ⟨fuel, rfl⟩ := Nat.exists_eq_succ_of_ne_zero (Nat.ne_of_gt (Nat.zero_lt_of_lt enough))
    rw [List.flatMap_cons, List.append_assoc, readStringChars_escapedChar,
      ih fuel (Nat.lt_of_succ_lt_succ enough)]
    rfl

theorem readStringBody_escaped (text : String) (rest : List Char) :
    readStringBody (text.toList.flatMap escapedChar ++ '"' :: rest) = .ok (text, rest) := by
  have longer := length_le_escaped text.toList
  rw [readStringBody, readStringChars_escaped _ _ _ (by simp only [List.length_append]; omega)]
  simp only [bind, Except.bind, String.ofList_toList]

theorem stringText_append (text : String) (rest : List Char) :
    stringText text ++ rest = '"' :: (text.toList.flatMap escapedChar ++ '"' :: rest) := by
  simp [stringText]

theorem readString_back (condition : Prop) (levels : Nat) (text : String) :
    ReadsBack readString condition levels (.string text) text := by
  intro depth rest _ _
  refine .of_eq ?_
  rw [compact, stringText_append]
  exact readStringBody_escaped text rest

theorem readName_back {α : Type} {ofName? : String → Option α} {name : String} {value : α}
    (known : ofName? name = some value) (condition : Prop) (levels : Nat) :
    ReadsBack (readName ofName?) condition levels (.string name) value := by
  intro depth rest _ _
  refine .of_eq ?_
  rw [compact, stringText_append]
  have body := readStringBody_escaped name rest
  simp only [readName, skipSpace_cons (show isSpace '"' = false from rfl), body, bind, Except.bind, known]

/-! ## Whole numbers -/

theorem isDigit_of_mem_naturalText {value : Nat} {c : Char} (member : c ∈ naturalText value) :
    c.isDigit = true :=
  Nat.isDigit_of_mem_toDigits (by decide) (by decide) member

theorem naturalText_leading_zero (value : Nat) (after : List Char)
    (leading : naturalText value = '0' :: after) : after = [] := by
  induction value using Nat.strongRecOn generalizing after with
  | _ value ih =>
    by_cases small : value < 10
    · rw [naturalText, Nat.toDigits_of_lt_base small] at leading
      exact (List.cons.inj leading).2.symm
    · have front : naturalText value = naturalText (value / 10) ++ [Nat.digitChar (value % 10)] :=
        Nat.toDigits_of_base_le (by decide) (by omega)
      cases digits : naturalText (value / 10) with
      | nil => exact absurd digits Nat.toDigits_ne_nil
      | cons c more =>
        rw [front, digits, List.cons_append] at leading
        obtain ⟨rfl, _⟩ := List.cons.inj leading
        have only := ih (value / 10) (by omega) more digits
        have zero : value / 10 = Nat.ofDigitChars 10 ['0'] 0 := by
          rw [← only, ← digits]
          exact Nat.ofDigitChars_ten_toDigits.symm
        have : Nat.ofDigitChars 10 ['0'] 0 = 0 := rfl
        omega

theorem le_ofDigitChars (digits : List Char) (start : Nat) : start ≤ Nat.ofDigitChars 10 digits start := by
  rw [Nat.ofDigitChars_eq_ofDigitChars_zero]
  have positive : 0 < 10 ^ digits.length := Nat.pow_pos (by decide)
  calc start = 1 * start := (Nat.one_mul start).symm
    _ ≤ 10 ^ digits.length * start := Nat.mul_le_mul_right start positive
    _ ≤ 10 ^ digits.length * start + Nat.ofDigitChars 10 digits 0 := Nat.le_add_right _ _

private theorem next_significand (start : Nat) (c : Char) :
    start * 10 + digitValue c = 10 * start + (c.toNat - '0'.toNat) := by
  rw [Nat.mul_comm]
  rfl

theorem takeDigits_of_fits (digits rest : List Char) (start taken : Nat)
    (allDigits : ∀ c ∈ digits, c.isDigit = true) (ends : EndsNumber rest)
    (fits : Nat.ofDigitChars 10 digits start ≤ largestWhole) :
    takeDigits start taken (digits ++ rest) =
      (Nat.ofDigitChars 10 digits start, taken + digits.length, rest) := by
  induction digits generalizing start taken with
  | nil =>
    cases rest with
    | nil => rfl
    | cons c more => simp [takeDigits, (ends c more rfl).1]
  | cons c digits ih =>
    have digit := allDigits c List.mem_cons_self
    rw [Nat.ofDigitChars_cons, ← next_significand] at fits ⊢
    have next := Nat.le_trans (le_ofDigitChars digits _) fits
    rw [List.cons_append, takeDigits, if_pos digit, if_pos next,
      ih _ _ (fun other member => allDigits other (List.mem_cons_of_mem _ member)) fits]
    simp only [List.length_cons, Nat.add_assoc, Nat.add_comm 1]

theorem takeDigits_of_exceeds (digits rest : List Char) (start taken : Nat)
    (allDigits : ∀ c ∈ digits, c.isDigit = true) (fits : start ≤ largestWhole)
    (exceeds : largestWhole < Nat.ofDigitChars 10 digits start) :
    ∃ significand count c more, takeDigits start taken (digits ++ rest) =
      (significand, count, c :: more) ∧ c.isDigit = true := by
  induction digits generalizing start taken with
  | nil => exact absurd exceeds (Nat.not_lt.mpr fits)
  | cons c digits ih =>
    have digit := allDigits c List.mem_cons_self
    rw [Nat.ofDigitChars_cons, ← next_significand] at exceeds
    rw [List.cons_append, takeDigits, if_pos digit]
    by_cases next : start * 10 + digitValue c ≤ largestWhole
    · rw [if_pos next]
      exact ih _ _ (fun other member => allDigits other (List.mem_cons_of_mem _ member)) next exceeds
    · rw [if_neg next]
      exact ⟨_, _, _, _, rfl, digit⟩

/-- Anything but a plain whole number is read as a double. -/
def IsFloat (result : Except Fault (Number × List Char)) : Prop :=
  ∀ number rest, result = .ok (number, rest) → ∃ bits, number = .float bits

theorem isFloat_error (fault : Fault) : IsFloat (.error fault) := by
  intro number rest reached
  cases reached

theorem isFloat_floatOfParts (positive : Bool) (significand : Nat) (exponent : Int) (rest : List Char) :
    IsFloat (do
      let number ← floatOfParts positive significand exponent
      .ok (number, rest)) := by
  intro number left reached
  cases scaled : floatOfParts positive significand exponent with
  | error fault => simp [scaled, bind, Except.bind] at reached
  | ok found =>
    simp only [scaled, bind, Except.bind, Except.ok.injEq, Prod.mk.injEq] at reached
    rw [floatOfParts] at scaled
    split at scaled
    · cases scaled
    · cases scaled
      exact ⟨_, reached.1.symm⟩

theorem isFloat_readExponent (positive : Bool) (significand : Nat) (start : Int) (input : List Char) :
    IsFloat (readExponent positive significand start input) := by
  simp only [readExponent]
  split
  · exact isFloat_error _
  · split
    · -- one case for each form of the sign
      split
      all_goals
        split
        · split
          · exact isFloat_error _
          · intro number rest reached
            cases reached
            exact ⟨_, rfl⟩
        · exact isFloat_floatOfParts _ _ _ _
    · exact isFloat_error _

theorem isFloat_readScale (positive : Bool) (significand : Nat) (start : Int) (input : List Char) :
    IsFloat (readScale positive significand start input) := by
  unfold readScale
  split
  · exact isFloat_readExponent _ _ _ _
  · exact isFloat_readExponent _ _ _ _
  · exact isFloat_floatOfParts _ _ _ _

theorem isFloat_readFraction (positive : Bool) (significand : Nat) (start : Int) (input : List Char) :
    IsFloat (readFraction positive significand start input) := by
  simp only [readFraction]
  split
  · split
    · exact isFloat_error _
    · exact isFloat_readScale _ _ _ _
  · split
    · exact isFloat_readScale _ _ _ _
    · split
      · exact isFloat_error _
      · exact isFloat_readScale _ _ _ _

/-- The first digit of a written number, with what is known of it. -/
theorem naturalText_cons (value : Nat) :
    ∃ c after, naturalText value = c :: after ∧ c.isDigit = true ∧ (c = '0' → after = []) := by
  cases written : naturalText value with
  | nil => exact absurd written Nat.toDigits_ne_nil
  | cons c after =>
    have first : c ∈ naturalText value := by simp [written]
    refine ⟨c, after, rfl, isDigit_of_mem_naturalText first, ?_⟩
    rintro rfl
    exact naturalText_leading_zero value after written

private theorem no_second_digit {c : Char} {after rest : List Char} (zero : c = '0' → after = [])
    (ends : EndsNumber rest) : ¬ (c = '0' ∧ ((after ++ rest).head?.map Char.isDigit).getD false = true) := by
  rintro ⟨isZero, second⟩
  rw [zero isZero, List.nil_append] at second
  cases rest with
  | nil => cases second
  | cons d more => simp [(ends d more rfl).1] at second

/-- Digits that fit are taken as they are; the sign decides what becomes of them. -/
theorem readUnsigned_naturalText (positive : Bool) (value : Nat) (rest : List Char) (ends : EndsNumber rest)
    (fits : value ≤ largestWhole) :
    readUnsigned positive (naturalText value ++ rest) = readUnsigned.wholeNumber positive value rest := by
  obtain ⟨c, after, written, digit, zero⟩ := naturalText_cons value
  have taken := takeDigits_of_fits (naturalText value) rest 0 0
    (fun _ => isDigit_of_mem_naturalText) ends (by rw [naturalText, Nat.ofDigitChars_ten_toDigits]; exact fits)
  rw [show Nat.ofDigitChars 10 (naturalText value) 0 = value from Nat.ofDigitChars_ten_toDigits] at taken
  rw [written, List.cons_append] at taken ⊢
  simp only [readUnsigned, digit, Bool.not_true, Bool.false_eq_true, if_false, no_second_digit zero ends,
    taken]
  cases rest with
  | nil => rfl
  | cons d more =>
    obtain ⟨notDigit, notPoint, notSmall, notLarge⟩ := ends d more rfl
    split
    · rename_i same
      exact absurd (List.cons.inj same).1 notPoint
    · rename_i same
      exact absurd (List.cons.inj same).1 notSmall
    · rename_i same
      exact absurd (List.cons.inj same).1 notLarge
    · rename_i same
      obtain ⟨rfl, rfl⟩ := List.cons.inj same
      rw [if_neg (by simp [notDigit])]
    · rename_i same
      cases same

theorem readUnsigned_of_fits (value : Nat) (rest : List Char) (ends : EndsNumber rest)
    (fits : value ≤ largestWhole) :
    readUnsigned true (naturalText value ++ rest) = .ok (.natural value, rest) :=
  readUnsigned_naturalText true value rest ends fits

theorem readUnsigned_of_exceeds (value : Nat) (rest : List Char) (ends : EndsNumber rest)
    (exceeds : largestWhole < value) : IsFloat (readUnsigned true (naturalText value ++ rest)) := by
  obtain ⟨c, after, written, digit, zero⟩ := naturalText_cons value
  obtain ⟨significand, count, d, more, taken, isDigit⟩ :=
    takeDigits_of_exceeds (naturalText value) rest 0 0 (fun _ => isDigit_of_mem_naturalText)
      (Nat.zero_le _) (by rw [naturalText, Nat.ofDigitChars_ten_toDigits]; exact exceeds)
  rw [written, List.cons_append] at taken ⊢
  simp only [readUnsigned, digit, Bool.not_true, Bool.false_eq_true, if_false, no_second_digit zero ends,
    taken]
  split
  · rename_i same
    rw [(List.cons.inj same).1] at isDigit
    cases isDigit
  · rename_i same
    rw [(List.cons.inj same).1] at isDigit
    cases isDigit
  · rename_i same
    rw [(List.cons.inj same).1] at isDigit
    cases isDigit
  · rename_i same
    rw [← (List.cons.inj same).1, isDigit]
    simp only [if_true]
    split
    · exact isFloat_readFraction _ _ _ _
    · exact isFloat_readScale _ _ _ _
  · rename_i same
    cases same

theorem digit_not_space {c : Char} (digit : c.isDigit = true) : isSpace c = false := by
  cases spaced : isSpace c with
  | false => rfl
  | true =>
    simp only [isSpace, Bool.or_eq_true, beq_iff_eq] at spaced
    rcases spaced with ((rfl | rfl) | rfl) | rfl <;> cases digit

/-- A whole number below 2 ^ 64 is read back; a larger one is refused. -/
theorem readNatural_back (levels value : Nat) :
    ReadsBack readNatural (value < UInt64.size) levels (.ofNat value) value := by
  intro depth rest _ ends
  have bound : largestWhole + 1 = UInt64.size := by decide
  obtain ⟨c, after, written, digit, _⟩ := naturalText_cons value
  rw [Value.ofNat, compact, Number.text, written, List.cons_append, readNatural,
    skipSpace_cons (digit_not_space digit)]
  dsimp only
  rw [if_pos digit, ← List.cons_append, ← written]
  by_cases fits : value ≤ largestWhole
  · refine .of_eq ?_
    rw [readUnsigned_of_fits value rest ends fits]
    rfl
  · have float := readUnsigned_of_exceeds value rest ends (Nat.lt_of_not_le fits)
    constructor
    · intro got reached
      cases result : readUnsigned true (naturalText value ++ rest) with
      | error fault => simp [result, bind, Except.bind] at reached
      | ok found =>
        obtain ⟨bits, isFloat⟩ := float found.1 found.2 result
        obtain ⟨number, left⟩ := found
        cases isFloat
        simp [result, bind, Except.bind] at reached
    · intro small
      omega

/-! ## Arrays and objects -/

/-- The text that stands behind an item of an array. -/
def itemsBehind : List Value → List Char
  | [] => [']']
  | items => ',' :: compactItems items

theorem compactItems_cons (item : Value) (items : List Value) :
    compactItems (item :: items) = compact item ++ itemsBehind items := by
  cases items <;> rfl

theorem length_le_compactItems (items : List Value) : items.length ≤ (compactItems items).length := by
  induction items with
  | nil => exact Nat.zero_le _
  | cons item items ih =>
    have behind : items.length + 1 ≤ (itemsBehind items).length := by
      cases items with
      | nil => exact Nat.le_refl 1
      | cons next items => exact Nat.succ_le_succ ih
    rw [compactItems_cons, List.length_append, List.length_cons]
    omega

theorem endsNumber_itemsBehind (items : List Value) (rest : List Char) :
    EndsNumber (itemsBehind items ++ rest) := by
  cases items with
  | nil => exact endsNumber_bracket rest
  | cons item items => exact endsNumber_comma _

/-- The first character of a value that can be an item: no blank, and no closing bracket. -/
def StartsItem (json : Value) : Prop :=
  ∃ c text, compact json = c :: text ∧ isSpace c = false ∧ c ≠ ']'

theorem startsItem_object (members : List (String × Value)) : StartsItem (.object members) :=
  ⟨'{', _, rfl, rfl, by decide⟩

theorem startsItem_string (text : String) : StartsItem (.string text) :=
  ⟨'"', _, rfl, rfl, by decide⟩

section Array

variable {α : Type} {reader : Reader α} {write : α → Value} {fits : α → Prop} {levels : Nat}

private theorem nextItem_first {c : Char} (solid : isSpace c = false) (notBracket : c ≠ ']')
    (text : List Char) : nextItem true (c :: text) = .ok (some (c :: text)) := by
  rw [nextItem, skipSpace_cons solid]
  split
  · rename_i same
    cases same
  · rename_i same
    exact absurd (List.cons.inj same).1 notBracket
  · rename_i same
    rw [if_pos rfl, same]

private theorem nextItem_comma {c : Char} (solid : isSpace c = false) (notBracket : c ≠ ']')
    (text : List Char) : nextItem false (',' :: c :: text) = .ok (some (c :: text)) := by
  rw [nextItem, skipSpace_cons (by decide)]
  split
  · rename_i same
    cases same
  · rename_i same
    exact absurd (List.cons.inj same).1 (by decide)
  · rename_i same
    cases same
    rw [if_neg (by decide), if_pos rfl, skipSpace_cons solid]
    split
    · rename_i same
      cases same
    · rename_i same
      exact absurd (List.cons.inj same).1 notBracket
    · rfl

theorem readItems_back {values : List α} (starts : ∀ value ∈ values, StartsItem (write value))
    (item : ∀ value ∈ values, ReadsBack reader (fits value) levels (write value) value)
    (first : Bool) (depth fuel : Nat) (rest : List Char) (deep : levels ≤ depth)
    (enough : values.length < fuel) :
    Yields (∀ value ∈ values, fits value)
      (readItems (reader depth) fuel first
        ((if first then compactItems (values.map write) else itemsBehind (values.map write)) ++ rest))
      (values, ']' :: rest) := by
  induction values generalizing first fuel with
  | nil =>
    obtain ⟨fuel, rfl⟩ := Nat.exists_eq_succ_of_ne_zero (Nat.ne_of_gt enough)
    refine .of_eq ?_
    cases first <;> rfl
  | cons value values ih =>
    obtain ⟨fuel, rfl⟩ := Nat.exists_eq_succ_of_ne_zero (Nat.ne_of_gt (Nat.zero_lt_of_lt enough))
    obtain ⟨c, text, written, solid, notBracket⟩ := starts value List.mem_cons_self
    let behind := itemsBehind (values.map write) ++ rest
    have found : nextItem first ((if first then compactItems ((value :: values).map write)
        else itemsBehind ((value :: values).map write)) ++ rest) =
          .ok (some (compact (write value) ++ behind)) := by
      cases first with
      | true =>
        rw [if_pos rfl, List.map_cons, compactItems_cons, List.append_assoc, written]
        exact nextItem_first solid notBracket _
      | false =>
        rw [if_neg (by decide), List.map_cons, itemsBehind, compactItems_cons, List.cons_append,
          List.append_assoc, written]
        · exact nextItem_comma solid notBracket _
        · exact List.cons_ne_nil _ _
    have here := item value List.mem_cons_self depth behind deep (endsNumber_itemsBehind _ _)
    have later := ih (fun other member => starts other (List.mem_cons_of_mem _ member))
      (fun other member => item other (List.mem_cons_of_mem _ member)) false fuel (Nat.lt_of_succ_lt_succ enough)
    have tail : Yields (∀ value ∈ values, fits value)
        (readItems (reader depth) fuel false behind >>= fun found => .ok (value :: found.1, found.2))
        (value :: values, ']' :: rest) :=
      later.andThen rfl
    rw [readItems, found]
    refine (here.bind tail).mono fun all => ?_
    exact ⟨all value List.mem_cons_self, fun other member => all other (List.mem_cons_of_mem _ member)⟩

theorem readArray_back {values : List α} (starts : ∀ value ∈ values, StartsItem (write value))
    (item : ∀ value ∈ values, ReadsBack reader (fits value) levels (write value) value) :
    ReadsBack (readArray reader) (∀ value ∈ values, fits value) (levels + 1)
      (.array (values.map write)) values := by
  intro depth rest deep _
  obtain ⟨depth, rfl⟩ := Nat.exists_eq_add_of_le' (Nat.le_trans (Nat.le_add_left 1 levels) deep)
  have enough : values.length < (compactItems (values.map write) ++ rest).length + 1 := by
    have longer := length_le_compactItems (values.map write)
    rw [List.length_map] at longer
    rw [List.length_append]
    omega
  have items := readItems_back starts item true depth _ rest (Nat.le_of_succ_le_succ deep) enough
  show Yields _ (readItems (reader depth) ((compactItems (values.map write) ++ rest).length + 1) true
    (compactItems (values.map write) ++ rest) >>= _) _
  exact items.andThen rfl

end Array

/-- The text that stands behind a member of an object. -/
def membersBehind : List (String × Value) → List Char
  | [] => ['}']
  | members => ',' :: compactMembers members

theorem compactMembers_cons (key : String) (value : Value) (members : List (String × Value)) :
    compactMembers ((key, value) :: members) =
      stringText key ++ ':' :: (compact value ++ membersBehind members) := by
  cases members <;> simp [compactMembers, membersBehind]

theorem length_le_compactMembers (members : List (String × Value)) :
    members.length ≤ (compactMembers members).length := by
  induction members with
  | nil => exact Nat.zero_le _
  | cons member members ih =>
    obtain ⟨key, value⟩ := member
    rw [compactMembers_cons]
    cases members with
    | nil => simp only [List.length_cons, List.length_append, List.length_nil]; omega
    | cons next members =>
      simp only [List.length_cons, List.length_append, membersBehind] at ih ⊢
      omega

theorem endsNumber_membersBehind (members : List (String × Value)) (rest : List Char) :
    EndsNumber (membersBehind members ++ rest) := by
  cases members with
  | nil => exact endsNumber_brace rest
  | cons member members => exact endsNumber_comma _

section Object

variable {σ : Type}

/-- A field that is still unset takes the compact form of `json` and leaves `next`. -/
structure Field.Takes (field : Field σ) (state : σ) (condition : Prop) (levels : Nat) (json : Value)
    (next : σ) : Prop where
  isUnset : field.isSet state = false
  reads : ReadsBack (field.read state) condition levels json next

theorem Field.takes_of {α : Type} {name : String} {current : σ → Option α} {put : σ → α → σ}
    {reader : Reader α} {condition : Prop} {levels : Nat} {json : Value} {value : α} {state : σ}
    (isUnset : current state = none) (back : ReadsBack reader condition levels json value) :
    (Field.of name current put reader).Takes state condition levels json (put state value) where
  isUnset := by simp [Field.of, isUnset]
  reads := fun depth rest deep ends => (back depth rest deep ends).andThen rfl

/-- What is made of a draft after it has been read is read back with it. -/
theorem ReadsBack.finish {α : Type} {reader : Reader σ} {condition : Prop} {levels : Nat} {json : Value}
    {draft : σ} {value : α} (back : ReadsBack reader condition levels json draft)
    (finishing : σ → Except Fault α) (finished : finishing draft = .ok value) :
    ReadsBack (fun depth input => do
      let (draft, rest) ← reader depth input
      .ok (← finishing draft, rest)) condition levels json value := by
  intro depth rest deep ends
  refine (back depth rest deep ends).andThen ?_
  simp only [finished, bind, Except.bind]

theorem ReadsBack.mono {α : Type} {reader : Reader α} {condition further : Prop} {levels : Nat}
    {json : Value} {value : α} (weaker : further → condition)
    (back : ReadsBack reader condition levels json value) : ReadsBack reader further levels json value :=
  fun depth rest deep ends => (back depth rest deep ends).mono weaker

private theorem nextKey_written (first : Bool) (key : String) (rest : List Char) :
    nextKey first ((if first then [] else [',']) ++ (stringText key ++ rest)) = .ok (some (key, rest)) := by
  have found : nextKey first ((if first then [] else [',']) ++ (stringText key ++ rest)) =
      readStringBody (key.toList.flatMap escapedChar ++ '"' :: rest) >>= fun found =>
        .ok (some (found.1, found.2)) := by
    rw [stringText_append]
    cases first <;> rfl
  rw [found, readStringBody_escaped]
  rfl

/-- Members are read one after another: each key gets a reader, which takes the compact form behind the key. -/
inductive Proceeds (member : Nat → σ → String → Except Fault (List Char → Except Fault (σ × List Char)))
    (levels : Nat) : σ → List (String × Value) → Prop → σ → Prop where
  | nil {state : σ} : Proceeds member levels state [] True state
  | cons {state next final : σ} {key : String} {json : Value} {members : List (String × Value)}
      {reader : Reader σ} {here later : Prop} :
      (∀ depth, member depth state key = .ok (reader depth)) → ReadsBack reader here levels json next →
      Proceeds member levels next members later final →
      Proceeds member levels state ((key, json) :: members) (here ∧ later) final

theorem readMembers_back
    {member : Nat → σ → String → Except Fault (List Char → Except Fault (σ × List Char))}
    {levels : Nat} {state final : σ} {members : List (String × Value)} {condition : Prop}
    (proceeds : Proceeds member levels state members condition final) (first : Bool) (depth fuel : Nat)
    (rest : List Char) (deep : levels ≤ depth) (enough : members.length < fuel) :
    Yields condition
      (readMembers (member depth) fuel first state
        ((if first then compactMembers members else membersBehind members) ++ rest))
      (final, '}' :: rest) := by
  induction proceeds generalizing first fuel with
  | nil =>
    obtain ⟨fuel, rfl⟩ := Nat.exists_eq_succ_of_ne_zero (Nat.ne_of_gt enough)
    refine .of_eq ?_
    cases first <;> rfl
  | @cons state next final key json members reader here later accepted back proceeds ih =>
    obtain ⟨fuel, rfl⟩ := Nat.exists_eq_succ_of_ne_zero (Nat.ne_of_gt (Nat.zero_lt_of_lt enough))
    let behind := membersBehind members ++ rest
    have written : (if first then compactMembers ((key, json) :: members)
        else membersBehind ((key, json) :: members)) ++ rest =
        (if first then [] else [',']) ++ (stringText key ++ ':' :: (compact json ++ behind)) := by
      cases first <;> simp [membersBehind, compactMembers_cons, behind]
    have value := back depth behind deep (endsNumber_membersBehind _ _)
    have tail := ih false fuel (Nat.lt_of_succ_lt_succ enough)
    rw [written, readMembers, nextKey_written]
    simp only [bind, Except.bind, accepted]
    exact value.bind tail

theorem readObject_back
    {member : Nat → σ → String → Except Fault (List Char → Except Fault (σ × List Char))}
    {levels : Nat} {unset final : σ} {members : List (String × Value)} {condition : Prop}
    (proceeds : Proceeds member levels unset members condition final) (depth : Nat) (rest : List Char)
    (deep : levels ≤ depth) :
    Yields condition (do
      let (state, rest) ← readMembers (member depth) ((compactMembers members ++ rest).length + 1) true unset
        (compactMembers members ++ rest)
      let rest ← closeObject rest
      .ok (state, rest)) (final, rest) := by
  have enough : members.length < (compactMembers members ++ rest).length + 1 := by
    have longer := length_le_compactMembers members
    rw [List.length_append]
    omega
  have taken := readMembers_back proceeds true depth _ rest deep enough
  exact taken.andThen rfl

/-! ## Records -/

/-- The members of an object fill the fields of a record one after another. -/
inductive Fills (fields : List (Field σ)) (levels : Nat) :
    σ → List (String × Value) → Prop → σ → Prop where
  | nil {state : σ} : Fills fields levels state [] True state
  | cons {state next final : σ} {key : String} {json : Value} {members : List (String × Value)}
      {field : Field σ} {here later : Prop} :
      (fields.find? fun field => field.name = key) = some field →
      field.Takes state here levels json next → Fills fields levels next members later final →
      Fills fields levels state ((key, json) :: members) (here ∧ later) final

/-- How `readOpenRecord` treats the key of a member. -/
def recordMember (fields : List (Field σ)) (depth : Nat) (state : σ) (key : String) :
    Except Fault (List Char → Except Fault (σ × List Char)) :=
  match fields.find? fun field => field.name = key with
  | none => .ok fun input => do .ok (state, ← skipValue input)
  | some field =>
    if field.isSet state then .error (.mismatch (.duplicateField key))
    else .ok (field.read state depth)

/-- How `readRecord` treats the key of a member. -/
def strictMember (fields : List (Field σ)) (depth : Nat) (state : σ) (key : String) :
    Except Fault (List Char → Except Fault (σ × List Char)) :=
  match fields.find? fun field => field.name = key with
  | none => .error (.mismatch (.unknownField key (fields.map Field.name)))
  | some field =>
    if field.isSet state then .error (.mismatch (.duplicateField key))
    else .ok (field.read state depth)

theorem Fills.proceeds {fields : List (Field σ)} {levels : Nat} {state final : σ}
    {members : List (String × Value)} {condition : Prop}
    (fills : Fills fields levels state members condition final) :
    Proceeds (recordMember fields) levels state members condition final := by
  induction fills with
  | nil => exact .nil
  | cons found takes _ ih =>
    refine .cons (fun depth => ?_) takes.reads ih
    simp only [recordMember, found, takes.isUnset, Bool.false_eq_true, if_false]

theorem Fills.proceedsStrictly {fields : List (Field σ)} {levels : Nat} {state final : σ}
    {members : List (String × Value)} {condition : Prop}
    (fills : Fills fields levels state members condition final) :
    Proceeds (strictMember fields) levels state members condition final := by
  induction fills with
  | nil => exact .nil
  | cons found takes _ ih =>
    refine .cons (fun depth => ?_) takes.reads ih
    simp only [strictMember, found, takes.isUnset, Bool.false_eq_true, if_false]

/-- A record is read back from the members that fill it. -/
theorem readOpenRecord_back {fields : List (Field σ)} {levels : Nat} {unset final : σ}
    {members : List (String × Value)} {condition : Prop} (expected : String)
    (fills : Fills fields levels unset members condition final) :
    ReadsBack (readOpenRecord expected fields unset) condition (levels + 1) (.object members) final := by
  intro depth rest deep _
  obtain ⟨depth, rfl⟩ := Nat.exists_eq_add_of_le' (Nat.le_trans (Nat.le_add_left 1 levels) deep)
  exact readObject_back fills.proceeds depth rest (Nat.le_of_succ_le_succ deep)

theorem readRecord_back {fields : List (Field σ)} {levels : Nat} {unset final : σ}
    {members : List (String × Value)} {condition : Prop} (expected : String)
    (fills : Fills fields levels unset members condition final) :
    ReadsBack (readRecord expected fields unset) condition (levels + 1) (.object members) final := by
  intro depth rest deep _
  obtain ⟨depth, rfl⟩ := Nat.exists_eq_add_of_le' (Nat.le_trans (Nat.le_add_left 1 levels) deep)
  exact readObject_back fills.proceedsStrictly depth rest (Nat.le_of_succ_le_succ deep)

end Object

end Lintel.Json
