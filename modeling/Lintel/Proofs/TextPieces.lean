import Lintel.Text.Blank
import Mathlib.Data.List.Basic
import Mathlib.Data.List.TakeWhile

/-!
# Pieces of a text

Cutting a text at separators, trimming it and looking for a block of characters, each told without the scan
that does it.
-/

set_option autoImplicit false

namespace Lintel.Text

/-! ## Cutting -/

theorem splitAll_ne_nil (separator : Char) (text : List Char) : splitAll separator text ≠ [] := by
  cases text with
  | nil => exact List.cons_ne_nil _ _
  | cons c rest =>
    rw [splitAll]
    split
    · exact List.cons_ne_nil _ _
    · split <;> exact List.cons_ne_nil _ _

theorem splitAll_of_notMem {separator : Char} {text : List Char} (absent : separator ∉ text) :
    splitAll separator text = [text] := by
  induction text with
  | nil => rfl
  | cons c rest ih =>
    rw [List.mem_cons, not_or] at absent
    rw [splitAll, if_neg (Ne.symm absent.1), ih absent.2]

theorem splitAll_append (separator : Char) (first second : List Char) :
    splitAll separator (first ++ separator :: second) =
      splitAll separator first ++ splitAll separator second := by
  induction first with
  | nil => simp [splitAll]
  | cons c rest ih =>
    simp only [List.cons_append, splitAll]
    split
    · rw [ih, List.cons_append]
    · rw [ih]
      cases pieces : splitAll separator rest with
      | nil => exact absurd pieces (splitAll_ne_nil separator rest)
      | cons piece pieces => rfl

theorem splitAll_eq_splitOn (separator : Char) (text : List Char) :
    splitAll separator text = text.splitOn separator := by
  induction text with
  | nil => rfl
  | cons c rest ih =>
    rw [splitAll, List.splitOn_cons_eq_if_modifyHead, ih]
    by_cases isSeparator : c = separator
    · simp [isSeparator]
    · cases pieces : rest.splitOn separator with
      | nil => exact absurd pieces (List.splitOn_ne_nil separator rest)
      | cons piece pieces => simp [isSeparator]

theorem notMem_of_mem_splitAll {separator : Char} {text piece : List Char}
    (listed : piece ∈ splitAll separator text) : separator ∉ piece := by
  induction text generalizing piece with
  | nil => simp [List.mem_singleton.mp listed]
  | cons c rest ih =>
    rw [splitAll] at listed
    split at listed
    next =>
      cases listed with
      | head => exact List.not_mem_nil
      | tail _ later => exact ih later
    next notSeparator =>
      split at listed
      next => simp [List.mem_singleton.mp listed, Ne.symm notSeparator]
      next first pieces isCut =>
        rw [isCut] at ih
        cases listed with
        | head => exact List.not_mem_cons_of_ne_of_not_mem (Ne.symm notSeparator) (ih List.mem_cons_self)
        | tail _ later => exact ih (List.mem_cons_of_mem _ later)

theorem intercalate_cons_cons_eq (separator : Char) (first second : List Char) (rest : List (List Char)) :
    [separator].intercalate (first :: second :: rest) =
      [separator].intercalate ((first ++ separator :: second) :: rest) := by
  cases rest with
  | nil => simp [List.intercalate]
  | cons third rest => simp [List.intercalate_cons_cons]

theorem head?_intercalate_cons (separator c : Char) (piece : List Char) (pieces : List (List Char)) :
    ([separator].intercalate ((c :: piece) :: pieces)).head? = some c := by
  cases pieces with
  | nil => simp [List.intercalate]
  | cons second pieces => simp [List.intercalate_cons_cons]

/-- The pieces of a text: joined by separators they are the text, and none of them holds a separator. -/
structure Cuts (separator : Char) (text : List Char) (pieces : List (List Char)) : Prop where
  nonempty : pieces ≠ []
  whole : ∀ piece ∈ pieces, separator ∉ piece
  joined : [separator].intercalate pieces = text

theorem splitAll_eq_iff {separator : Char} {text : List Char} {pieces : List (List Char)} :
    splitAll separator text = pieces ↔ Cuts separator text pieces := by
  constructor
  · rintro rfl
    refine ⟨splitAll_ne_nil separator text, fun piece => notMem_of_mem_splitAll, ?_⟩
    rw [splitAll_eq_splitOn, List.intercalate_splitOn]
  · rintro ⟨nonempty, whole, rfl⟩
    rw [splitAll_eq_splitOn, List.splitOn_intercalate separator whole nonempty]

theorem cuts_splitAll (separator : Char) (text : List Char) : Cuts separator text (splitAll separator text) :=
  splitAll_eq_iff.mp rfl

theorem eq_nil_of_splitAll {separator : Char} {text : List Char} (pieces : splitAll separator text = [[]]) :
    text = [] :=
  (splitAll_eq_iff.mp pieces).joined.symm

theorem mem_pieces_of_mem {separator c : Char} {text : List Char} (member : c ∈ text) :
    c = separator ∨ ∃ piece ∈ splitAll separator text, c ∈ piece := by
  induction text with
  | nil => cases member
  | cons d rest ih =>
    rw [splitAll]
    split
    next isSeparator =>
      rcases List.mem_cons.mp member with same | later
      · exact .inl (same.trans isSeparator)
      · rcases ih later with same | ⟨piece, listed, inside⟩
        · exact .inl same
        · exact .inr ⟨piece, List.mem_cons_of_mem _ listed, inside⟩
    next =>
      cases pieces : splitAll separator rest with
      | nil => exact absurd pieces (splitAll_ne_nil separator rest)
      | cons first pieces =>
        rw [pieces] at ih
        rcases List.mem_cons.mp member with rfl | later
        · exact .inr ⟨_, List.mem_cons_self, List.mem_cons_self⟩
        · rcases ih later with same | ⟨piece, listed, inside⟩
          · exact .inl same
          · rcases List.mem_cons.mp listed with rfl | behind
            · exact .inr ⟨_, List.mem_cons_self, List.mem_cons_of_mem _ inside⟩
            · exact .inr ⟨piece, List.mem_cons_of_mem _ behind, inside⟩

theorem splitFirst_eq_none_iff {separator : Char} {text : List Char} :
    splitFirst separator text = none ↔ separator ∉ text := by
  induction text with
  | nil => simp [splitFirst]
  | cons c rest ih =>
    rw [splitFirst]
    split
    next isSeparator => simp [isSeparator]
    next notSeparator => simp [ih, Ne.symm notSeparator]

theorem splitFirst_eq_some_iff {separator : Char} {text before after : List Char} :
    splitFirst separator text = some (before, after) ↔
      text = before ++ separator :: after ∧ separator ∉ before := by
  induction text generalizing before with
  | nil => simp [splitFirst]
  | cons c rest ih =>
    rw [splitFirst]
    split
    next isSeparator =>
      cases before with
      | nil => simp [isSeparator]
      | cons d before =>
        simp only [Option.some.injEq, Prod.mk.injEq, reduceCtorEq, false_and, false_iff, not_and, not_not]
        intro same
        exact (List.cons.inj same).1 ▸ isSeparator ▸ List.mem_cons_self
    next notSeparator =>
      rw [Option.map_eq_some_iff]
      constructor
      · rintro ⟨⟨_, _⟩, isFound, same⟩
        cases same
        obtain ⟨rfl, absent⟩ := ih.mp isFound
        exact ⟨rfl, List.not_mem_cons_of_ne_of_not_mem (Ne.symm notSeparator) absent⟩
      · rintro ⟨same, absent⟩
        cases before with
        | nil => exact absurd (List.cons.inj same).1 notSeparator
        | cons d before =>
          obtain ⟨rfl, behind⟩ := List.cons.inj same
          exact ⟨(before, after), ih.mpr ⟨behind, fun inside => absent (List.mem_cons_of_mem _ inside)⟩, rfl⟩

/-! ## Blocks -/

theorem contains_iff_isInfix {needle text : List Char} : contains needle text = true ↔ needle <:+: text := by
  induction text with
  | nil => simp [contains]
  | cons c rest ih =>
    rw [contains, Bool.or_eq_true, ih, List.isPrefixOf_iff_prefix, List.infix_cons_iff]

/-! ## Trimming -/

theorem isInfix_trim (text : List Char) : trim text <:+: text := by
  have front : trimStart text <:+ text := List.dropWhile_suffix isBlank
  have back : trimEnd (trimStart text) <+: trimStart text := by
    rw [trimEnd, ← List.reverse_suffix, List.reverse_reverse]
    exact List.dropWhile_suffix isBlank
  exact back.isInfix.trans front.isInfix

theorem dropWhile_of_head? {α : Type} {wanted : α → Bool} {items : List α}
    (starts : ∀ item ∈ items.head?, wanted item = false) : items.dropWhile wanted = items := by
  cases items with
  | nil => rfl
  | cons item rest => exact List.dropWhile_cons_of_neg (Bool.eq_false_iff.mp (starts item rfl))

theorem trim_blank_cons {c : Char} (blank : isBlank c = true) (text : List Char) : trim (c :: text) = trim text := by
  rw [trim, trimStart, List.dropWhile_cons_of_pos blank]
  rfl

theorem trim_append {front back : List Char} (starts : ∀ c ∈ (front ++ back).head?, isBlank c = false)
    (nonempty : back ≠ []) (solid : ∀ c ∈ back, isBlank c = false) : trim (front ++ back) = front ++ back := by
  have ends : ∀ c ∈ (front ++ back).reverse.head?, isBlank c = false := by
    intro c isLast
    rw [List.head?_reverse, List.getLast?_append_of_ne_nil _ nonempty] at isLast
    exact solid c (List.mem_of_getLast? isLast)
  rw [trim, trimStart, dropWhile_of_head? starts, trimEnd, dropWhile_of_head? ends, List.reverse_reverse]

/-- A text begins and ends with characters that are not blank, or it is empty. -/
structure Solid (text : List Char) : Prop where
  starts : ∀ c ∈ text.head?, isBlank c = false
  ends : ∀ c ∈ text.getLast?, isBlank c = false

/-- A text is another one with blanks around it. -/
def Trims (text inner : List Char) : Prop :=
  Solid inner ∧ ∃ front back, text = front ++ inner ++ back ∧ ∀ c ∈ front ++ back, isBlank c = true

theorem dropWhile_append_of_all {α : Type} {wanted : α → Bool} {front : List α}
    (all : ∀ item ∈ front, wanted item = true) (items : List α) :
    (front ++ items).dropWhile wanted = items.dropWhile wanted := by
  rw [List.dropWhile_append, List.dropWhile_eq_nil_iff.mpr all]
  rfl

theorem head?_dropWhile {α : Type} (wanted : α → Bool) (items : List α) :
    ∀ item ∈ (items.dropWhile wanted).head?, wanted item = false := by
  intro item isFirst
  have refused := List.head?_dropWhile_not wanted items
  rw [Option.mem_def.mp isFirst] at refused
  simpa using refused

theorem trims_trim (text : List Char) : Trims text (trim text) := by
  -- the blanks in front, and those behind what is left
  obtain ⟨front, isFront⟩ : ∃ front, front = text.takeWhile isBlank := ⟨_, rfl⟩
  obtain ⟨back, isBack⟩ : ∃ back, back = (trimStart text).reverse.takeWhile isBlank := ⟨_, rfl⟩
  have startWhole : front ++ trimStart text = text := by
    rw [isFront]
    exact List.takeWhile_append_dropWhile
  have endWhole : trim text ++ back.reverse = trimStart text := by
    rw [isBack, trim, trimEnd, ← List.reverse_append, List.takeWhile_append_dropWhile, List.reverse_reverse]
  refine ⟨⟨?_, ?_⟩, front, back.reverse, ?_, ?_⟩
  · intro c isFirst
    apply head?_dropWhile isBlank text
    have starts : (trimStart text).head? = some c := by
      rw [← endWhole, List.head?_append, Option.mem_def.mp isFirst]
      rfl
    exact starts
  · intro c isLast
    rw [trim, trimEnd, List.getLast?_reverse] at isLast
    exact head?_dropWhile isBlank _ c isLast
  · rw [List.append_assoc, endWhole, startWhole]
  · intro c member
    rcases List.mem_append.mp member with inFront | inBack
    · exact List.mem_takeWhile_imp (isFront ▸ inFront)
    · exact List.mem_takeWhile_imp (isBack ▸ List.mem_reverse.mp inBack)

theorem trim_eq_iff {text inner : List Char} : trim text = inner ↔ Trims text inner := by
  constructor
  · rintro rfl
    exact trims_trim text
  · rintro ⟨⟨starts, ends⟩, front, back, rfl, blank⟩
    have blankFront : ∀ c ∈ front, isBlank c = true := fun c member => blank c (List.mem_append_left _ member)
    have blankBack : ∀ c ∈ back.reverse, isBlank c = true :=
      fun c member => blank c (List.mem_append_right _ (List.mem_reverse.mp member))
    rw [trim, trimStart, List.append_assoc, dropWhile_append_of_all blankFront]
    cases inner with
    | nil =>
      have none : ([] ++ back).dropWhile isBlank = [] :=
        List.dropWhile_eq_nil_iff.mpr fun c member => blankBack c (List.mem_reverse.mpr member)
      rw [none]
      rfl
    | cons first rest =>
      have kept : (first :: rest ++ back).dropWhile isBlank = first :: rest ++ back := dropWhile_of_head? starts
      rw [kept, trimEnd, List.reverse_append,
        dropWhile_append_of_all blankBack, dropWhile_of_head? (List.head?_reverse ▸ ends), List.reverse_reverse]

theorem infix_of_infix_append {needle front inner : List Char} (starts : ∀ c ∈ needle.head?, isBlank c = false)
    (nonempty : needle ≠ []) (blank : ∀ c ∈ front, isBlank c = true) (found : needle <:+: front ++ inner) :
    needle <:+: inner := by
  induction front with
  | nil => exact found
  | cons c front ih =>
    apply ih fun other member => blank other (List.mem_cons_of_mem _ member)
    rcases List.infix_cons_iff.mp found with here | later
    · cases needle with
      | nil => exact absurd rfl nonempty
      | cons first rest =>
        have same : first = c := (List.cons_prefix_cons.mp here).1
        have solid := starts first rfl
        rw [same, blank c List.mem_cons_self] at solid
        cases solid
    · exact later

/-- A block that begins and ends with characters that are not blank is in a text if it is in the trimmed text. -/
theorem infix_trim_iff {needle text : List Char} (nonempty : needle ≠ []) (solid : Solid needle) :
    needle <:+: trim text ↔ needle <:+: text := by
  constructor
  · intro found
    exact found.trans (isInfix_trim text)
  · intro found
    obtain ⟨-, front, back, isText, blank⟩ := trims_trim text
    rw [isText, List.append_assoc] at found
    have behind := infix_of_infix_append solid.starts nonempty
      (fun c member => blank c (List.mem_append_left _ member)) found
    rw [← List.reverse_infix, List.reverse_append] at behind
    rw [← List.reverse_infix]
    refine infix_of_infix_append ?_ (List.reverse_ne_nil_iff.mpr nonempty)
      (fun c member => blank c (List.mem_append_right _ (List.mem_reverse.mp member))) behind
    rw [List.head?_reverse]
    exact solid.ends

/-! ## Bytes -/

theorem fromUTF8?_toUTF8 (text : String) : String.fromUTF8? text.toUTF8 = some text := by
  rw [String.toUTF8_eq_toByteArray, String.fromUTF8?, dif_pos text.isValidUTF8]
  rfl

end Lintel.Text
