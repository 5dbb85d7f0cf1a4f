import Lintel.Suppression
import Lintel.Proofs.TextPieces

/-!
# Comments and the lines they stand on

What the scan for comments keeps of the text: lines are pieces of the source, a comment is the rest of
its line behind a `#`, comments come in the order of their lines, and every line has a layout. A source
without the keyword has no directives, so looking for the keyword first changes no result.
-/

set_option autoImplicit false

namespace Lintel

namespace Suppression

/-! ## Lines -/

/-- A line without the carriage return at its end. -/
def dropReturn (line : List Char) : List Char :=
  if line.getLast? = some '\r' then line.dropLast else line

theorem dropReturn_of_notMem {line : List Char} (absent : '\r' ∉ line) : dropReturn line = line := by
  rw [dropReturn, if_neg]
  intro isLast
  exact absent (List.mem_of_getLast? isLast)

/-- Lines end at line feeds, and one that does may have a carriage return in front of it. -/
theorem dropReturn_cases (line : List Char) :
    dropReturn line = line ∧ line.getLast? ≠ some '\r' ∨ line = dropReturn line ++ ['\r'] := by
  by_cases isLast : line.getLast? = some '\r'
  · right
    rw [dropReturn, if_pos isLast]
    rw [List.dropLast_append_getLast? '\r' isLast]
  · left
    exact ⟨if_neg isLast, isLast⟩

theorem splitLines_cons_feed {c : Char} (notFeed : c ≠ '\n') (rest : List Char) :
    splitLines (c :: '\n' :: rest) = (if c = '\r' then [] else [c]) :: splitLines rest := by
  simp [splitLines, notFeed]

theorem splitLines_cons_cons {c d : Char} (notFeed : c ≠ '\n') (nextNotFeed : d ≠ '\n')
    {rest line : List Char} {lines : List (List Char)} (behind : splitLines (d :: rest) = line :: lines) :
    splitLines (c :: d :: rest) = (c :: line) :: lines := by
  rw [splitLines.eq_def]
  simp only [if_neg notFeed, behind]
  split <;> simp_all

theorem splitLines_last {line : List Char} (nonempty : line ≠ []) (whole : '\n' ∉ line) :
    splitLines line = [line] := by
  induction line with
  | nil => exact absurd rfl nonempty
  | cons c rest ih =>
    rw [List.mem_cons, not_or] at whole
    cases rest with
    | nil => simp [splitLines, Ne.symm whole.1]
    | cons d more =>
      have nextNotFeed : d ≠ '\n' := fun same => whole.2 (same ▸ List.mem_cons_self)
      exact splitLines_cons_cons (Ne.symm whole.1) nextNotFeed (ih (List.cons_ne_nil d more) whole.2)

theorem splitLines_feed {line : List Char} (whole : '\n' ∉ line) (rest : List Char) :
    splitLines (line ++ '\n' :: rest) = dropReturn line :: splitLines rest := by
  induction line with
  | nil => rfl
  | cons c line ih =>
    rw [List.mem_cons, not_or] at whole
    cases line with
    | nil =>
      rw [List.singleton_append, splitLines_cons_feed (Ne.symm whole.1)]
      by_cases isReturn : c = '\r'
      · simp [isReturn, dropReturn]
      · simp [isReturn, dropReturn]
    | cons d more =>
      have nextNotFeed : d ≠ '\n' := fun same => whole.2 (same ▸ List.mem_cons_self)
      have behind : splitLines (d :: (more ++ '\n' :: rest)) = _ := ih whole.2
      rw [List.cons_append, List.cons_append, splitLines_cons_cons (Ne.symm whole.1) nextNotFeed behind]
      simp only [dropReturn, List.getLast?_cons_cons, List.dropLast_cons_cons]
      split <;> rfl

/-- Every text is empty, is a last line without a line feed, or has a first line that ends in one. -/
@[elab_as_elim]
theorem byLines {motive : List Char → Prop} (empty : motive [])
    (last : ∀ line, line ≠ [] → '\n' ∉ line → motive line)
    (more : ∀ line rest, '\n' ∉ line → motive rest → motive (line ++ '\n' :: rest))
    (text : List Char) : motive text := by
  by_cases feed : '\n' ∈ text
  · obtain ⟨line, rest, split, whole⟩ := List.eq_append_cons_of_mem feed
    have shorter : rest.length < text.length := by
      rw [split, List.length_append, List.length_cons]
      omega
    rw [split]
    exact more line rest whole (byLines empty last more rest)
  · by_cases nonempty : text = []
    · rw [nonempty]
      exact empty
    · exact last text nonempty feed
termination_by text.length

/-- A line of a source stands in it, behind as many line feeds as lines, and is followed by the end of
the source or by a line feed. -/
theorem exists_of_mem_splitLines {source line : List Char} {earlier later : List (List Char)}
    (split : splitLines source = earlier ++ line :: later) :
    ∃ before after, source = before ++ line ++ after ∧ before.count '\n' = earlier.length ∧ '\n' ∉ line ∧
      (after = [] ∨ (∃ rest, after = '\n' :: rest ∧ line.getLast? ≠ some '\r') ∨
        ∃ rest, after = '\r' :: '\n' :: rest) := by
  induction source using byLines generalizing earlier with
  | empty => simp [splitLines] at split
  | last text nonempty whole =>
    rw [splitLines_last nonempty whole] at split
    cases earlier with
    | nil =>
      obtain ⟨rfl, -⟩ := List.cons.inj split
      exact ⟨[], [], by simp, rfl, whole, .inl rfl⟩
    | cons skipped earlier => simp at split
  | more first rest whole ih =>
    rw [splitLines_feed whole] at split
    cases earlier with
    | nil =>
      obtain ⟨rfl, -⟩ := List.cons.inj split
      rcases dropReturn_cases first with ⟨same, notReturn⟩ | isReturn
      · rw [same]
        exact ⟨[], '\n' :: rest, rfl, rfl, whole, .inr (.inl ⟨rest, rfl, notReturn⟩)⟩
      · refine ⟨[], '\r' :: '\n' :: rest, ?_, rfl, ?_, .inr (.inr ⟨rest, rfl⟩)⟩
        · conv_lhs => rw [isReturn]
          simp
        · intro inside
          exact whole (isReturn ▸ List.mem_append_left _ inside)
    | cons skipped earlier =>
      obtain ⟨before, after, rfl, counted, inside, ends⟩ := ih (List.cons.inj split).2
      refine ⟨first ++ '\n' :: before, after, by simp, ?_, inside, ends⟩
      simp [counted, List.count_eq_zero_of_not_mem whole]

/-! ## Scans -/

section ScanLine

variable {held : OpenLiteral} {c : Char} {rest : List Char} (hasCode : Bool)

theorem scanLine_escape :
    scanLine (some held) hasCode ('\\' :: c :: rest) = scanLine (some held) hasCode rest := by
  simp [scanLine]

theorem scanLine_close (notSlash : held.quote ≠ '\\') (single : held.isTriple = false) :
    scanLine (some held) hasCode (held.quote :: rest) = scanLine none hasCode rest := by
  rw [scanLine.eq_def]
  simp [notSlash, single]

theorem scanLine_close_triple (notSlash : held.quote ≠ '\\') (triple : held.isTriple = true) :
    scanLine (some held) hasCode (held.quote :: held.quote :: held.quote :: rest) = scanLine none hasCode rest := by
  rw [scanLine.eq_def]
  simp [notSlash, triple]

/-- A literal goes on behind every character that is no backslash and does not close it. -/
theorem scanLine_inside (notSlash : c ≠ '\\')
    (notClosing : c = held.quote → held.isTriple = true ∧ ¬ [c, c] <+: rest) :
    scanLine (some held) hasCode (c :: rest) = scanLine (some held) hasCode rest := by
  rw [scanLine.eq_def]
  by_cases isQuote : c = held.quote
  · obtain ⟨triple, notThree⟩ := notClosing isQuote
    subst isQuote
    simp only [if_neg notSlash, triple, Bool.not_true, Bool.false_eq_true, ↓reduceIte]
    split
    next second third after =>
      have notSame : ¬ (second = held.quote ∧ third = held.quote) := by
        rintro ⟨rfl, rfl⟩
        exact notThree ⟨after, rfl⟩
      simp [notSame]
    next => rfl
  · simp [notSlash, isQuote]

theorem ne_hash_of_isQuote (isQuote : c = '"' ∨ c = '\'') : c ≠ '#' := by
  rcases isQuote with rfl | rfl <;> decide

theorem scanLine_open_triple (isQuote : c = '"' ∨ c = '\'') :
    scanLine none hasCode (c :: c :: c :: rest) = scanLine (some ⟨c, true⟩) true rest := by
  rw [scanLine.eq_def]
  simp [ne_hash_of_isQuote isQuote, isQuote]

theorem scanLine_open (isQuote : c = '"' ∨ c = '\'') (notThree : ¬ [c, c] <+: rest) :
    scanLine none hasCode (c :: rest) = scanLine (some ⟨c, false⟩) true rest := by
  rw [scanLine.eq_def]
  simp only [if_neg (ne_hash_of_isQuote isQuote), if_pos isQuote]
  split
  next second third after =>
    have notSame : ¬ (second = c ∧ third = c) := by
      rintro ⟨rfl, rfl⟩
      exact notThree ⟨after, rfl⟩
    simp [notSame]
  next => rfl

theorem scanLine_comment : scanLine none hasCode ('#' :: rest) = ⟨none, hasCode, some rest⟩ := by
  simp [scanLine.eq_def]

theorem scanLine_code (notHash : c ≠ '#') (notQuote : ¬ (c = '"' ∨ c = '\'')) :
    scanLine none hasCode (c :: rest) = scanLine none (hasCode || !Text.isBlank c) rest := by
  rw [scanLine.eq_def]
  simp [notHash, notQuote]

end ScanLine

theorem suffix_of_comment_scanLine {literal : Option OpenLiteral} {hasCode : Bool} {line text : List Char}
    (found : (scanLine literal hasCode line).comment = some text) : '#' :: text <:+ line := by
  fun_induction scanLine literal hasCode line with
  | case1 | case2 => cases found
  | case3 _ _ c rest ih => exact (ih found).trans ⟨['\\', c], rfl⟩
  | case5 _ held _ second third after _ _ ih => exact (ih found).trans ⟨[held.quote, second, third], rfl⟩
  | case9 _ rest =>
    cases found
    exact List.suffix_rfl
  | case10 _ c _ _ second third after _ ih => exact (ih found).trans ⟨[c, second, third], rfl⟩
  | case4 _ _ _ _ _ ih | case6 _ _ _ _ _ _ _ _ ih | case7 _ _ _ _ _ _ ih | case8 _ _ _ _ _ _ ih
  | case11 _ _ _ _ _ _ _ _ ih | case12 _ _ _ _ _ _ ih | case13 _ _ _ _ _ ih =>
    exact (ih found).trans (List.suffix_cons _ _)

theorem scanLines_cons (number : Nat) (literal : Option OpenLiteral) (line : List Char)
    (lines : List (List Char)) :
    scanLines number literal (line :: lines) =
      let scan := scanLine literal literal.isSome line
      let rest := scanLines (number + 1) (carriedLiteral line scan.literal) lines
      (⟨scan.hasCode, indentOf line, literal.isSome⟩ :: rest.1,
        (scan.comment.map fun text => ⟨number, text, scan.hasCode⟩).toList ++ rest.2) := by
  rw [scanLines]
  cases scanned : scanLine literal literal.isSome line with
  | mk carried hasCode comment =>
    cases comment <;> simp

section ScanLines

variable (number : Nat) (literal : Option OpenLiteral)

theorem length_layouts_scanLines (lines : List (List Char)) :
    (scanLines number literal lines).1.length = lines.length := by
  induction lines generalizing number literal with
  | nil => rfl
  | cons line lines ih => simp [scanLines_cons, ih]

/-- A comment is the rest of a line of the source, and has the number of that line. -/
theorem exists_of_mem_scanLines {lines : List (List Char)} {comment : Comment}
    (member : comment ∈ (scanLines number literal lines).2) :
    ∃ earlier line later, lines = earlier ++ line :: later ∧ comment.line = number + earlier.length ∧
      '#' :: comment.text <:+ line := by
  induction lines generalizing number literal with
  | nil => cases member
  | cons line lines ih =>
    simp only [scanLines_cons, List.mem_append, Option.mem_toList, Option.map_eq_some_iff] at member
    rcases member with ⟨text, found, rfl⟩ | inside
    · exact ⟨[], line, lines, rfl, rfl, suffix_of_comment_scanLine found⟩
    · obtain ⟨earlier, held, later, rfl, numbered, stands⟩ := ih _ _ inside
      refine ⟨line :: earlier, held, later, rfl, ?_, stands⟩
      rw [numbered, List.length_cons]
      omega

theorem scanLines_numbers {lines : List (List Char)} {comment : Comment}
    (member : comment ∈ (scanLines number literal lines).2) :
    number ≤ comment.line ∧ comment.line < number + lines.length := by
  obtain ⟨earlier, line, later, rfl, numbered, -⟩ := exists_of_mem_scanLines number literal member
  rw [numbered, List.length_append, List.length_cons]
  omega

theorem ascending_scanLines (lines : List (List Char)) :
    (scanLines number literal lines).2.Pairwise fun first second => first.line < second.line := by
  induction lines generalizing number literal with
  | nil => exact .nil
  | cons line lines ih =>
    simp only [scanLines_cons]
    refine List.pairwise_append.mpr ⟨?_, ih _ _, ?_⟩
    · cases (scanLine literal literal.isSome line).comment with
      | none => exact .nil
      | some text => exact List.pairwise_singleton _ _
    · intro first here second later
      obtain ⟨text, -, rfl⟩ := Option.map_eq_some_iff.mp (Option.mem_toList.mp here)
      exact (scanLines_numbers _ _ later).1

end ScanLines

theorem ascending_scanComments (source : List Char) :
    (scanComments source).2.Pairwise fun first second => first.line < second.line :=
  ascending_scanLines 1 none (splitLines source)

theorem scanComments_numbers {source : List Char} {comment : Comment}
    (member : comment ∈ (scanComments source).2) :
    0 < comment.line ∧ comment.line ≤ (scanComments source).1.length := by
  have numbers := scanLines_numbers 1 none member
  have length : (scanComments source).1.length = (splitLines source).length := length_layouts_scanLines 1 none _
  omega

/-! ## The keyword -/

theorem infix_of_mem_scanComments {source : List Char} {comment : Comment}
    (member : comment ∈ (scanComments source).2) : comment.text <:+: source := by
  obtain ⟨earlier, line, later, split, -, stands⟩ := exists_of_mem_scanLines 1 none member
  obtain ⟨before, after, rfl, -⟩ := exists_of_mem_splitLines split
  have inLine : comment.text <:+: line := ((List.suffix_cons _ _).trans stands).isInfix
  exact inLine.trans ⟨before, after, rfl⟩

theorem readComment_of_not_contains (registry : Registry) {text : List Char}
    (absent : ¬ keyword <:+: text) : readComment registry text = (none, []) := by
  have notPragma : ¬ Text.contains pragma (Text.trim text) = true := by
    intro found
    have inPragma : keyword <:+: pragma := Text.contains_iff_isInfix.mp (by decide)
    exact absent (inPragma.trans ((Text.contains_iff_isInfix.mp found).trans (Text.isInfix_trim text)))
  have notMarker : ¬ marker.isPrefixOf (Text.trim text) = true := by
    intro found
    have inMarker : keyword <:+: marker := Text.contains_iff_isInfix.mp (by decide)
    have starts : marker <+: Text.trim text := List.isPrefixOf_iff_prefix.mp found
    exact absent (inMarker.trans (starts.isInfix.trans (Text.isInfix_trim text)))
  simp only [readComment, if_neg notPragma, if_neg notMarker]

theorem Progress.take_of_ignored {registry : Registry} {layouts : List LineLayout}
    {statements : List (Nat × Nat)} (progress : Progress) {comment : Comment}
    (ignored : readComment registry comment.text = (none, [])) :
    progress.take registry layouts statements comment = progress := by
  simp [Progress.take, ignored]

/-- What the directives of a source amount to, whether or not the keyword is in it. -/
def progressOf (registry : Registry) (statements : List (Nat × Nat)) (source : List Char) : Progress :=
  (scanComments source).2.foldl (Progress.take registry (scanComments source).1 statements) ⟨[], []⟩

end Suppression

open Suppression in
theorem Suppressions.scan_eq (registry : Registry) (statements : List (Nat × Nat)) (source : List Char) :
    scan registry statements source =
      ⟨(progressOf registry statements source).tracked.map Tracked.exemption,
        (progressOf registry statements source).faults⟩ := by
  by_cases present : Text.contains keyword source = true
  · simp [scan, present, progressOf]
  · have unchanged : progressOf registry statements source = ⟨[], []⟩ := by
      refine List.foldlRecOn (motive := fun progress : Progress => progress = ⟨[], []⟩) _ _ rfl ?_
      rintro progress rfl comment member
      apply Progress.take_of_ignored
      apply readComment_of_not_contains
      intro inComment
      exact present (Text.contains_iff_isInfix.mpr (inComment.trans (infix_of_mem_scanComments member)))
    simp [scan, present, unchanged]

end Lintel
