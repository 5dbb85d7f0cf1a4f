import Lintel.Diagnostic
import Lintel.Proofs.LineIndex
import Lintel.Proofs.LineNumbers
import Mathlib.Data.Prod.Lex
import Mathlib.Order.Monotone.Defs

/-!
# Lines and columns

What is looked up for a byte offset, told by the bytes and the characters of the source. The line counts the
line feeds among the bytes in front. The column counts from the start of that line: characters if the offset
stands between two of them, and bytes if it cuts one in two. Between characters, places come in the order of
their offsets, so no two offsets have one place and no span ends before it starts.
-/

set_option autoImplicit false

namespace Lintel

namespace Text

/-! ## Bytes -/

/-- The UTF-8 bytes of a text. -/
def utf8Bytes (text : List Char) : List UInt8 :=
  text.flatMap String.utf8EncodeChar

theorem length_utf8Bytes (text : List Char) : (utf8Bytes text).length = byteLength text := by
  induction text with
  | nil => rfl
  | cons c rest ih =>
    rw [byteLength_cons, ← ih, utf8Bytes, List.flatMap_cons, List.length_append, String.length_utf8EncodeChar]
    rfl

/-- The number of line feeds among the bytes below an offset. -/
def feedsBelow (text : List Char) (offset : Nat) : Nat :=
  ((utf8Bytes text).take offset).count '\n'.toUInt8

theorem ofNat_ne_feed {code : Nat} (small : code < 256) (other : code ≠ 10) :
    '\n'.toUInt8 ≠ UInt8.ofNat code := by
  intro same
  have codes := congrArg UInt8.toNat same
  rw [UInt8.toNat_ofNat_of_lt' small] at codes
  exact other codes.symm

/-- No other character has a line feed among its bytes. -/
theorem feed_not_mem_utf8EncodeChar {c : Char} (notFeed : c ≠ '\n') :
    '\n'.toUInt8 ∉ String.utf8EncodeChar c := by
  rw [String.utf8EncodeChar]
  split_ifs with one two three
  · have other : c.val.toNat ≠ 10 := fun same => notFeed (Char.toNat_inj.mp same)
    rw [List.mem_singleton]
    exact ofNat_ne_feed (by omega) other
  · simp only [List.mem_cons, List.not_mem_nil, or_false, not_or]
    refine ⟨?_, ?_⟩ <;> exact ofNat_ne_feed (by omega) (by omega)
  · simp only [List.mem_cons, List.not_mem_nil, or_false, not_or]
    refine ⟨?_, ?_, ?_⟩ <;> exact ofNat_ne_feed (by omega) (by omega)
  · simp only [List.mem_cons, List.not_mem_nil, or_false, not_or]
    refine ⟨?_, ?_, ?_, ?_⟩ <;> exact ofNat_ne_feed (by omega) (by omega)

theorem utf8EncodeChar_feed : String.utf8EncodeChar '\n' = ['\n'.toUInt8] := rfl

theorem feedsBelow_cons (c : Char) (rest : List Char) (offset : Nat) :
    feedsBelow (c :: rest) offset =
      (if c = '\n' ∧ 0 < offset then 1 else 0) + feedsBelow rest (offset - c.utf8Size) := by
  rw [feedsBelow, utf8Bytes, List.flatMap_cons, List.take_append, String.length_utf8EncodeChar,
    List.count_append]
  refine congrArg (· + _) ?_
  by_cases isFeed : c = '\n'
  · subst isFeed
    rw [utf8EncodeChar_feed]
    cases offset with
    | zero => rfl
    | succ below => simp
  · rw [if_neg (fun both => isFeed both.1), List.count_eq_zero]
    exact fun member => feed_not_mem_utf8EncodeChar isFeed (List.mem_of_mem_take member)

/-- The line feeds in front of an offset are those that its bytes in front show. -/
theorem countP_feedsFrom (start : Nat) (text : List Char) (offset : Nat) :
    (feedsFrom start text).countP (fun place => place < start + offset) = feedsBelow text offset := by
  induction text generalizing start offset with
  | nil => simp [feedsFrom, feedsBelow, utf8Bytes]
  | cons c rest ih =>
    -- an offset inside the first character has none of the later ones in front
    have behind : (feedsFrom (start + c.utf8Size) rest).countP (fun place => place < start + offset) =
        feedsBelow rest (offset - c.utf8Size) := by
      rw [← ih (start + c.utf8Size)]
      refine List.countP_congr fun place member => ?_
      have bounds := bounds_of_mem_feedsFrom member
      simp only [decide_eq_true_eq]
      omega
    rw [feedsFrom, feedsBelow_cons, ← behind]
    by_cases isFeed : c = '\n'
    · subst isFeed
      have one : '\n'.utf8Size = 1 := rfl
      rw [if_pos rfl, List.countP_cons, one, Nat.add_comm]
      simp
    · rw [if_neg isFeed, if_neg (fun both => isFeed both.1), Nat.zero_add]

theorem LineIndex.lineOf_eq_feedsBelow (text : List Char) (offset : Nat) :
    (ofChars text).lineOf offset = feedsBelow text offset + 1 := by
  rw [lineOf_eq, ← countP_feedsFrom 0, Nat.zero_add]

/-! ## Characters -/

/-- A byte offset that cuts no character in two. -/
def IsBoundary (text : List Char) (offset : Nat) : Prop :=
  ∃ before after, text = before ++ after ∧ byteLength before = offset

theorem byteLength_pos {text : List Char} (nonempty : text ≠ []) : 0 < byteLength text := by
  obtain ⟨c, rest, rfl⟩ := List.exists_cons_of_ne_nil nonempty
  have size := c.utf8Size_pos
  rw [byteLength_cons]
  omega

/-- Of two cuts of one text, the one with fewer bytes in front comes first. -/
theorem exists_append_of_byteLength_le {first firstRest second secondRest : List Char}
    (same : first ++ firstRest = second ++ secondRest) (shorter : byteLength first ≤ byteLength second) :
    ∃ between, second = first ++ between ∧ firstRest = between ++ secondRest := by
  rcases List.append_eq_append_iff.mp same with found | ⟨between, rfl, rfl⟩
  · exact found
  · have empty : between = [] := by
      by_contra nonempty
      have more := byteLength_pos nonempty
      rw [byteLength_append] at shorter
      omega
    exact ⟨[], by simp [empty]⟩

/-- An offset in a text that is not between two characters is inside one. -/
theorem exists_char_of_not_isBoundary {text : List Char} {offset : Nat} (within : offset ≤ byteLength text)
    (cuts : ¬ IsBoundary text offset) :
    ∃ before c after extra, text = before ++ c :: after ∧ offset = byteLength before + extra ∧ 0 < extra ∧
      extra < c.utf8Size := by
  induction text generalizing offset with
  | nil => exact absurd ⟨[], [], rfl, (Nat.le_zero.mp within).symm⟩ cuts
  | cons c rest ih =>
    have behindStart : offset ≠ 0 := fun atStart => cuts ⟨[], c :: rest, rfl, atStart.symm⟩
    by_cases inside : offset < c.utf8Size
    · exact ⟨[], c, rest, offset, rfl, (Nat.zero_add _).symm, Nat.pos_of_ne_zero behindStart, inside⟩
    · rw [byteLength_cons] at within
      have cutsRest : ¬ IsBoundary rest (offset - c.utf8Size) := by
        rintro ⟨before, after, rfl, length⟩
        refine cuts ⟨c :: before, after, rfl, ?_⟩
        rw [byteLength_cons]
        omega
      obtain ⟨before, held, after, extra, rfl, place, positive, below⟩ := ih (by omega) cutsRest
      refine ⟨c :: before, held, after, extra, rfl, ?_, positive, below⟩
      rw [byteLength_cons]
      omega

theorem charsInBytes_zero (text : List Char) : charsInBytes text 0 = some 0 := by
  cases text <;> rfl

theorem charsInBytes_append (text rest : List Char) (extra : Nat) :
    charsInBytes (text ++ rest) (byteLength text + extra) =
      (charsInBytes rest extra).map (· + text.length) := by
  induction text with
  | nil =>
    rw [List.nil_append, show byteLength [] + extra = extra from Nat.zero_add extra]
    simp
  | cons c text ih =>
    obtain ⟨size, sized⟩ := Nat.exists_eq_add_of_lt c.utf8Size_pos
    have whole : byteLength (c :: text) + extra = size + (byteLength text + extra) + 1 := by
      rw [byteLength_cons]
      omega
    have rest : size + (byteLength text + extra) + 1 - c.utf8Size = byteLength text + extra := by omega
    rw [whole, List.cons_append, charsInBytes, if_pos (by omega), rest, ih, Option.map_map, List.length_cons]
    rfl

theorem charsInBytes_of_lt {c : Char} {rest : List Char} {size : Nat} (positive : 0 < size)
    (below : size < c.utf8Size) : charsInBytes (c :: rest) size = none := by
  obtain ⟨smaller, rfl⟩ := Nat.exists_eq_succ_of_ne_zero (Nat.ne_of_gt positive)
  rw [charsInBytes, if_neg (Nat.not_le_of_lt below)]

/-! ## The line that is looked up -/

/-- A text that ends where a line does. -/
def WholeLines (text : List Char) : Prop :=
  text = [] ∨ text.getLast? = some '\n'

theorem exists_wholeLines_append (text : List Char) :
    ∃ whole begun, text = whole ++ begun ∧ WholeLines whole ∧ '\n' ∉ begun := by
  induction text using List.reverseRecOn with
  | nil => exact ⟨[], [], rfl, .inl rfl, List.not_mem_nil⟩
  | append_singleton text last ih =>
    by_cases isFeed : last = '\n'
    · subst isFeed
      exact ⟨text ++ ['\n'], [], (List.append_nil _).symm, .inr List.getLast?_concat, List.not_mem_nil⟩
    · obtain ⟨whole, begun, rfl, ends, noFeed⟩ := ih
      refine ⟨whole, begun ++ [last], List.append_assoc _ _ _, ends, ?_⟩
      simp [noFeed, Ne.symm isFeed]

theorem WholeLines.of_cons {c : Char} {text : List Char} (ends : WholeLines (c :: text)) :
    (text = [] ∧ c = '\n') ∨ (text ≠ [] ∧ WholeLines text) := by
  cases text with
  | nil => simpa [WholeLines] using ends
  | cons next rest => exact .inr ⟨List.cons_ne_nil _ _, by simpa [WholeLines] using ends⟩

/-- The first line of a text starts where the text starts. -/
theorem exists_first_line (start : Nat) (text : List Char) :
    ∃ chars later, linesFrom start text = ⟨start, chars⟩ :: later := by
  cases text with
  | nil => exact ⟨[], [], rfl⟩
  | cons c rest =>
    rw [linesFrom]
    split
    · exact ⟨_, _, rfl⟩
    · split
      · exact ⟨_, _, rfl⟩
      · exact ⟨_, _, rfl⟩

/-- A character inside a line is put in front of what the line has behind it. -/
theorem linesFrom_cons_of_ne {c : Char} (notFeed : c ≠ '\n') (start : Nat) (rest : List Char) :
    ∃ chars later, linesFrom (start + c.utf8Size) rest = ⟨start + c.utf8Size, chars⟩ :: later ∧
      linesFrom start (c :: rest) = ⟨start, c :: chars⟩ :: later := by
  obtain ⟨chars, later, lines⟩ := exists_first_line (start + c.utf8Size) rest
  exact ⟨chars, later, lines, by rw [linesFrom, if_neg notFeed, lines]⟩

theorem drop_linesFrom (start : Nat) {whole : List Char} (ends : WholeLines whole) (rest : List Char) :
    (linesFrom start (whole ++ rest)).drop (whole.count '\n') = linesFrom (start + byteLength whole) rest := by
  induction whole generalizing start with
  | nil => rfl
  | cons c whole ih =>
    rw [List.cons_append, byteLength_cons, ← Nat.add_assoc]
    by_cases isFeed : c = '\n'
    · subst isFeed
      have behind : WholeLines whole := by
        rcases ends.of_cons with ⟨rfl, _⟩ | ⟨_, behind⟩
        · exact .inl rfl
        · exact behind
      have one : '\n'.utf8Size = 1 := rfl
      rw [linesFrom, if_pos rfl, List.count_cons_self, List.drop_succ_cons, ih _ behind, one]
    · obtain ⟨nonempty, behind⟩ := ends.of_cons.resolve_left fun both => isFeed both.2
      obtain ⟨chars, later, lines, here⟩ := linesFrom_cons_of_ne isFeed start (whole ++ rest)
      -- the last of the whole lines ends behind the first character, so a line is dropped on both sides
      have feed : '\n' ∈ whole := List.mem_of_getLast? (behind.resolve_left nonempty)
      obtain ⟨fewer, counted⟩ := Nat.exists_eq_succ_of_ne_zero (List.count_pos_iff.mpr feed).ne'
      have dropped := ih (start + c.utf8Size) behind
      rw [lines, counted, List.drop_succ_cons] at dropped
      rw [here, List.count_cons_of_ne isFeed, counted, List.drop_succ_cons, dropped]

theorem linesFrom_begun (start : Nat) {begun : List Char} (noFeed : '\n' ∉ begun) (rest : List Char) :
    ∃ more later, linesFrom start (begun ++ rest) = ⟨start, begun ++ more⟩ :: later := by
  induction begun generalizing start with
  | nil => exact exists_first_line start rest
  | cons c begun ih =>
    obtain ⟨notFeed, noLater⟩ := List.ne_and_not_mem_of_not_mem_cons noFeed
    obtain ⟨chars, later, lines, here⟩ := linesFrom_cons_of_ne notFeed.symm start (begun ++ rest)
    obtain ⟨more, others, begunLines⟩ := ih (start + c.utf8Size) noLater
    rw [lines, List.cons.injEq, Line.mk.injEq] at begunLines
    refine ⟨more, later, ?_⟩
    rw [List.cons_append, here, begunLines.1.2, List.cons_append]

/-- The line of a byte offset starts at another one: at the start of the text or right behind a line feed, with
no line feed from there to the offset. -/
structure StartsLineOf (text : List Char) (offset start : Nat) : Prop where
  reached : start ≤ offset
  behindFeed : start = 0 ∨ ∃ before after, text = before ++ '\n' :: after ∧ start = byteLength before + 1
  noFeed : ¬ FeedBetween text start offset

/-- The line and the column that a byte offset of a text has: the line feeds in front are counted, and from the
start of the line the characters, or the bytes if the offset cuts a character in two. -/
structure Locates (text : List Char) (offset : Nat) (found : LineColumn) : Prop where
  line : found.line = feedsBelow text offset + 1
  column : ∃ start, StartsLineOf text offset start ∧
    (IsBoundary text offset → ∃ before inside after, text = before ++ inside ++ after ∧
      byteLength before = start ∧ byteLength (before ++ inside) = offset ∧ found.column = inside.length + 1) ∧
    (¬ IsBoundary text offset → found.column = offset - start + 1)

namespace LineIndex

theorem size_ofChars (text : List Char) : (ofChars text).size = byteLength text := rfl

section Begun

variable {whole begun : List Char}

theorem lineOf_begun (whole : List Char) (noFeed : '\n' ∉ begun) (rest : List Char) :
    (ofChars (whole ++ begun ++ rest)).lineOf (byteLength (whole ++ begun)) = whole.count '\n' + 1 := by
  rw [lineOf_byteLength, List.count_append, List.count_eq_zero.mpr noFeed, Nat.add_zero]

/-- A character of several bytes does not end a line. -/
theorem feed_not_mem_concat (noFeed : '\n' ∉ begun) {c : Char} (several : 1 < c.utf8Size) :
    '\n' ∉ begun ++ [c] := by
  have other : '\n' ≠ c := by
    rintro rfl
    exact absurd several (by decide)
  simp [noFeed, other]

theorem lineOf_inside (whole : List Char) (noFeed : '\n' ∉ begun) {c : Char} {extra : Nat}
    (positive : 0 < extra) (below : extra < c.utf8Size) (rest : List Char) :
    (ofChars (whole ++ begun ++ c :: rest)).lineOf (byteLength (whole ++ begun) + extra) =
      whole.count '\n' + 1 := by
  have several : 1 < c.utf8Size := by omega
  have front := lineOf_begun whole noFeed (c :: rest)
  have behind := lineOf_begun whole (feed_not_mem_concat noFeed several) rest
  have size : byteLength (whole ++ (begun ++ [c])) = byteLength (whole ++ begun) + c.utf8Size := by
    rw [← List.append_assoc, byteLength_append, byteLength_cons]
    rfl
  rw [size, show whole ++ (begun ++ [c]) ++ rest = whole ++ begun ++ c :: rest by simp] at behind
  -- the offset stands between the two ends of the character, which are on one line
  refine Nat.le_antisymm ?_ ?_
  · rw [← behind]
    exact lineOf_mono _ (by omega)
  · rw [← front]
    exact lineOf_mono _ (by omega)

/-- The line that begins behind whole lines stands behind as many as there are line feeds. -/
theorem getElem?_lines_begun (ends : WholeLines whole) (noFeed : '\n' ∉ begun) (rest : List Char) :
    ∃ more, (ofChars (whole ++ begun ++ rest)).lines[whole.count '\n']? =
      some ⟨byteLength whole, begun ++ more⟩ := by
  obtain ⟨more, later, lines⟩ := linesFrom_begun (0 + byteLength whole) noFeed rest
  refine ⟨more, ?_⟩
  rw [← Nat.add_zero (whole.count '\n'), ← List.getElem?_drop, List.append_assoc, ofChars,
    drop_linesFrom 0 ends, lines, Nat.zero_add]
  rfl

/-- Between two characters the column counts characters. -/
theorem lineColumn_begun (ends : WholeLines whole) (noFeed : '\n' ∉ begun) (rest : List Char) :
    (ofChars (whole ++ begun ++ rest)).lineColumn (byteLength (whole ++ begun)) =
      ⟨whole.count '\n' + 1, begun.length + 1⟩ := by
  obtain ⟨more, line⟩ := getElem?_lines_begun ends noFeed rest
  have within : byteLength (whole ++ begun) ≤ (ofChars (whole ++ begun ++ rest)).size := by
    rw [size_ofChars, byteLength_append (whole ++ begun)]
    omega
  have distance : byteLength (whole ++ begun) - byteLength whole = byteLength begun + 0 := by
    rw [byteLength_append]
    omega
  simp only [lineColumn, Nat.min_eq_left within, lineOf_begun whole noFeed, Nat.add_sub_cancel, line, distance,
    charsInBytes_append, charsInBytes_zero, Option.map_some, Option.getD_some, Nat.zero_add]

/-- Inside a character the column counts bytes. -/
theorem lineColumn_inside (ends : WholeLines whole) (noFeed : '\n' ∉ begun) {c : Char} {extra : Nat}
    (positive : 0 < extra) (below : extra < c.utf8Size) (rest : List Char) :
    (ofChars (whole ++ begun ++ c :: rest)).lineColumn (byteLength (whole ++ begun) + extra) =
      ⟨whole.count '\n' + 1, byteLength begun + extra + 1⟩ := by
  have several : 1 < c.utf8Size := by omega
  obtain ⟨more, line⟩ := getElem?_lines_begun ends (feed_not_mem_concat noFeed several) rest
  rw [show whole ++ (begun ++ [c]) ++ rest = whole ++ begun ++ c :: rest by simp,
    List.append_assoc begun] at line
  have within : byteLength (whole ++ begun) + extra ≤ (ofChars (whole ++ begun ++ c :: rest)).size := by
    rw [size_ofChars, byteLength_append (whole ++ begun), byteLength_cons]
    omega
  have distance : byteLength (whole ++ begun) + extra - byteLength whole = byteLength begun + extra := by
    rw [byteLength_append]
    omega
  simp only [lineColumn, Nat.min_eq_left within, lineOf_inside whole noFeed positive below,
    Nat.add_sub_cancel, line, distance, charsInBytes_append, List.singleton_append,
    charsInBytes_of_lt positive below, Option.map_none, Option.getD_none]

/-- An offset on the line behind whole lines has the start of its line there. -/
theorem startsLineOf_of_split (ends : WholeLines whole) {text rest : List Char} (split : text = whole ++ rest)
    {offset : Nat} (reached : byteLength whole ≤ offset)
    (held : (ofChars text).lineOf offset = whole.count '\n' + 1) :
    StartsLineOf text offset (byteLength whole) where
  reached := reached
  behindFeed := by
    cases ends with
    | inl empty =>
      rw [empty]
      exact .inl rfl
    | inr last =>
      obtain ⟨before, rfl⟩ := List.getLast?_eq_some_iff.mp last
      refine .inr ⟨before, rest, by simp [split], ?_⟩
      rw [byteLength_append]
      rfl
  noFeed := by
    rw [← lineOf_eq_iff, held, split, lineOf_byteLength]

end Begun

theorem locates_lineColumn {text : List Char} {offset : Nat} (within : offset ≤ byteLength text) :
    Locates text offset ((ofChars text).lineColumn offset) where
  line := by rw [line_lineColumn, lineOf_eq_feedsBelow]
  column := by
    by_cases boundary : IsBoundary text offset
    · obtain ⟨before, after, rfl, rfl⟩ := id boundary
      obtain ⟨whole, begun, rfl, ends, noFeed⟩ := exists_wholeLines_append before
      have reached : byteLength whole ≤ byteLength (whole ++ begun) := by
        rw [byteLength_append]
        omega
      have starts := startsLineOf_of_split ends (List.append_assoc _ _ _) reached
        (lineOf_begun whole noFeed after)
      refine ⟨byteLength whole, starts, fun _ => ?_, fun cuts => absurd boundary cuts⟩
      refine ⟨whole, begun, after, rfl, rfl, rfl, ?_⟩
      rw [lineColumn_begun ends noFeed]
    · obtain ⟨before, c, after, extra, rfl, rfl, positive, below⟩ :=
        exists_char_of_not_isBoundary within boundary
      obtain ⟨whole, begun, rfl, ends, noFeed⟩ := exists_wholeLines_append before
      have distance : byteLength (whole ++ begun) + extra = byteLength whole + (byteLength begun + extra) := by
        rw [byteLength_append, Nat.add_assoc]
      have starts := startsLineOf_of_split ends (List.append_assoc _ _ _) (by omega)
        (lineOf_inside whole noFeed positive below after)
      refine ⟨byteLength whole, starts, fun isBoundary => absurd isBoundary boundary, fun _ => ?_⟩
      rw [lineColumn_inside ends noFeed positive below, distance, Nat.add_sub_cancel_left]

end LineIndex

/-! ## The order of the places -/

/-- A place by its line and then by its column. -/
def LineColumn.inOrder (place : LineColumn) : Nat ×ₗ Nat :=
  toLex (place.line, place.column)

namespace LineIndex

/-- Between characters, places come in the order of their offsets. -/
theorem strictMonoOn_lineColumn (text : List Char) :
    StrictMonoOn (fun offset => ((ofChars text).lineColumn offset).inOrder) {offset | IsBoundary text offset} := by
  rintro _ ⟨before, after, rfl, rfl⟩ _ ⟨further, rest, same, rfl⟩ less
  obtain ⟨between, rfl, rfl⟩ := exists_append_of_byteLength_le same less.le
  obtain ⟨whole, begun, rfl, ends, noFeed⟩ := exists_wholeLines_append before
  have first := lineColumn_begun ends noFeed (between ++ rest)
  by_cases feed : '\n' ∈ between
  · -- the second place is on a later line
    have second := line_lineColumn (whole ++ begun ++ between ++ rest) (byteLength (whole ++ begun ++ between))
    rw [lineOf_byteLength, List.append_assoc _ between, List.count_append, List.count_append,
      List.count_eq_zero.mpr noFeed] at second
    have fed := List.count_pos_iff.mpr feed
    refine Prod.Lex.toLex_lt_toLex.mpr (.inl ?_)
    dsimp only
    rw [first, second]
    dsimp only
    omega
  · -- the second place is on the same line with more characters in front
    have noLater : '\n' ∉ begun ++ between := by simp [noFeed, feed]
    have second := lineColumn_begun ends noLater rest
    have longer : between ≠ [] := by
      rintro rfl
      simp at less
    have more := List.length_pos_iff.mpr longer
    rw [← List.append_assoc, List.append_assoc _ between] at second
    refine Prod.Lex.toLex_lt_toLex.mpr (.inr ?_)
    dsimp only
    rw [first, second, List.length_append]
    exact ⟨rfl, by dsimp only; omega⟩

/-- The look-up of a byte offset counts line feeds among the bytes in front, never leaves the bounds of what it
reads, and gives the line and the column that the offset has once it is moved back into the text. On offsets
between characters it keeps their order, and so does every span. -/
theorem offsets_located (text : List Char) :
    (∀ offset, (ofChars text).lineOf offset = feedsBelow text offset + 1 ∧
      (ofChars text).lineColumn? offset = some ((ofChars text).lineColumn offset) ∧
      ((ofChars text).lineColumn offset).line = (ofChars text).lineOf offset ∧
      Locates text (min offset (utf8Bytes text).length) ((ofChars text).lineColumn offset)) ∧
    StrictMonoOn (fun offset => ((ofChars text).lineColumn offset).inOrder) {offset | IsBoundary text offset} ∧
    Set.InjOn (ofChars text).lineColumn {offset | IsBoundary text offset} ∧
    ∀ start stop, IsBoundary text start → IsBoundary text stop → start ≤ stop →
      let span := Span.between (ofChars text) start stop
      toLex (span.startLine, span.startColumn) ≤ toLex (span.endLine, span.endColumn) := by
  have ordered := strictMonoOn_lineColumn text
  refine ⟨fun offset => ⟨lineOf_eq_feedsBelow text offset, lineColumn?_eq_some text offset,
    line_lineColumn text offset, ?_⟩, ordered, ?_, ?_⟩
  · have moved : (ofChars text).lineColumn offset =
        (ofChars text).lineColumn (min offset (byteLength text)) := by
      simp only [lineColumn, size_ofChars, Nat.min_assoc, Nat.min_self]
    rw [moved, length_utf8Bytes]
    exact locates_lineColumn (Nat.min_le_right _ _)
  · intro first isFirst second isSecond same
    exact ordered.injOn isFirst isSecond (congrArg LineColumn.inOrder same)
  · intro start stop isStart isStop forward
    exact ordered.monotoneOn isStart isStop forward

/-- The end of a character of two bytes has the place of its middle, so the middle is no place between
characters; a span from there into the next line goes forward. -/
theorem offsets_located_two_bytes :
    let index := ofChars ['é', '\n', 'b']
    index.lineColumn 1 = index.lineColumn 2 ∧ ¬ IsBoundary ['é', '\n', 'b'] 1 ∧
      index.lineOf 9 = 2 ∧ Locates ['é', '\n', 'b'] 4 (index.lineColumn 9) ∧
      toLex ((Span.between index 2 4).startLine, (Span.between index 2 4).startColumn) ≤
        toLex ((Span.between index 2 4).endLine, (Span.between index 2 4).endColumn) := by
  intro index
  obtain ⟨located, -, distinct, forward⟩ := offsets_located ['é', '\n', 'b']
  have atMiddle : IsBoundary ['é', '\n', 'b'] 2 := ⟨['é'], ['\n', 'b'], rfl, rfl⟩
  have atEnd : IsBoundary ['é', '\n', 'b'] 4 := ⟨['é', '\n', 'b'], [], rfl, rfl⟩
  have same : index.lineColumn 1 = index.lineColumn 2 := by decide +kernel
  refine ⟨same, fun isBoundary => ?_, (located 9).1, (located 9).2.2.2, forward 2 4 atMiddle atEnd (by decide)⟩
  exact absurd (distinct isBoundary atMiddle same) (by decide)

end LineIndex

end Text

end Lintel
