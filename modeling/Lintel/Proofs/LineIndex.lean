import Lintel.Proofs.Search
import Lintel.Text.LineIndex

/-!
# Look-ups of byte offsets

Every byte offset belongs to a line of its source, which starts at or before it. So nothing that the
look-up of an offset subtracts is too small for it, and no line that it asks for is missing. This holds of
offsets past the end of the source and of offsets inside a character too.
-/

set_option autoImplicit false

namespace Lintel

/-- The difference of two numbers, if it is not below zero. -/
def subtract? (whole part : Nat) : Option Nat :=
  if part ≤ whole then some (whole - part) else none

theorem subtract?_of_le {whole part : Nat} (fits : part ≤ whole) :
    subtract? whole part = some (whole - part) :=
  if_pos fits

namespace Text

/-! ## Line feeds and their offsets -/

theorem foldl_utf8Size (start : Nat) (text : List Char) :
    text.foldl (fun length c => length + c.utf8Size) start = start + byteLength text := by
  rw [byteLength]
  induction text generalizing start with
  | nil => rfl
  | cons c rest ih =>
    rw [List.foldl_cons, List.foldl_cons, ih (start + c.utf8Size), ih (0 + c.utf8Size)]
    omega

theorem byteLength_cons (c : Char) (rest : List Char) :
    byteLength (c :: rest) = c.utf8Size + byteLength rest := by
  rw [byteLength, List.foldl_cons, foldl_utf8Size, Nat.zero_add]

theorem byteLength_append (first second : List Char) :
    byteLength (first ++ second) = byteLength first + byteLength second := by
  rw [byteLength, List.foldl_append, foldl_utf8Size]
  rfl

/-- The byte offsets of the line feeds of a text whose first byte is at `start`. -/
def feedsFrom (start : Nat) : List Char → List Nat
  | [] => []
  | c :: rest =>
    if c = '\n' then start :: feedsFrom (start + 1) rest else feedsFrom (start + c.utf8Size) rest

theorem feedsFrom_append (start : Nat) (first second : List Char) :
    feedsFrom start (first ++ second) = feedsFrom start first ++ feedsFrom (start + byteLength first) second := by
  induction first generalizing start with
  | nil => rfl
  | cons c first ih =>
    simp only [List.cons_append, feedsFrom, byteLength_cons]
    split
    next isFeed =>
      have size : c.utf8Size = 1 := by
        rw [isFeed]
        rfl
      rw [ih, List.cons_append, size, Nat.add_assoc]
    next => rw [ih, Nat.add_assoc]

theorem length_feedsFrom (start : Nat) (text : List Char) :
    (feedsFrom start text).length = text.count '\n' := by
  induction text generalizing start with
  | nil => rfl
  | cons c rest ih =>
    rw [feedsFrom]
    split
    next isFeed => simp [isFeed, ih]
    next notFeed => rw [ih, List.count_cons_of_ne notFeed]

theorem mem_feedsFrom {start place : Nat} {text : List Char} :
    place ∈ feedsFrom start text ↔
      ∃ before after, text = before ++ '\n' :: after ∧ place = start + byteLength before := by
  constructor
  · intro member
    induction text generalizing start with
    | nil => cases member
    | cons c rest ih =>
      rw [feedsFrom] at member
      split at member
      next isFeed =>
        rcases List.mem_cons.mp member with rfl | later
        · exact ⟨[], rest, by rw [isFeed]; rfl, rfl⟩
        · obtain ⟨before, after, rfl, rfl⟩ := ih later
          refine ⟨c :: before, after, rfl, ?_⟩
          rw [byteLength_cons, isFeed, Nat.add_assoc]
          rfl
      next =>
        obtain ⟨before, after, rfl, rfl⟩ := ih member
        refine ⟨c :: before, after, rfl, ?_⟩
        rw [byteLength_cons, Nat.add_assoc]
  · rintro ⟨before, after, rfl, rfl⟩
    rw [feedsFrom_append]
    exact List.mem_append_right _ List.mem_cons_self

theorem bounds_of_mem_feedsFrom {start place : Nat} {text : List Char} (member : place ∈ feedsFrom start text) :
    start ≤ place ∧ place < start + byteLength text := by
  obtain ⟨before, after, rfl, rfl⟩ := mem_feedsFrom.mp member
  have size : 0 < '\n'.utf8Size := '\n'.utf8Size_pos
  rw [byteLength_append, byteLength_cons]
  omega

theorem ascending_feedsFrom (start : Nat) (text : List Char) : (feedsFrom start text).Pairwise (· < ·) := by
  induction text generalizing start with
  | nil => exact .nil
  | cons c rest ih =>
    rw [feedsFrom]
    split
    · exact List.pairwise_cons.mpr ⟨fun place later => (bounds_of_mem_feedsFrom later).1, ih _⟩
    · exact ih _

/-- Every line but the first starts behind a line feed. -/
theorem starts_linesFrom (start : Nat) (text : List Char) :
    (linesFrom start text).map Line.start = start :: (feedsFrom start text).map (· + 1) := by
  induction text generalizing start with
  | nil => rfl
  | cons c rest ih =>
    rw [linesFrom, feedsFrom]
    split
    · simp [ih]
    · have behind := ih (start + c.utf8Size)
      split
      next isNil => simp [isNil] at behind
      next line lines isCons =>
        rw [isCons, List.map_cons] at behind
        rw [List.map_cons, (List.cons.inj behind).2]

namespace LineIndex

/-- The lines of a text start behind one another, so a search for an offset has two sides. -/
theorem parted_linesFrom (text : List Char) (offset : Nat) :
    Parted (linesFrom 0 text) fun line => compare line.start offset := by
  have ascending : ((linesFrom 0 text).map Line.start).Pairwise (· < ·) := by
    rw [starts_linesFrom, List.pairwise_cons, List.pairwise_map]
    refine ⟨?_, (ascending_feedsFrom 0 text).imp Nat.succ_lt_succ⟩
    intro start member
    obtain ⟨place, _, rfl⟩ := List.mem_map.mp member
    exact Nat.succ_pos place
  refine (List.pairwise_map.mp ascending).imp ?_
  intro first second ordered
  rw [Nat.compare_eq_lt, Nat.compare_eq_gt]
  omega

/-- The line of an offset is one more than the number of line feeds in front of it. -/
theorem lineOf_eq (text : List Char) (offset : Nat) :
    (ofChars text).lineOf offset = (feedsFrom 0 text).countP (fun place => place < offset) + 1 := by
  have counted : (ofChars text).lineOf offset =
      ((linesFrom 0 text).map Line.start).countP fun start => start ≤ offset := by
    rw [List.countP_map]
    refine (count_search (parted_linesFrom text offset)).trans (List.countP_congr fun line _ => ?_)
    simp [Nat.compare_ne_gt]
  rw [counted, starts_linesFrom, List.countP_cons, List.countP_map, if_pos (by simp)]
  rfl

theorem one_le_lineOf (text : List Char) (offset : Nat) : 1 ≤ (ofChars text).lineOf offset := by
  rw [lineOf_eq]
  exact Nat.succ_pos _

/-- The line that holds an offset is there, and it does not start behind the offset. -/
theorem exists_line_lineOf (text : List Char) (offset : Nat) :
    ∃ line, (ofChars text).lines[(ofChars text).lineOf offset - 1]? = some line ∧ line.start ≤ offset := by
  have counted := one_le_lineOf text offset
  have settled := settles_search (parted_linesFrom text offset)
  rw [lineOf, ofChars] at counted ⊢
  dsimp only at counted ⊢
  generalize search (linesFrom 0 text) (fun line => compare line.start offset) = result at counted settled ⊢
  cases settled with
  | @found front behind line split isEqual _ _ =>
    refine ⟨line, ?_, Nat.le_of_eq (Nat.compare_eq_eq.mp isEqual)⟩
    simp [split]
  | @missing front behind split isFront _ =>
    have inside : front.length - 1 < front.length := by
      dsimp only at counted
      omega
    refine ⟨front[front.length - 1], ?_, ?_⟩
    · rw [split, List.getElem?_append_left inside, List.getElem?_eq_getElem inside]
    · exact Nat.le_of_lt (Nat.compare_eq_lt.mp (isFront _ (List.getElem_mem inside)))

/-- Line and column of a byte offset, if no subtraction on the way goes below zero and the line is
there. -/
def lineColumn? (index : LineIndex) (offset : Nat) : Option LineColumn := do
  let offset := min offset index.size
  let line := index.lineOf offset
  let place ← subtract? line 1
  let held ← index.lines[place]?
  let distance ← subtract? offset held.start
  return ⟨line, (charsInBytes held.chars distance).getD distance + 1⟩

theorem lineColumn?_eq_some (text : List Char) (offset : Nat) :
    (ofChars text).lineColumn? offset = some ((ofChars text).lineColumn offset) := by
  obtain ⟨line, held, reached⟩ := exists_line_lineOf text (min offset (ofChars text).size)
  have counted := one_le_lineOf text (min offset (ofChars text).size)
  simp only [lineColumn?, lineColumn, subtract?_of_le counted, held, subtract?_of_le reached,
    Option.bind_eq_bind, Option.bind_some, Option.pure_def]

end LineIndex

end Text

end Lintel
