import Lintel.Proofs.CommentScan

/-!
# Texts made of lexical pieces

A text that is put together from code, closed literals, comments and line breaks has exactly the comments
that were put into it. The layout of its lines follows from the pieces too: each character of the text is
marked as code or not, and a line holds code if one of its marks says so.

The scan goes line by line, and a literal may cross many lines. So the proof follows the pieces, not the
lines: it says of the scan at every place of the text what it makes of the rest, and steps back over one
piece after another.
-/

set_option autoImplicit false

namespace Lintel.Suppression

/-! ## Pieces -/

/-- A part of the body of a literal: a character, or a backslash with the character behind it. -/
inductive BodyItem where
  | plain (c : Char)
  | escaped (c : Char)
deriving Repr, DecidableEq

namespace BodyItem

def chars : BodyItem → List Char
  | plain c => [c]
  | escaped c => ['\\', c]

/-- The character, if there is no backslash in front of it. -/
def bare? : BodyItem → Option Char
  | plain c => some c
  | escaped _ => none

end BodyItem

def bodyChars (body : List BodyItem) : List Char :=
  body.flatMap BodyItem.chars

/-- What opens and closes a literal. -/
def OpenLiteral.delimiter (held : OpenLiteral) : List Char :=
  if held.isTriple then [held.quote, held.quote, held.quote] else [held.quote]

inductive Piece where
  | code (run : List Char)
  | literal (held : OpenLiteral) (body : List BodyItem)
  | comment (text : List Char)
  | lineBreak
deriving Repr, DecidableEq

/-- A character of a text, and whether it counts as code. -/
structure Mark where
  char : Char
  isCode : Bool
deriving Repr, DecidableEq

/-- Characters that all count as code, or all do not. -/
def Mark.all (isCode : Bool) (chars : List Char) : List Mark :=
  chars.map fun c => ⟨c, isCode⟩

/-- The characters of a piece. Code counts as code where it is not blank; every part of a literal does. -/
def Piece.marks : Piece → List Mark
  | code run => run.map fun c => ⟨c, !Text.isBlank c⟩
  | literal held body => Mark.all true (held.delimiter ++ bodyChars body ++ held.delimiter)
  | comment text => Mark.all false ('#' :: text)
  | lineBreak => Mark.all false ['\n']

def marksOf (pieces : List Piece) : List Mark :=
  pieces.flatMap Piece.marks

def textOf (pieces : List Piece) : List Char :=
  (marksOf pieces).map Mark.char

/-- A body that its literal encloses: a backslash in it has a character behind it. Between single quotes it has
no bare quote and no bare line break. Between triple quotes, the delimiter stands at none of its items. -/
def OpenLiteral.Encloses (held : OpenLiteral) (body : List BodyItem) : Prop :=
  (∀ item ∈ body, item.bare? ≠ some '\\') ∧
    if held.isTriple then
      ∀ place < body.length, ¬ held.delimiter <+: bodyChars (body.drop place) ++ held.delimiter
    else ∀ item ∈ body, item.bare? ≠ some held.quote ∧ item.bare? ≠ some '\n'

/-- A piece that is in its place in front of a text. An empty literal in single quotes is not followed by a
third quote, and a comment goes on to the end of its line. -/
def Piece.Fits (after : List Char) : Piece → Prop
  | code run => ∀ c ∈ run, c ≠ '"' ∧ c ≠ '\'' ∧ c ≠ '#' ∧ c ≠ '\n'
  | literal held body =>
    (held.quote = '"' ∨ held.quote = '\'') ∧ held.Encloses body ∧
      (held.isTriple = false → body = [] → after.head? ≠ some held.quote)
  | comment text => '\n' ∉ text ∧ ∀ c ∈ after.head?, c = '\n'
  | lineBreak => True

def WellFormed : List Piece → Prop
  | [] => True
  | piece :: pieces => piece.Fits (textOf pieces) ∧ WellFormed pieces

instance (held : OpenLiteral) (body : List BodyItem) : Decidable (held.Encloses body) := by
  delta OpenLiteral.Encloses
  infer_instance

instance (after : List Char) : (piece : Piece) → Decidable (piece.Fits after)
  | .code run => List.decidableBAll _ run
  | .literal held body => inferInstanceAs (Decidable ((held.quote = '"' ∨ held.quote = '\'') ∧ held.Encloses body ∧
      (held.isTriple = false → body = [] → after.head? ≠ some held.quote)))
  | .comment _ => @instDecidableAnd _ _ _ (Option.decidableForallMem _)
  | .lineBreak => .isTrue trivial

instance decidableWellFormed : (pieces : List Piece) → Decidable (WellFormed pieces)
  | [] => .isTrue trivial
  | piece :: pieces =>
    have := decidableWellFormed pieces
    inferInstanceAs (Decidable (piece.Fits (textOf pieces) ∧ WellFormed pieces))

/-! ## What the pieces say of the lines -/

/-- The lines of a marked text, each with the line break that ends it. -/
def markedLines : List Mark → List (List Mark)
  | [] => []
  | mark :: marks =>
    if mark.char = '\n' then [mark] :: markedLines marks
    else match markedLines marks with
      | [] => [[mark]]
      | line :: lines => (mark :: line) :: lines

/-- The layouts of lines, given whether the first begins inside a literal. A line holds code if one of its
characters counts as code, the line break at its end among them. The next line begins inside a literal if that
line break is part of one. -/
def layoutsOf (inLiteral : Bool) : List (List Mark) → List LineLayout
  | [] => []
  | line :: lines =>
    ⟨line.any Mark.isCode, indentOf (line.map Mark.char), inLiteral⟩ ::
      layoutsOf (line.getLast?.any Mark.isCode) lines

/-- The number of the line that a text has come to. -/
def lineNumber (before : List Mark) : Nat :=
  before.countP (fun mark => mark.char = '\n') + 1

/-- What stands on the line that a text has come to. -/
def lineSoFar (before : List Mark) : List Mark :=
  (before.reverse.takeWhile fun mark => mark.char ≠ '\n').reverse

/-- The comments among pieces that follow a text. -/
def commentsOf (before : List Mark) : List Piece → List Comment
  | [] => []
  | piece :: pieces =>
    (match piece with
      | .comment text => [⟨lineNumber before, text, (lineSoFar before).any Mark.isCode⟩]
      | _ => []) ++ commentsOf (before ++ piece.marks) pieces

section Marks

variable {before line marks : List Mark} {mark : Mark}

theorem lineSoFar_append (whole : ∀ mark ∈ line, mark.char ≠ '\n') :
    lineSoFar (before ++ line) = lineSoFar before ++ line := by
  rw [lineSoFar, List.reverse_append, List.takeWhile_append_of_pos, List.reverse_append, List.reverse_reverse]
  · rfl
  · simpa using whole

theorem lineSoFar_feed (isFeed : mark.char = '\n') : lineSoFar (before ++ [mark]) = [] := by
  simp [lineSoFar, isFeed]

theorem lineNumber_append (whole : ∀ mark ∈ line, mark.char ≠ '\n') :
    lineNumber (before ++ line) = lineNumber before := by
  have none : line.countP (fun mark => mark.char = '\n') = 0 := by simpa [List.countP_eq_zero] using whole
  rw [lineNumber, List.countP_append, none]
  rfl

theorem lineNumber_feed (isFeed : mark.char = '\n') : lineNumber (before ++ [mark]) = lineNumber before + 1 := by
  simp [lineNumber, isFeed]

theorem whole_lineSoFar (before : List Mark) : ∀ mark ∈ lineSoFar before, mark.char ≠ '\n' := by
  intro mark member
  have taken := List.all_eq_true.mp List.all_takeWhile mark (List.mem_reverse.mp member)
  simpa using taken

theorem markedLines_feed (whole : ∀ mark ∈ line, mark.char ≠ '\n') (isFeed : mark.char = '\n') :
    markedLines (line ++ mark :: marks) = (line ++ [mark]) :: markedLines marks := by
  induction line with
  | nil => simp [markedLines, isFeed]
  | cons first line ih =>
    have notFeed := whole first List.mem_cons_self
    rw [List.cons_append, markedLines, if_neg notFeed,
      ih fun other member => whole other (List.mem_cons_of_mem _ member)]
    rfl

theorem markedLines_last (whole : ∀ mark ∈ line, mark.char ≠ '\n') (nonempty : line ≠ []) :
    markedLines line = [line] := by
  induction line with
  | nil => exact absurd rfl nonempty
  | cons first line ih =>
    have notFeed := whole first List.mem_cons_self
    rw [markedLines, if_neg notFeed]
    cases line with
    | nil => rfl
    | cons second line =>
      rw [ih (fun other member => whole other (List.mem_cons_of_mem _ member)) (List.cons_ne_nil _ _)]

end Marks

/-! ## The scan from the middle of a line -/

/-- What the scan finds from a place in a line on: `head` stands in front of the place on its line, and
`rest` is the text behind it. -/
def scanRest (number : Nat) (inLiteral : Bool) (head : List Char) (literal : Option OpenLiteral) (hasCode : Bool)
    (rest : List Char) : List LineLayout × List Comment :=
  match splitLines rest with
  | [] => if head = [] then ([], []) else ([⟨hasCode, indentOf head, inLiteral⟩], [])
  | line :: lines =>
    let scan := scanLine literal hasCode line
    let behind := scanLines (number + 1) (carriedLiteral (head ++ line) scan.literal) lines
    (⟨scan.hasCode, indentOf (head ++ line), inLiteral⟩ :: behind.1,
      (scan.comment.map fun text => ⟨number, text, scan.hasCode⟩).toList ++ behind.2)

theorem scanLines_eq_scanRest (number : Nat) (literal : Option OpenLiteral) (text : List Char) :
    scanLines number literal (splitLines text) = scanRest number literal.isSome [] literal literal.isSome text := by
  unfold scanRest
  cases splitLines text with
  | nil => rfl
  | cons line lines => exact scanLines_cons number literal line lines

theorem dropReturn_append {chars : List Char} (noReturn : '\r' ∉ chars) (line : List Char) :
    dropReturn (chars ++ line) = chars ++ dropReturn line := by
  cases line with
  | nil => rw [List.append_nil, dropReturn_of_notMem noReturn, dropReturn_of_notMem List.not_mem_nil, List.append_nil]
  | cons c line =>
    have nonempty : c :: line ≠ [] := List.cons_ne_nil c line
    rw [dropReturn, dropReturn, List.getLast?_append_of_ne_nil _ nonempty, List.dropLast_append_of_ne_nil nonempty]
    split <;> rfl

theorem splitLines_append {chars : List Char} (nonempty : chars ≠ []) (whole : '\n' ∉ chars) (noReturn : '\r' ∉ chars)
    (rest : List Char) :
    splitLines (chars ++ rest) = match splitLines rest with
      | [] => [chars]
      | line :: lines => (chars ++ line) :: lines := by
  induction rest using byLines with
  | empty =>
    rw [List.append_nil, splitLines_last nonempty whole]
    rfl
  | last line isLine wholeLine =>
    rw [splitLines_last isLine wholeLine, splitLines_last (by simp [nonempty]) (by simp [whole, wholeLine])]
  | more line rest wholeLine =>
    rw [← List.append_assoc, splitLines_feed (by simp [whole, wholeLine]), splitLines_feed wholeLine,
      dropReturn_append noReturn]

theorem prefix_of_splitLines {text line : List Char} {lines : List (List Char)}
    (split : splitLines text = line :: lines) : line <+: text ∧ '\n' ∉ line := by
  induction text using byLines with
  | empty => cases split
  | last text nonempty whole =>
    rw [splitLines_last nonempty whole] at split
    cases split
    exact ⟨List.prefix_rfl, whole⟩
  | more first rest whole =>
    rw [splitLines_feed whole] at split
    cases split
    have isPrefix : dropReturn first <+: first := by
      rcases dropReturn_cases first with ⟨same, -⟩ | isReturn
      · exact ⟨[], (List.append_nil _).trans same⟩
      · exact ⟨['\r'], isReturn.symm⟩
    exact ⟨isPrefix.trans (List.prefix_append _ _), fun inside => whole (isPrefix.subset inside)⟩

section ScanRest

variable {number : Nat} {inLiteral : Bool} {head : List Char} {literal next : Option OpenLiteral}
variable {hasCode found : Bool} {rest : List Char}

/-- The scan goes over characters of one line as a step of the scan of that line does. -/
theorem scanRest_append {chars : List Char} (nonempty : chars ≠ []) (whole : '\n' ∉ chars) (noReturn : '\r' ∉ chars)
    (step : ∀ tail, tail <+: rest → '\n' ∉ tail →
      scanLine literal hasCode (chars ++ tail) = scanLine next found tail) :
    scanRest number inLiteral head literal hasCode (chars ++ rest) =
      scanRest number inLiteral (head ++ chars) next found rest := by
  unfold scanRest
  rw [splitLines_append nonempty whole noReturn]
  cases split : splitLines rest with
  | nil =>
    have stepped := step [] List.nil_prefix List.not_mem_nil
    rw [List.append_nil] at stepped
    simp [stepped, scanLine, nonempty, scanLines]
  | cons line lines =>
    obtain ⟨isPrefix, wholeLine⟩ := prefix_of_splitLines split
    simp only [step line isPrefix wholeLine, List.append_assoc]

theorem scanRest_feed (number : Nat) (inLiteral : Bool) (head : List Char) (literal : Option OpenLiteral)
    (hasCode : Bool) (rest : List Char) :
    scanRest number inLiteral head literal hasCode ('\n' :: rest) =
      let next := carriedLiteral head literal
      let behind := scanRest (number + 1) next.isSome [] next next.isSome rest
      (⟨hasCode, indentOf head, inLiteral⟩ :: behind.1, behind.2) := by
  have split : splitLines ('\n' :: rest) = [] :: splitLines rest := rfl
  rw [scanRest, split]
  simp only [scanLine, List.append_nil, scanLines_eq_scanRest]
  rfl

theorem scanRest_comment {text : List Char} (whole : '\n' ∉ text) (noReturn : '\r' ∉ text)
    (ends : ∀ c ∈ rest.head?, c = '\n') :
    scanRest number inLiteral head none hasCode ('#' :: text ++ rest) =
      let behind := scanRest number inLiteral (head ++ '#' :: text) none hasCode rest
      (behind.1, ⟨number, text, hasCode⟩ :: behind.2) := by
  have wholeComment : '\n' ∉ '#' :: text := by simp [whole]
  have commentNoReturn : '\r' ∉ '#' :: text := by simp [noReturn]
  cases rest with
  | nil =>
    rw [List.append_nil, scanRest, splitLines_last (List.cons_ne_nil _ _) wholeComment]
    simp [scanLine_comment, scanLines, scanRest, splitLines]
  | cons c rest =>
    cases ends c rfl
    rw [scanRest_feed, scanRest, splitLines_feed wholeComment, dropReturn_of_notMem commentNoReturn]
    simp only [scanLine_comment, scanLines_eq_scanRest]
    rfl

end ScanRest

/-! ## Stepping back over the pieces -/

theorem map_char_all (isCode : Bool) (chars : List Char) : (Mark.all isCode chars).map Mark.char = chars := by
  simp [Mark.all, Function.comp_def]

theorem mem_all {isCode : Bool} {chars : List Char} {mark : Mark} :
    mark ∈ Mark.all isCode chars ↔ mark.char ∈ chars ∧ mark.isCode = isCode := by
  obtain ⟨c, other⟩ := mark
  constructor
  · intro member
    obtain ⟨_, inside, same⟩ := List.mem_map.mp member
    cases same
    exact ⟨inside, rfl⟩
  · rintro ⟨inside, rfl⟩
    exact List.mem_map_of_mem inside

theorem ne_of_mem_all {isCode : Bool} {chars : List Char} {c : Char} (absent : c ∉ chars) :
    ∀ mark ∈ Mark.all isCode chars, mark.char ≠ c := by
  intro mark member same
  exact absent (same ▸ (mem_all.mp member).1)

theorem indentOf_feed (head : List Char) : indentOf (head ++ ['\n']) = indentOf head := by
  rw [indentOf, indentOf, List.takeWhile_append]
  split
  next isWhole => simp [isWhole]
  next => rfl

/-- Behind a text, the scan finds in the marks that follow the layouts that the marks tell and the given
comments. `literal` is open there, and the line that the text has come to begins inside a literal or not. -/
def Scans (inLiteral : Bool) (literal : Option OpenLiteral) (before marks : List Mark) (comments : List Comment) :
    Prop :=
  scanRest (lineNumber before) inLiteral ((lineSoFar before).map Mark.char) literal
      (literal.isSome || (lineSoFar before).any Mark.isCode) (marks.map Mark.char) =
    (layoutsOf inLiteral (markedLines (lineSoFar before ++ marks)), comments)

namespace Scans

variable {inLiteral : Bool} {literal next : Option OpenLiteral} {before marks : List Mark} {comments : List Comment}

theorem finish (inLiteral : Bool) (before : List Mark) : Scans inLiteral none before [] [] := by
  unfold Scans
  rw [List.map_nil, List.append_nil, scanRest]
  simp only [splitLines]
  by_cases isNil : lineSoFar before = []
  · simp [isNil, markedLines, layoutsOf]
  · rw [markedLines_last (whole_lineSoFar before) isNil]
    simp [isNil, layoutsOf]

/-- Characters of one line, over which the scan of the line takes one step. -/
theorem skip {passed : List Mark} (nonempty : passed ≠ []) (whole : ∀ mark ∈ passed, mark.char ≠ '\n')
    (noReturn : ∀ mark ∈ passed, mark.char ≠ '\r')
    (step : ∀ tail, tail <+: marks.map Mark.char → '\n' ∉ tail →
      scanLine literal (literal.isSome || (lineSoFar before).any Mark.isCode) (passed.map Mark.char ++ tail) =
        scanLine next (next.isSome || (lineSoFar before ++ passed).any Mark.isCode) tail)
    (later : Scans inLiteral next (before ++ passed) marks comments) :
    Scans inLiteral literal before (passed ++ marks) comments := by
  unfold Scans at later ⊢
  rw [lineNumber_append whole, lineSoFar_append whole, List.map_append, List.append_assoc] at later
  rw [List.map_append, scanRest_append (by simpa using nonempty) _ _ step, later]
  · simpa using whole
  · simpa using noReturn

/-- A line break, which is part of a literal if one is open there and goes on. -/
theorem feed {mark : Mark} (isFeed : mark.char = '\n') (isCode : mark.isCode = literal.isSome)
    (carried : carriedLiteral ((lineSoFar before).map Mark.char) literal = literal)
    (later : Scans mark.isCode literal (before ++ [mark]) marks comments) :
    Scans inLiteral literal before (mark :: marks) comments := by
  unfold Scans at later ⊢
  rw [lineNumber_feed isFeed, lineSoFar_feed isFeed] at later
  rw [markedLines_feed (whole_lineSoFar before) isFeed, List.map_cons, isFeed, scanRest_feed, carried]
  simp only [List.map_nil, List.any_nil, Bool.or_false, List.nil_append, isCode] at later
  simp [later, layoutsOf, isFeed, indentOf_feed, isCode, Bool.or_comm]

theorem comment {text : List Char} (whole : '\n' ∉ text) (noReturn : '\r' ∉ text)
    (ends : ∀ c ∈ (marks.map Mark.char).head?, c = '\n')
    (later : Scans inLiteral none (before ++ Mark.all false ('#' :: text)) marks comments) :
    Scans inLiteral none before (Mark.all false ('#' :: text) ++ marks)
      (⟨lineNumber before, text, (lineSoFar before).any Mark.isCode⟩ :: comments) := by
  have wholeMarks := @ne_of_mem_all false ('#' :: text) '\n' (by simp [whole])
  unfold Scans at later ⊢
  rw [lineNumber_append wholeMarks, lineSoFar_append wholeMarks, List.append_assoc, List.map_append, map_char_all]
    at later
  have uncoded : (Mark.all false ('#' :: text)).any Mark.isCode = false := by
    rw [List.any_eq_false]
    intro mark member
    simp [(mem_all.mp member).2]
  rw [List.any_append, uncoded, Bool.or_false] at later
  rw [List.map_append, map_char_all, scanRest_comment whole noReturn ends]
  simp only [Option.isSome_none, Bool.false_or] at later ⊢
  rw [later]

theorem code {run : List Char} (plain : ∀ c ∈ run, c ≠ '"' ∧ c ≠ '\'' ∧ c ≠ '#' ∧ c ≠ '\n')
    (noReturn : '\r' ∉ run)
    (later : Scans inLiteral none (before ++ (Piece.code run).marks) marks comments) :
    Scans inLiteral none before ((Piece.code run).marks ++ marks) comments := by
  induction run generalizing before with
  | nil => simpa [Piece.marks] using later
  | cons c run ih =>
    obtain ⟨notDouble, notSingle, notHash, notFeed⟩ := plain c List.mem_cons_self
    rw [List.mem_cons, not_or] at noReturn
    have notReturn : c ≠ '\r' := Ne.symm noReturn.1
    refine @skip _ none none _ _ _ [⟨c, !Text.isBlank c⟩] (List.cons_ne_nil _ _) (by simpa using notFeed)
      (by simpa using notReturn) ?_ (ih (fun other member => plain other (List.mem_cons_of_mem _ member)) noReturn.2 ?_)
    · intro tail _ _
      rw [List.map_singleton, List.singleton_append, scanLine_code _ notHash (by simp [notDouble, notSingle])]
      simp
    · simpa [Piece.marks] using later

end Scans

theorem ne_of_isQuote {c : Char} (isQuote : c = '"' ∨ c = '\'') : c ≠ '\\' ∧ c ≠ '\n' ∧ c ≠ '\r' := by
  rcases isQuote with rfl | rfl <;> decide

theorem carriedLiteral_backslash {held : OpenLiteral} (head : List Char) :
    carriedLiteral (head ++ ['\\']) (some held) = some held := by
  have isLast : (Text.trimEnd (head ++ ['\\'])).getLast? = some '\\' := by
    simp [Text.trimEnd, Text.isBlank]
  simp [carriedLiteral, isLast]

namespace OpenLiteral

variable {held : OpenLiteral} {item : BodyItem} {body : List BodyItem}

theorem Encloses.tail (encloses : held.Encloses (item :: body)) : held.Encloses body := by
  obtain ⟨noSlash, inner⟩ := encloses
  refine ⟨fun other member => noSlash other (List.mem_cons_of_mem _ member), ?_⟩
  split
  next triple =>
    rw [if_pos triple] at inner
    intro place inside
    exact inner (place + 1) (Nat.succ_lt_succ inside)
  next single =>
    rw [if_neg single] at inner
    exact fun other member => inner other (List.mem_cons_of_mem _ member)

/-- No second quote follows the single quote that opens a literal, unless it closes it and is the last. -/
theorem Encloses.notThree (encloses : held.Encloses body) (notSlash : held.quote ≠ '\\')
    (single : held.isTriple = false) {after : List Char} (emptyEnds : body = [] → after.head? ≠ some held.quote) :
    ¬ [held.quote, held.quote] <+: bodyChars body ++ held.delimiter ++ after := by
  obtain ⟨-, inner⟩ := encloses
  rw [single, if_neg Bool.false_ne_true] at inner
  intro two
  cases body with
  | nil =>
    have isDelimiter : held.delimiter = [held.quote] := by simp [delimiter, single]
    rw [bodyChars, List.flatMap_nil, isDelimiter, List.nil_append, List.singleton_append] at two
    obtain ⟨rest, isRest⟩ := (List.cons_prefix_cons.mp two).2
    exact emptyEnds rfl (by rw [← isRest]; rfl)
  | cons item body =>
    cases item with
    | plain c => exact (inner _ List.mem_cons_self).1 (congrArg some (List.cons_prefix_cons.mp two).1.symm)
    | escaped c => exact notSlash (List.cons_prefix_cons.mp two).1

theorem delimiter_ne_nil : held.delimiter ≠ [] := by
  unfold delimiter
  split <;> exact List.cons_ne_nil _ _

theorem notMem_delimiter {c : Char} (notQuote : held.quote ≠ c) : c ∉ held.delimiter := by
  unfold delimiter
  split <;> simp [Ne.symm notQuote]

theorem scanLine_close_delimiter (notSlash : held.quote ≠ '\\') (tail : List Char) :
    scanLine (some held) true (held.delimiter ++ tail) = scanLine none true tail := by
  unfold delimiter
  split
  next triple => exact scanLine_close_triple true notSlash triple
  next single => exact scanLine_close true notSlash (Bool.eq_false_iff.mpr single)

/-- A delimiter opens its literal, if a single one is not the first of three. -/
theorem scanLine_open_delimiter (isQuote : held.quote = '"' ∨ held.quote = '\'') (hasCode : Bool) {tail : List Char}
    (notThree : held.isTriple = false → ¬ [held.quote, held.quote] <+: tail) :
    scanLine none hasCode (held.delimiter ++ tail) = scanLine (some held) true tail := by
  obtain ⟨quote, isTriple⟩ := held
  cases isTriple with
  | true => exact scanLine_open_triple hasCode isQuote
  | false => exact scanLine_open hasCode isQuote (notThree rfl)

/-- A bare character of the body does not close the literal, whatever follows the literal. -/
theorem Encloses.notClosing {c : Char} (encloses : held.Encloses (.plain c :: body)) (isQuote : c = held.quote)
    (after : List Char) : held.isTriple = true ∧ ¬ [c, c] <+: bodyChars body ++ held.delimiter ++ after := by
  obtain ⟨-, inner⟩ := encloses
  split at inner
  next triple =>
    refine ⟨triple, fun two => inner 0 (Nat.zero_lt_succ _) ?_⟩
    have isDelimiter : held.delimiter = [held.quote, held.quote, held.quote] := by simp [delimiter, triple]
    have within : [c, c] <+: bodyChars body ++ held.delimiter := by
      refine List.prefix_of_prefix_length_le two (List.prefix_append _ _) ?_
      rw [isDelimiter]
      simp
    obtain ⟨rest, isRest⟩ := within
    refine ⟨rest, ?_⟩
    rw [List.drop_zero, bodyChars, List.flatMap_cons, List.append_assoc, ← bodyChars, ← isRest, isDelimiter,
      ← isQuote]
    rfl
  next single =>
    exact absurd (congrArg some isQuote) (inner _ List.mem_cons_self).1

theorem Encloses.triple_of_feed (encloses : held.Encloses (.plain '\n' :: body)) : held.isTriple = true := by
  obtain ⟨-, inner⟩ := encloses
  by_contra single
  rw [if_neg single] at inner
  exact (inner _ List.mem_cons_self).2 rfl

end OpenLiteral

namespace Scans

variable {inLiteral : Bool} {before marks : List Mark} {comments : List Comment} {held : OpenLiteral}

/-- A part of a literal that stays on its line. -/
theorem part {literal next : Option OpenLiteral} {chars : List Char} (nonempty : chars ≠ []) (whole : '\n' ∉ chars)
    (noReturn : '\r' ∉ chars)
    (step : ∀ tail, tail <+: marks.map Mark.char → '\n' ∉ tail →
      scanLine literal (literal.isSome || (lineSoFar before).any Mark.isCode) (chars ++ tail) = scanLine next true tail)
    (later : Scans inLiteral next (before ++ Mark.all true chars) marks comments) :
    Scans inLiteral literal before (Mark.all true chars ++ marks) comments := by
  have isCode : (Mark.all true chars).any Mark.isCode = true := by
    obtain ⟨c, isFirst⟩ := List.exists_mem_of_ne_nil chars nonempty
    exact List.any_eq_true.mpr ⟨⟨c, true⟩, mem_all.mpr ⟨isFirst, rfl⟩, rfl⟩
  refine skip (by simpa [Mark.all] using nonempty) (ne_of_mem_all whole) (ne_of_mem_all noReturn) ?_ later
  rw [map_char_all, List.any_append, isCode, Bool.or_true, Bool.or_true]
  exact step

/-- A line break inside a literal. -/
theorem feedInside (carried : carriedLiteral ((lineSoFar before).map Mark.char) (some held) = some held)
    (later : ∀ inLiteral, Scans inLiteral (some held) (before ++ Mark.all true ['\n']) marks comments) :
    Scans inLiteral (some held) before (Mark.all true ['\n'] ++ marks) comments :=
  feed rfl rfl carried (later true)

/-- A backslash at the end of a line. It keeps any literal open on the next one. -/
theorem escapedFeed
    (later : ∀ inLiteral, Scans inLiteral (some held) (before ++ Mark.all true ['\\', '\n']) marks comments) :
    Scans inLiteral (some held) before (Mark.all true ['\\', '\n'] ++ marks) comments := by
  have parts : Mark.all true ['\\', '\n'] = Mark.all true ['\\'] ++ Mark.all true ['\n'] := rfl
  simp only [parts, ← List.append_assoc] at later
  rw [parts, List.append_assoc]
  refine part (List.cons_ne_nil _ _) (by decide) (by decide) ?_ (feedInside ?_ later)
  · intro tail isPrefix whole
    have isNil : tail = [] := by
      cases tail with
      | nil => rfl
      | cons c tail =>
        cases (List.cons_prefix_cons.mp isPrefix).1
        exact absurd List.mem_cons_self whole
    rw [isNil]
    rfl
  · rw [lineSoFar_append (by simp [Mark.all]), List.map_append]
    exact carriedLiteral_backslash _

theorem body {body : List BodyItem} (isQuote : held.quote = '"' ∨ held.quote = '\'') (encloses : held.Encloses body)
    (noReturn : '\r' ∉ bodyChars body)
    (later : ∀ inLiteral,
      Scans inLiteral none (before ++ Mark.all true (bodyChars body ++ held.delimiter)) marks comments) :
    Scans inLiteral (some held) before (Mark.all true (bodyChars body ++ held.delimiter) ++ marks) comments := by
  obtain ⟨notSlash, notFeed, notReturn⟩ := ne_of_isQuote isQuote
  induction body generalizing before inLiteral with
  | nil =>
    refine part OpenLiteral.delimiter_ne_nil (OpenLiteral.notMem_delimiter notFeed)
      (OpenLiteral.notMem_delimiter notReturn) ?_ (later inLiteral)
    intro tail _ _
    exact OpenLiteral.scanLine_close_delimiter notSlash tail
  | cons item body ih =>
    have split : Mark.all true (bodyChars (item :: body) ++ held.delimiter) =
        Mark.all true item.chars ++ Mark.all true (bodyChars body ++ held.delimiter) := by
      simp [Mark.all, bodyChars]
    rw [bodyChars, List.flatMap_cons, List.mem_append, not_or] at noReturn
    rw [split, List.append_assoc]
    simp only [split, ← List.append_assoc] at later
    have behind := fun inLiteral => @ih inLiteral (before ++ Mark.all true item.chars) encloses.tail noReturn.2 later
    cases item with
    | plain c =>
      by_cases isFeed : c = '\n'
      · subst isFeed
        refine feedInside ?_ behind
        simp [carriedLiteral, encloses.triple_of_feed]
      · refine part (List.cons_ne_nil _ _) (by simpa [BodyItem.chars, eq_comm] using isFeed) noReturn.1 ?_
          (behind inLiteral)
        intro tail isPrefix _
        have notEscape : c ≠ '\\' := fun same => encloses.1 _ List.mem_cons_self (congrArg some same)
        refine scanLine_inside true notEscape fun isClosing => ?_
        have notClosing := encloses.notClosing isClosing (marks.map Mark.char)
        refine ⟨notClosing.1, fun two => notClosing.2 (two.trans ?_)⟩
        rw [List.map_append, map_char_all] at isPrefix
        exact isPrefix
    | escaped c =>
      by_cases isFeed : c = '\n'
      · subst isFeed
        exact escapedFeed behind
      · refine part (List.cons_ne_nil _ _) (by simpa [BodyItem.chars, eq_comm] using isFeed) noReturn.1 ?_
          (behind inLiteral)
        intro tail _ _
        exact scanLine_escape true

theorem literal {body : List BodyItem} (fits : (Piece.literal held body).Fits (marks.map Mark.char))
    (noReturn : '\r' ∉ bodyChars body)
    (later : ∀ inLiteral, Scans inLiteral none (before ++ (Piece.literal held body).marks) marks comments) :
    Scans inLiteral none before ((Piece.literal held body).marks ++ marks) comments := by
  obtain ⟨isQuote, encloses, emptyEnds⟩ := fits
  obtain ⟨notSlash, notFeed, notReturn⟩ := ne_of_isQuote isQuote
  have split : (Piece.literal held body).marks =
      Mark.all true held.delimiter ++ Mark.all true (bodyChars body ++ held.delimiter) := by
    simp [Piece.marks, Mark.all]
  simp only [split, ← List.append_assoc] at later
  rw [split, List.append_assoc]
  refine part OpenLiteral.delimiter_ne_nil (OpenLiteral.notMem_delimiter notFeed)
    (OpenLiteral.notMem_delimiter notReturn) ?_ (Scans.body isQuote encloses noReturn later)
  intro tail isPrefix _
  refine OpenLiteral.scanLine_open_delimiter isQuote _ fun single two => ?_
  rw [List.map_append, map_char_all] at isPrefix
  exact encloses.notThree notSlash single (emptyEnds single) (two.trans isPrefix)

end Scans

/-- Well-formed pieces are scanned as they are read, whatever stands in front of them. -/
theorem scans_pieces {pieces : List Piece} (wellFormed : WellFormed pieces) (noReturn : '\r' ∉ textOf pieces)
    (before : List Mark) (inLiteral : Bool) :
    Scans inLiteral none before (marksOf pieces) (commentsOf before pieces) := by
  induction pieces generalizing before inLiteral with
  | nil => exact Scans.finish inLiteral before
  | cons piece pieces ih =>
    obtain ⟨fits, wellFormed⟩ := wellFormed
    have split : marksOf (piece :: pieces) = piece.marks ++ marksOf pieces := List.flatMap_cons
    rw [textOf, split, List.map_append, List.mem_append, not_or] at noReturn
    have later := ih wellFormed noReturn.2 (before ++ piece.marks)
    rw [split]
    cases piece with
    | code run =>
      have isRun : ((Piece.code run).marks).map Mark.char = run := by simp [Piece.marks, Function.comp_def]
      exact Scans.code fits (isRun ▸ noReturn.1) (later inLiteral)
    | literal held body =>
      rw [Piece.marks, map_char_all, List.mem_append, List.mem_append] at noReturn
      exact Scans.literal fits (fun inside => noReturn.1 (.inl (.inr inside))) later
    | comment text =>
      rw [Piece.marks, map_char_all] at noReturn
      exact Scans.comment fits.1 (fun inside => noReturn.1 (List.mem_cons_of_mem _ inside)) fits.2 (later inLiteral)
    | lineBreak => exact Scans.feed rfl rfl rfl (later false)

/-- In a text of well-formed pieces the scan finds the comments that are among them, each with its line and
whether code or a part of a literal stands in front of it there. Of each line it tells whether it holds code
or a part of a literal, how far it is indented, and whether it begins inside a literal. -/
theorem scanComments_of_pieces {pieces : List Piece} (wellFormed : WellFormed pieces)
    (noReturn : '\r' ∉ textOf pieces) :
    scanComments (textOf pieces) = (layoutsOf false (markedLines (marksOf pieces)), commentsOf [] pieces) := by
  have scanned := scans_pieces wellFormed noReturn [] false
  rw [scanComments, scanLines_eq_scanRest]
  exact scanned

/-- A `#` in a literal of two lines, one behind a backslash at the end of a line, and a comment. -/
theorem scanComments_of_pieces_literals :
    let pieces : List Piece := [.code "x = ".toList, .literal ⟨'"', true⟩ [.plain '#', .plain '\n', .escaped '"'],
      .code [' '], .comment " done".toList, .lineBreak, .literal ⟨'\'', false⟩ [.escaped '\n', .plain '#'], .lineBreak]
    textOf pieces = "x = \"\"\"#\n\\\"\"\"\" # done\n'\\\n#'\n".toList ∧
      scanComments (textOf pieces) =
        ([⟨true, 0, false⟩, ⟨true, 0, true⟩, ⟨true, 0, false⟩, ⟨true, 0, true⟩], [⟨2, " done".toList, true⟩]) := by
  intro pieces
  have isText : textOf pieces = "x = \"\"\"#\n\\\"\"\"\" # done\n'\\\n#'\n".toList := by decide +kernel
  have wellFormed : WellFormed pieces := by decide +kernel
  have noReturn : '\r' ∉ textOf pieces := by decide +kernel
  obtain ⟨layouts, comments⟩ : layoutsOf false (markedLines (marksOf pieces)) =
      [⟨true, 0, false⟩, ⟨true, 0, true⟩, ⟨true, 0, false⟩, ⟨true, 0, true⟩] ∧
      commentsOf [] pieces = [⟨2, " done".toList, true⟩] := by decide +kernel
  refine ⟨isText, ?_⟩
  rw [scanComments_of_pieces wellFormed noReturn, layouts, comments]

end Lintel.Suppression
