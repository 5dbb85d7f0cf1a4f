import Lintel.Yaml.Cursor

/-!
# YAML scalars

Reading of the texts that scalars stand for: plain, in quotes, and as blocks. A line break inside a
scalar that is not a literal block is folded: it stands for a blank, or for the empty lines that follow.

Loops are bounded by `fuel`, for which the length of the text is always enough.
-/

set_option autoImplicit false

namespace Lintel.Yaml

/-- How a scalar is written. -/
inductive ScalarStyle where
  | plain
  | singleQuoted
  | doubleQuoted
  | literal
  | folded
deriving Repr, DecidableEq

/-- A scalar that was read. -/
structure ScalarText where
  text : List Char
  after : Cursor

/-- What stands between two pieces of a scalar: blanks on one line, or the first line break and those
after it. -/
structure Gap where
  spaces : List Char := []
  brokeLine : Bool := false
  firstBreak : List Char := []
  moreBreaks : List Char := []

/-- The text that a gap stands for. -/
def Gap.text (gap : Gap) : List Char :=
  if gap.brokeLine then
    if gap.firstBreak = ['\n'] then
      if gap.moreBreaks.isEmpty then [' '] else gap.moreBreaks
    else gap.firstBreak ++ gap.moreBreaks
  else gap.spaces

/-- Reads blanks and line breaks into a gap. A tab on a later line is refused before column `indent`. -/
def readGap (indent : Int) : Nat → Cursor → Gap → Option (Cursor × Gap)
  | 0, _, _ => none
  | fuel + 1, cursor, gap =>
    match cursor.rest with
    | [] => some (cursor, gap)
    | c :: _ =>
      if isSpace c then
        if gap.brokeLine && (cursor.column : Int) < indent && c == '\t' then none
        else if gap.brokeLine then readGap indent fuel (cursor.advance 1) gap
        else readGap indent fuel (cursor.advance 1) { gap with spaces := gap.spaces ++ [c] }
      else if isBreak c then
        if gap.brokeLine then
          readGap indent fuel cursor.advanceLine
            { gap with moreBreaks := gap.moreBreaks ++ cursor.breakText }
        else
          readGap indent fuel cursor.advanceLine
            { gap with spaces := [], brokeLine := true, firstBreak := cursor.breakText }
      else some (cursor, gap)

/-- The character of a one-letter escape. -/
def escapeChar? (c : Char) : Option Char :=
  match c with
  | '0' => some '\x00'
  | 'a' => some '\x07'
  | 'b' => some '\x08'
  | 't' => some '\t'
  | '\t' => some '\t'
  | 'n' => some '\n'
  | 'v' => some '\x0b'
  | 'f' => some '\x0c'
  | 'r' => some '\r'
  | 'e' => some '\x1b'
  | ' ' => some ' '
  | '"' => some '"'
  | '/' => some '/'
  | '\\' => some '\\'
  | 'N' => some '\x85'
  | '_' => some '\xa0'
  | 'L' => some '\u2028'
  | 'P' => some '\u2029'
  | _ => none

/-- The number of digits of a numeric escape. -/
def escapeLength? (c : Char) : Option Nat :=
  match c with
  | 'x' => some 2
  | 'u' => some 4
  | 'U' => some 8
  | _ => none

/-- The value of a hexadecimal digit of either case. -/
def hexValue? (c : Char) : Option Nat :=
  if '0' ≤ c ∧ c ≤ '9' then some (c.toNat - 48)
  else if 'a' ≤ c ∧ c ≤ 'f' then some (c.toNat - 87)
  else if 'A' ≤ c ∧ c ≤ 'F' then some (c.toNat - 55)
  else none

/-- The number that hexadecimal digits stand for. -/
def hexNumber? (digits : List Char) : Option Nat :=
  digits.foldlM (fun value digit => do return value * 16 + (← hexValue? digit)) 0

/-- Reads an escape behind its backslash: the character and the number of characters read. -/
def readEscape (text : List Char) : Option (Char × Nat) :=
  match text with
  | [] => none
  | c :: rest =>
    match escapeLength? c with
    | none => (escapeChar? c).map fun escaped => (escaped, 1)
    | some count => do
      if rest.length < count then none
      else
        let code ← hexNumber? (rest.take count)
        if (0xD800 ≤ code ∧ code ≤ 0xDFFF) ∨ 0x10FFFF < code then none
        else some (Char.ofNat code, count + 1)

/-- How a piece of a quoted scalar ends. -/
inductive PieceEnd where
  | quote
  | gap
  | escapedBreak
deriving Repr, DecidableEq

/-- Reads the characters of a quoted scalar up to a quote, a blank or a line break. -/
def readQuotedPiece (single : Bool) : Nat → Cursor → Option (List Char × Cursor × PieceEnd)
  | 0, _ => none
  | fuel + 1, cursor =>
    match cursor.rest with
    | [] => some ([], cursor, .gap)
    | c :: rest =>
      if isSpace c || isBreak c then some ([], cursor, .gap)
      else if single && c == '\'' then
        match rest with
        | '\'' :: _ => do
          let (piece, after, ending) ← readQuotedPiece single fuel (cursor.advance 2)
          some ('\'' :: piece, after, ending)
        | _ => some ([], cursor, .quote)
      else if !single && c == '"' then some ([], cursor, .quote)
      else if !single && c == '\\' then
        match rest with
        | next :: _ =>
          if isBreak next then some ([], (cursor.advance 1).advanceLine, .escapedBreak)
          else do
            let (escaped, count) ← readEscape rest
            let (piece, after, ending) ← readQuotedPiece single fuel (cursor.advance (count + 1))
            some (escaped :: piece, after, ending)
        | [] => none
      else do
        let (piece, after, ending) ← readQuotedPiece single fuel (cursor.advance 1)
        some (c :: piece, after, ending)

/-- Reads the pieces of a quoted scalar and the gaps between them, up to the closing quote. -/
def readQuotedPieces (single : Bool) : Nat → Cursor → Option ScalarText
  | 0, _ => none
  | fuel + 1, cursor =>
    if cursor.isAtDocumentMark || cursor.rest.isEmpty then none
    else do
      let (piece, after, ending) ← readQuotedPiece single (cursor.rest.length + 1) cursor
      if ending = .quote then some ⟨piece, after.advance 1⟩
      else if after.isAt (if single then '\'' else '"') then some ⟨piece, after.advance 1⟩
      else
        let (after, gap) ← readGap 0 (after.rest.length + 1) after
          { brokeLine := decide (ending = .escapedBreak) }
        let more ← readQuotedPieces single fuel after
        some ⟨piece ++ gap.text ++ more.text, more.after⟩

/-- Reads a scalar in quotes, the opening one included. -/
def readQuoted (single : Bool) (cursor : Cursor) : Option ScalarText :=
  readQuotedPieces single (cursor.rest.length + 1) (cursor.advance 1)

/-- A character that ends a plain scalar inside brackets. -/
def isFlowIndicator (c : Char) : Bool :=
  c == ',' || c == '[' || c == ']' || c == '{' || c == '}'

/-- Reads the characters of a plain scalar up to a gap or an indicator. -/
def readPlainPiece (inFlow : Bool) : Nat → Cursor → Option (List Char × Cursor)
  | 0, _ => none
  | fuel + 1, cursor =>
    match cursor.rest with
    | [] => some ([], cursor)
    | c :: rest =>
      if isSpace c || isBreak c then some ([], cursor)
      else if inFlow && c == ':' && (rest.head?.map fun d => isFlowIndicator d || d == '?').getD false then
        none
      else if (c == ':' && atGap rest) || (inFlow && isFlowIndicator c) then some ([], cursor)
      else do
        let (piece, after) ← readPlainPiece inFlow fuel (cursor.advance 1)
        some (c :: piece, after)

/-- A plain scalar that was read, and whether a line break followed it. -/
structure PlainText where
  text : List Char
  after : Cursor
  brokeLine : Bool

/-- Reads the pieces of a plain scalar. A gap in front of a piece belongs to the text only if the piece
is not empty. -/
def readPlainPieces (inFlow : Bool) (indent : Int) : Nat → Cursor → Gap → Option PlainText
  | 0, _, _ => none
  | fuel + 1, cursor, before =>
    if cursor.isAtDocumentMark || cursor.isAt '#' then some ⟨[], cursor, before.brokeLine⟩
    else do
      let (piece, after) ← readPlainPiece inFlow (cursor.rest.length + 1) cursor
      let text := if piece.isEmpty then [] else before.text ++ piece
      let carried := if piece.isEmpty then before else {}
      if atSpaceOrBreak after.rest then
        let (after, gap) ← readGap indent (after.rest.length + 1) after carried
        if !inFlow && (after.column : Int) < indent then some ⟨text, after, gap.brokeLine⟩
        else
          let more ← readPlainPieces inFlow indent fuel after gap
          some ⟨text ++ more.text, more.after, more.brokeLine⟩
      else some ⟨text, after, carried.brokeLine⟩

/-- Reads a plain scalar whose later lines have to be indented by `indent`. -/
def readPlain (inFlow : Bool) (indent : Int) (cursor : Cursor) : Option PlainText :=
  readPlainPieces inFlow indent (cursor.rest.length + 1) cursor {}

/-- What happens to the line breaks at the end of a block scalar. -/
inductive Chomping where
  | strip
  | clip
  | keep
deriving Repr, DecidableEq

/-- Reads the chomping mark of a block scalar. -/
def readChomping (cursor : Cursor) : Option (Chomping × Cursor) :=
  match cursor.next? with
  | some '+' => some (.keep, cursor.advance 1)
  | some '-' => some (.strip, cursor.advance 1)
  | _ => none

/-- Reads the indentation mark of a block scalar. A zero is refused. -/
def readIncrement (cursor : Cursor) : Option (Option Nat × Cursor) :=
  match cursor.next? with
  | some c =>
    if c == '0' then none
    else if c.isDigit then some (some (c.toNat - 48), cursor.advance 1)
    else some (none, cursor)
  | none => some (none, cursor)

/-- Reads the two marks of a block scalar, in either order. -/
def readBlockHeader (cursor : Cursor) : Option (Chomping × Option Nat × Cursor) :=
  match readChomping cursor with
  | some (chomping, cursor) => do
    let (increment, cursor) ← readIncrement cursor
    some (chomping, increment, cursor)
  | none => do
    let (increment, cursor) ← readIncrement cursor
    match increment, readChomping cursor with
    | some _, some (chomping, cursor) => some (chomping, increment, cursor)
    | _, _ => some (.clip, increment, cursor)

/-- Reads indentation and empty lines. Gives the line breaks and the largest indentation seen. While the
indentation of the scalar is not known, all blanks are indentation. -/
def readBlockBreaks (indent : Option Nat) : Nat → Cursor → Nat → Option (List Char × Nat × Cursor)
  | 0, _, _ => none
  | fuel + 1, cursor, widest =>
    let blanks := (cursor.rest.takeWhile fun c => c == ' ').length
    let count := match indent with
      | some wanted => min blanks (wanted - cursor.column)
      | none => blanks
    let cursor := cursor.advance count
    let widest := max widest cursor.column
    let inIndent := match indent with
      | some wanted => decide (cursor.column < wanted)
      | none => true
    if inIndent && cursor.isAt '\t' then none
    else match cursor.rest with
      | c :: _ =>
        if isBreak c then do
          let (breaks, widest, after) ← readBlockBreaks indent fuel cursor.advanceLine widest
          some (cursor.breakText ++ breaks, widest, after)
        else some ([], widest, cursor)
      | [] => some ([], widest, cursor)

/-- Reads the lines of a block scalar. `pending` is the line break behind the last line, `breaks` are the
empty lines behind it, and `wasBlank` says whether the last line started with a blank. -/
def readBlockLines (isLiteral : Bool) (chomping : Chomping) (indent : Nat) :
    Nat → Cursor → List Char → List Char → Bool → Option ScalarText
  | 0, _, _, _, _ => none
  | fuel + 1, cursor, pending, breaks, wasBlank =>
    if cursor.column = indent && !cursor.rest.isEmpty then do
      let isBlank := (cursor.next?.map isSpace).getD false
      let joint :=
        if !isLiteral && pending = ['\n'] && !wasBlank && !isBlank then
          if breaks.isEmpty then [' '] else breaks
        else pending ++ breaks
      let line := cursor.rest.takeWhile fun c => !isBreak c
      let atEnd := cursor.advance line.length
      let lineBreak := atEnd.breakText
      let start := if atEnd.rest.isEmpty then atEnd else atEnd.advanceLine
      let (breaks, _, after) ← readBlockBreaks (some indent) (start.rest.length + 1) start 0
      let more ← readBlockLines isLiteral chomping indent fuel after lineBreak breaks isBlank
      some ⟨joint ++ line ++ more.text, more.after⟩
    else
      let tail := match chomping with
        | .strip => []
        | .clip => pending
        | .keep => pending ++ breaks
      some ⟨tail, cursor⟩

/-- Reads a block scalar behind its indicator. `parent` is the indentation around it. -/
def readBlock (isLiteral : Bool) (parent : Int) (cursor : Cursor) : Option ScalarText := do
  let (chomping, increment, cursor) ← readBlockHeader cursor
  let cursor := cursor.skipSpaces.skipComment
  if !atLineEnd cursor.rest then none
  else
    let cursor := if cursor.rest.isEmpty then cursor else cursor.advanceLine
    let fixed := increment.map fun count => if 0 ≤ parent then parent.toNat + count else count
    let (breaks, widest, cursor) ← readBlockBreaks fixed (cursor.rest.length + 1) cursor 0
    let indent := fixed.getD (max (max widest (parent + 1).toNat) 1)
    readBlockLines isLiteral chomping indent (cursor.rest.length + 1) cursor [] breaks false

end Lintel.Yaml
