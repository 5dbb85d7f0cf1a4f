/-!
# Places in a YAML text

Character classes of the format, and a cursor that knows its line and column. Lines also end at the
line separators of Unicode, and columns count characters.
-/

set_option autoImplicit false

namespace Lintel.Yaml

/-- A character that ends a line. -/
def isBreak (c : Char) : Bool :=
  c == '\n' || c == '\r' || c == '\x85' || c == '\u2028' || c == '\u2029'

/-- A blank or a tab. -/
def isSpace (c : Char) : Bool :=
  c == ' ' || c == '\t'

/-- A character of a name. -/
def isNameChar (c : Char) : Bool :=
  c.isAlphanum || c == '_' || c == '-'

/-- A character that may occur in a text. -/
def isAllowed (c : Char) : Bool :=
  let code := c.toNat
  code == 9 || code == 10 || code == 13 || (0x20 ≤ code && code ≤ 0x7E) || code == 0x85
    || (0xA0 ≤ code && code ≤ 0xFFFD) || 0x10000 ≤ code

/-- Whether a text is at an end of line or at its end. -/
def atLineEnd (text : List Char) : Bool :=
  match text with
  | [] => true
  | c :: _ => isBreak c

/-- Whether a text is at a blank, at an end of line or at its end. -/
def atGap (text : List Char) : Bool :=
  match text with
  | [] => true
  | c :: _ => isSpace c || isBreak c

/-- Whether a text is at a blank or at an end of line. -/
def atSpaceOrBreak (text : List Char) : Bool :=
  match text with
  | [] => false
  | c :: _ => isSpace c || isBreak c

/-- A place in a text: what is left of it, and how far it is from the start. -/
structure Cursor where
  rest : List Char
  index : Nat
  line : Nat
  column : Nat
deriving Repr

namespace Cursor

def start (text : List Char) : Cursor := ⟨text, 0, 0, 0⟩

def next? (cursor : Cursor) : Option Char := cursor.rest.head?

def isAt (cursor : Cursor) (c : Char) : Bool := cursor.rest.head? = some c

/-- Steps over characters of a line. -/
def advance (cursor : Cursor) (count : Nat) : Cursor :=
  ⟨cursor.rest.drop count, cursor.index + count, cursor.line, cursor.column + count⟩

/-- Steps over an end of line. -/
def advanceLine (cursor : Cursor) : Cursor :=
  match cursor.rest with
  | '\r' :: '\n' :: rest => ⟨rest, cursor.index + 2, cursor.line + 1, 0⟩
  | _ :: rest => ⟨rest, cursor.index + 1, cursor.line + 1, 0⟩
  | [] => cursor

/-- Steps over characters with some property. -/
def advanceWhile (cursor : Cursor) (wanted : Char → Bool) : Cursor :=
  cursor.advance (cursor.rest.takeWhile wanted).length

/-- Steps over blanks and tabs. -/
def skipSpaces (cursor : Cursor) : Cursor := cursor.advanceWhile isSpace

/-- Steps over everything up to the end of the line. -/
def skipToLineEnd (cursor : Cursor) : Cursor := cursor.advanceWhile fun c => !isBreak c

/-- Steps over a comment, if there is one. -/
def skipComment (cursor : Cursor) : Cursor :=
  if cursor.isAt '#' then cursor.skipToLineEnd else cursor

/-- The text that an end of line stands for: a line feed, unless it is a separator of Unicode. -/
def breakText (cursor : Cursor) : List Char :=
  match cursor.rest with
  | '\u2028' :: _ => ['\u2028']
  | '\u2029' :: _ => ['\u2029']
  | c :: _ => if isBreak c then ['\n'] else []
  | [] => []

/-- Whether a mark of three equal characters stands alone at the start of the line. -/
def isAtMark (cursor : Cursor) (c : Char) : Bool :=
  cursor.column = 0 && cursor.rest.take 3 = [c, c, c] && atGap (cursor.rest.drop 3)

/-- Whether a document starts or ends here. -/
def isAtDocumentMark (cursor : Cursor) : Bool :=
  cursor.isAtMark '-' || cursor.isAtMark '.'

end Cursor

end Lintel.Yaml
