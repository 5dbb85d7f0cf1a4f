import Lintel.Python.Ast
import Lintel.Python.Token
import Lintel.Text.Blank
import Lintel.Text.CharacterName

/-!
# The contents of string literals

Escapes, and the replacement fields of formatted literals. A field holds an expression of its own,
which is read by a function given from outside; its text may not hold a backslash, and a format after a
colon may hold fields again, but those may not hold fields in their formats.
-/

set_option autoImplicit false

namespace Lintel.Python.Literal

/-- Text still to be read and the byte offset at which it starts. -/
structure Spot where
  offset : Nat
  rest : List Char

/-- Takes one character. -/
def Spot.next (spot : Spot) : Option (Char × Spot) :=
  match spot.rest with
  | [] => none
  | c :: rest => some (c, ⟨spot.offset + c.utf8Size, rest⟩)

/-- The value of a hexadecimal digit. -/
def hexValue? (c : Char) : Option Nat :=
  if c.isDigit then some (c.toNat - 48)
  else if 'a' ≤ c ∧ c ≤ 'f' then some (c.toNat - 87)
  else if 'A' ≤ c ∧ c ≤ 'F' then some (c.toNat - 55)
  else none

/-- Reads exactly `count` hexadecimal digits. -/
def readHex : Nat → Nat → Spot → Option (Nat × Spot)
  | 0, value, spot => some (value, spot)
  | count + 1, value, spot => do
    let (c, spot) ← spot.next
    let digit ← hexValue? c
    readHex count (value * 16 + digit) spot

/-- Reads a character given by its number. A surrogate becomes the replacement character and a number
past the last character is refused. -/
def readNumericEscape (count : Nat) (spot : Spot) : Option (Char × Spot) := do
  let (value, spot) ← readHex count 0 spot
  if 0xD800 ≤ value ∧ value ≤ 0xDFFF then some ('\uFFFD', spot)
  else if 0x10FFFF < value then none
  else some (Char.ofNat value, spot)

/-- Takes up to `count` further octal digits. -/
def readOctal : Nat → Nat → Spot → Nat × Spot
  | 0, value, spot => (value, spot)
  | count + 1, value, spot =>
    match spot.next with
    | some (c, after) =>
      if '0' ≤ c ∧ c ≤ '7' then readOctal count (value * 8 + (c.toNat - 48)) after else (value, spot)
    | none => (value, spot)

/-- Takes the text up to a closing brace. -/
def readBraced (spot : Spot) : Option (List Char × Spot) :=
  let name := spot.rest.takeWhile fun c => c ≠ '}'
  match spot.rest.dropWhile fun c => c ≠ '}' with
  | [] => none
  | _ :: rest => some (name, ⟨spot.offset + Text.byteLength name + 1, rest⟩)

/-- Reads a character given by its name in braces. -/
def readNamedEscape (spot : Spot) : Option (Char × Spot) := do
  let (brace, spot) ← spot.next
  if brace ≠ '{' then none
  else
    let (name, spot) ← readBraced spot
    let c ← Text.characterNamed? name
    some (c, spot)

/-- Reads an escape, the backslash already taken. A letter that starts no escape is kept together with
the backslash, and a line break is dropped. -/
def readEscape (isBytes : Bool) (spot : Spot) : Option (List Char × Spot) := do
  let (c, spot) ← spot.next
  let single (result : Option (Char × Spot)) : Option (List Char × Spot) :=
    result.map fun (value, spot) => ([value], spot)
  match c with
  | '\\' => some (['\\'], spot)
  | '\'' => some (['\''], spot)
  | '"' => some (['"'], spot)
  | 'a' => some (['\x07'], spot)
  | 'b' => some (['\x08'], spot)
  | 'f' => some (['\x0c'], spot)
  | 'n' => some (['\n'], spot)
  | 'r' => some (['\r'], spot)
  | 't' => some (['\t'], spot)
  | 'v' => some (['\x0b'], spot)
  | 'x' => single (readNumericEscape 2 spot)
  | '\n' => some ([], spot)
  | _ =>
    if '0' ≤ c ∧ c ≤ '7' then
      let (value, spot) := readOctal 2 (c.toNat - 48) spot
      some ([Char.ofNat value], spot)
    else if !isBytes && c == 'u' then single (readNumericEscape 4 spot)
    else if !isBytes && c == 'U' then single (readNumericEscape 8 spot)
    else if !isBytes && c == 'N' then single (readNamedEscape spot)
    else if isBytes && 0x80 ≤ c.toNat then none
    else some (['\\', c], spot)

/-- Reads a literal without fields. A bytes literal holds ASCII characters only. -/
def readPlain (kind : LiteralKind) : Nat → Spot → Option (List Char)
  | 0, _ => none
  | fuel + 1, spot =>
    match spot.next with
    | none => some []
    | some (c, after) => do
      if c = '\\' ∧ !kind.isRaw then
        let (chars, after) ← readEscape kind.isBytes after
        let rest ← readPlain kind fuel after
        some (chars ++ rest)
      else if kind.isBytes && 0x80 ≤ c.toNat then none
      else
        let rest ← readPlain kind fuel after
        some (c :: rest)

/-- A piece of a formatted literal. -/
inductive Piece where
  | text (value : List Char)
  | field (value : Expr)

/-- Reads the expression in a field: the byte offset at which it starts and its text. -/
abbrev FieldReader := Nat → List Char → Option Expr

/-- The pieces with adjacent texts left apart, as expressions of the given extent. -/
def Piece.toExpr (extent : Extent) : Piece → Expr
  | .text value => .constant extent (.text value)
  | .field value => value

/-- What has been read of a replacement field. The text of the expression stands in reverse, and so do
the blanks after an equals sign. -/
structure FieldState where
  written : List Char
  format : Option Expr
  brackets : List Char
  isDocumented : Bool
  trailing : List Char

/-- A text piece, unless it is empty. -/
def textPiece (reversed : List Char) : List Piece :=
  if reversed.isEmpty then [] else [.text reversed.reverse]

/-- Takes characters up to and with the given quote. -/
def readQuoted (quote : Char) (spot : Spot) : Option (List Char × Spot) :=
  let inner := spot.rest.takeWhile fun c => c ≠ quote
  match spot.rest.dropWhile fun c => c ≠ quote with
  | [] => none
  | _ :: rest => some (inner ++ [quote], ⟨spot.offset + Text.byteLength inner + 1, rest⟩)

/-- The pieces of a finished field. A field with an equals sign shows its own text first. -/
def finishField (fields : FieldReader) (extent : Extent) (offset : Nat) (state : FieldState) :
    Option (List Piece) := do
  let written := state.written.reverse
  if (Text.trim written).isEmpty then none
  else
    let value ← fields offset written
    let field := Piece.field (.formattedValue extent value state.format)
    if state.isDocumented then
      some [.text (written ++ ['=']), .text state.trailing.reverse, field]
    else some [field]

/-- Reads a replacement field from behind its opening brace. `formats` reads the format after a
colon. -/
def readField (fields : FieldReader) (formats : Spot → Option (Expr × Spot)) (extent : Extent)
    (offset : Nat) : Nat → FieldState → Spot → Option (List Piece × Spot)
  | 0, _, _ => none
  | fuel + 1, state, spot => do
    let (c, after) ← spot.next
    let continue_ (state : FieldState) (spot : Spot) : Option (List Piece × Spot) :=
      readField fields formats extent offset fuel state spot
    let keep (state : FieldState) : Option (List Piece × Spot) :=
      continue_ { state with written := c :: state.written } after
    let nextIsEquals := after.rest.head? = some '='
    if (c = '!' ∨ c = '=' ∨ c = '>' ∨ c = '<') ∧ nextIsEquals then
      let (_, after) ← after.next
      continue_ { state with written := '=' :: c :: state.written } after
    else if c = '!' ∧ state.brackets.isEmpty then
      if (Text.trim state.written).isEmpty then none
      else
        let (conversion, after) ← after.next
        if (conversion = 's' ∨ conversion = 'a' ∨ conversion = 'r')
            ∧ (after.rest.head? = some '}' ∨ after.rest.head? = some ':') then
          continue_ state after
        else none
    else if c = '=' ∧ state.brackets.isEmpty then continue_ { state with isDocumented := true } after
    else if c = ':' ∧ state.brackets.isEmpty then
      let (format, after) ← formats after
      continue_ { state with format := some format } after
    else if c = '(' ∨ c = '{' ∨ c = '[' then
      keep { state with brackets := c :: state.brackets }
    else if c = ')' ∨ c = ']' ∨ (c = '}' ∧ !state.brackets.isEmpty) then
      match state.brackets with
      | [] => none
      | opening :: outer =>
        if (c = ')' ∧ opening = '(') ∨ (c = ']' ∧ opening = '[') ∨ (c = '}' ∧ opening = '{') then
          keep { state with brackets := outer }
        else none
    else if c = '}' then
      let pieces ← finishField fields extent offset state
      some (pieces, after)
    else if c = '"' ∨ c = '\'' then
      let (quoted, after) ← readQuoted c after
      continue_ { state with written := quoted.reverse ++ c :: state.written } after
    else if c = ' ' ∧ state.isDocumented then
      continue_ { state with trailing := c :: state.trailing } after
    else if c = '\\' then none
    else if state.isDocumented then none
    else keep state

/-- Reads the pieces of a formatted literal. At the outer level a doubled brace stands for itself; in a
format a closing brace ends the reading. -/
def readPieces (kind : LiteralKind) (fields : FieldReader) (formats : Spot → Option (Expr × Spot))
    (extent : Extent) (isOuter : Bool) : Nat → List Char → Spot → Option (List Piece × Spot)
  | 0, _, _ => none
  | fuel + 1, text, spot =>
    let continue_ (text : List Char) (spot : Spot) : Option (List Piece × Spot) :=
      readPieces kind fields formats extent isOuter fuel text spot
    match spot.next with
    | none => some (textPiece text, spot)
    | some ('{', after) =>
      if isOuter ∧ after.rest.head? = some '{' then do
        let (_, after) ← after.next
        continue_ ('{' :: text) after
      else if isOuter ∧ after.rest.isEmpty then none
      else do
        let (field, after) ← readField fields formats extent after.offset fuel
          ⟨[], none, [], false, []⟩ after
        let (pieces, after) ← continue_ [] after
        some (textPiece text ++ field ++ pieces, after)
    | some ('}', after) =>
      if !isOuter then some (textPiece text, spot)
      else do
        let (second, after) ← after.next
        if second = '}' then continue_ ('}' :: text) after else none
    | some (c, after) =>
      if c = '\\' ∧ !kind.isRaw then do
        let (chars, after) ← readEscape false after
        continue_ (chars.reverse ++ text) after
      else continue_ (c :: text) after

/-- Reads a format up to the brace that ends its field. `inner` reads the fields in it. -/
def readFormat (inner : Spot → Option (List Piece × Spot)) :
    Nat → List Char → Spot → Option (List Piece × Spot)
  | 0, _, _ => none
  | fuel + 1, text, spot =>
    match spot.next with
    | none => some (textPiece text, spot)
    | some ('}', _) => some (textPiece text, spot)
    | some ('{', _) => do
      let (pieces, after) ← inner spot
      let (more, after) ← readFormat inner fuel [] after
      some (textPiece text ++ pieces ++ more, after)
    | some (c, after) => readFormat inner fuel (c :: text) after

/-- Reads the pieces of a formatted literal, with as many levels of nested formats as given. -/
def readFormatted (kind : LiteralKind) (fields : FieldReader) (extent : Extent) (fuel : Nat) :
    Nat → Bool → Spot → Option (List Piece × Spot)
  | 0, _, _ => none
  | levels + 1, isOuter, spot =>
    readPieces kind fields (fun spot => do
      let (pieces, after) ← readFormat (readFormatted kind fields extent fuel levels false) fuel [] spot
      some (.joinedText extent (pieces.map (Piece.toExpr extent)), after))
      extent isOuter fuel [] spot

/-- One literal token: its extent, kind, and content with the offset at which the content starts. -/
structure Part where
  extent : Extent
  kind : LiteralKind
  contentStart : Nat
  content : List Char

/-- How deep replacement fields may nest: a field, and fields in its format. -/
def formatLevels : Nat := 2

/-- The pieces of one literal. -/
def Part.pieces (fields : FieldReader) (part : Part) : Option (List Piece) :=
  let fuel := part.content.length + 1
  let spot : Spot := ⟨part.contentStart, part.content⟩
  if part.kind.isFormatted then
    (readFormatted part.kind fields part.extent fuel formatLevels true spot).map Prod.fst
  else (readPlain part.kind fuel spot).map fun value => [.text value]

/-- Joins runs of adjacent texts. A run of empty texts still gives one piece. -/
def joinTexts : List Piece → List Piece
  | [] => []
  | .text value :: rest =>
    match joinTexts rest with
    | .text more :: others => .text (value ++ more) :: others
    | others => .text value :: others
  | .field value :: rest => .field value :: joinTexts rest

/-- The value of adjacent literals, which together are one expression. Bytes and text do not mix. -/
def combine (fields : FieldReader) (extent : Extent) (parts : List Part) : Option Expr := do
  let bytesCount := (parts.filter fun part => part.kind.isBytes).length
  if bytesCount ≠ 0 ∧ bytesCount ≠ parts.length then none
  else
    let pieces ← parts.mapM (Part.pieces fields)
    let joined := joinTexts pieces.flatten
    if parts.any fun part => part.kind.isFormatted then
      some (.joinedText extent (joined.map (Piece.toExpr extent)))
    else
      let value := joined.flatMap fun
        | .text value => value
        | .field _ => []
      some (.constant extent (if bytesCount ≠ 0 then .bytes value else .text value))

end Lintel.Python.Literal
