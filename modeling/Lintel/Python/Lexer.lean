import Lintel.Python.Token
import Lintel.Text.Name

/-!
# Scanning

From source text to tokens. Line breaks inside brackets mean nothing; outside they end a statement, and
the blanks at the start of the next line open or close blocks. Tabs and blanks are counted apart: two
indentations compare only when both counts agree on which is deeper.

A source that cannot be scanned has no tokens at all; the place of the first fault is not kept.
-/

set_option autoImplicit false

namespace Lintel.Python.Lexer

/-- Blanks at the start of a line. -/
structure Indentation where
  tabs : Nat
  spaces : Nat
deriving Repr, DecidableEq

/-- Compares two indentations, or gives up when only the width of a tab could tell. -/
def Indentation.compare? (left right : Indentation) : Option Ordering :=
  if left.tabs < right.tabs then
    if left.spaces ≤ right.spaces then some .lt else none
  else if right.tabs < left.tabs then
    if right.spaces ≤ left.spaces then some .gt else none
  else if left.spaces < right.spaces then some .lt
  else if right.spaces < left.spaces then some .gt
  else some .eq

/-- What the scanner remembers between tokens. The innermost open indentation stands first. -/
structure State where
  atLineStart : Bool
  nesting : Nat
  indentations : List Indentation

/-- The offset at which the remaining text starts; `size` is the length of the whole. -/
def position (size : Nat) : List Glyph → Nat
  | [] => size
  | glyph :: _ => glyph.start

/-- Reads the blanks at the start of a line. Lines that hold only blanks and a comment are passed over,
and a form feed starts the count again. A tab after a blank is refused. -/
def readIndentation (inComment : Bool) (level : Indentation) :
    List Glyph → Option (Indentation × List Glyph)
  | [] => some (⟨0, 0⟩, [])
  | glyph :: rest =>
    if glyph.char = '\n' then readIndentation false ⟨0, 0⟩ rest
    else if inComment then readIndentation true ⟨0, 0⟩ rest
    else if glyph.char = ' ' then readIndentation false { level with spaces := level.spaces + 1 } rest
    else if glyph.char = '\t' then
      if level.spaces ≠ 0 then none
      else readIndentation false { level with tabs := level.tabs + 1 } rest
    else if glyph.char = '#' then readIndentation true ⟨0, 0⟩ rest
    else if glyph.char = '\x0c' then readIndentation false ⟨0, 0⟩ rest
    else some (level, glyph :: rest)

/-- Closes blocks until the indentation of the line is met. The indentations left and the number of
blocks closed; nothing when no open block has this indentation. -/
def closeBlocks (level : Indentation) : List Indentation → Option (List Indentation × Nat)
  | [] =>
    match level.compare? ⟨0, 0⟩ with
    | some .eq => some ([], 0)
    | _ => none
  | top :: outer =>
    match level.compare? top with
    | some .eq => some (top :: outer, 0)
    | some .lt => (closeBlocks level outer).map fun (left, closed) => (left, closed + 1)
    | _ => none

/-- The block tokens that the indentation of a new line calls for. -/
def blockTokens (level : Indentation) (place : Nat) (indentations : List Indentation) :
    Option (List Indentation × List Token) :=
  match level.compare? (indentations.headD ⟨0, 0⟩) with
  | none => none
  | some .eq => some (indentations, [])
  | some .gt => some (level :: indentations, [⟨.indent, place, place⟩])
  | some .lt => (closeBlocks level indentations).map fun (left, closed) =>
      (left, List.replicate closed ⟨.dedent, place, place⟩)

/-- Takes digits; an underscore may stand between two of them. -/
def digitRun (isDigit : Char → Bool) : List Glyph → List Char × List Glyph
  | [] => ([], [])
  | glyph :: rest =>
    if isDigit glyph.char then
      let (digits, after) := digitRun isDigit rest
      (glyph.char :: digits, after)
    else if glyph.char = '_' ∧ (rest.head?.map fun next => isDigit next.char).getD false then
      digitRun isDigit rest
    else ([], glyph :: rest)

def isBinaryDigit (c : Char) : Bool := c == '0' || c == '1'

def isOctalDigit (c : Char) : Bool := '0' ≤ c && c ≤ '7'

def isHexDigit (c : Char) : Bool := c.isDigit || ('a' ≤ c && c ≤ 'f') || ('A' ≤ c && c ≤ 'F')

def digitValue (c : Char) : Nat :=
  if c.isDigit then c.toNat - 48
  else if 'a' ≤ c ∧ c ≤ 'f' then c.toNat - 87
  else c.toNat - 55

/-- The number written with the given digits. -/
def numberValue (radix : Nat) (digits : List Char) : Nat :=
  digits.foldl (fun value digit => value * radix + digitValue digit) 0

/-- Whether an exponent with at least one digit comes next. -/
def atExponent : List Glyph → Bool
  | e :: sign :: digit :: _ =>
    (e.char == 'e' || e.char == 'E')
      && (sign.char.isDigit || ((sign.char == '+' || sign.char == '-') && digit.char.isDigit))
  | [e, digit] => (e.char == 'e' || e.char == 'E') && digit.char.isDigit
  | _ => false

/-- Takes an exponent. One without digits is refused. -/
def readExponent (input : List Glyph) : Option (List Char × List Glyph) :=
  match input with
  | e :: rest =>
    if e.char = 'e' ∨ e.char = 'E' then
      let (sign, rest) := match rest with
        | s :: after => if s.char = '+' ∨ s.char = '-' then ([s.char], after) else ([], rest)
        | [] => ([], [])
      match digitRun Char.isDigit rest with
      | ([], _) => none
      | (digits, rest) => some ('e' :: sign ++ digits, rest)
    else some ([], input)
  | [] => some ([], [])

/-- A trailing `j` makes a number imaginary. -/
def imaginarySuffix : List Glyph → Option (List Glyph)
  | j :: rest => if j.char = 'j' ∨ j.char = 'J' then some rest else none
  | [] => none

/-- Reads a number in ordinary notation. A whole number other than zero does not start with zero. -/
def readOrdinaryNumber (input : List Glyph) : Option (TokenKind × List Glyph) :=
  let (digits, rest) := digitRun Char.isDigit input
  let isFraction := (rest.head?.map fun next => next.char == '.').getD false
  if isFraction ∨ atExponent rest then do
    let (fraction, rest) ← match rest with
      | point :: after =>
        if point.char = '.' then
          if (after.head?.map fun next => next.char == '_').getD false then none
          else
            let (more, after) := digitRun Char.isDigit after
            some ('.' :: more, after)
        else some ([], rest)
      | [] => some ([], [])
    let (exponent, rest) ← readExponent rest
    let written := digits ++ fraction ++ exponent
    match imaginarySuffix rest with
    | some rest => some (.imaginary written, rest)
    | none => some (.decimal written, rest)
  else
    match imaginarySuffix rest with
    | some rest => some (.imaginary digits, rest)
    | none =>
      let value := numberValue 10 digits
      if digits.head? = some '0' ∧ value ≠ 0 then none else some (.integer value, rest)

/-- Reads the digits of a number in another radix; at least one is needed. -/
def readRadixNumber (radix : Nat) (isDigit : Char → Bool) (input : List Glyph) :
    Option (TokenKind × List Glyph) :=
  match digitRun isDigit input with
  | ([], _) => none
  | (digits, rest) => some (.integer (numberValue radix digits), rest)

/-- Reads a number. -/
def readNumber (input : List Glyph) : Option (TokenKind × List Glyph) :=
  match input with
  | zero :: mark :: rest =>
    if zero.char = '0' then
      if mark.char = 'x' ∨ mark.char = 'X' then readRadixNumber 16 isHexDigit rest
      else if mark.char = 'o' ∨ mark.char = 'O' then readRadixNumber 8 isOctalDigit rest
      else if mark.char = 'b' ∨ mark.char = 'B' then readRadixNumber 2 isBinaryDigit rest
      else readOrdinaryNumber input
    else readOrdinaryNumber input
  | _ => readOrdinaryNumber input

/-- What one letter before a quote means. -/
def kindOfLetter? (c : Char) : Option LiteralKind :=
  match c with
  | 'r' | 'R' => some ⟨false, true, false⟩
  | 'f' | 'F' => some ⟨false, false, true⟩
  | 'u' | 'U' => some ⟨false, false, false⟩
  | 'b' | 'B' => some ⟨true, false, false⟩
  | _ => none

/-- What two letters before a quote mean. -/
def kindOfLetters? (first second : Char) : Option LiteralKind :=
  match first.toLower, second.toLower with
  | 'r', 'f' | 'f', 'r' => some ⟨false, true, true⟩
  | 'r', 'b' | 'b', 'r' => some ⟨true, true, false⟩
  | _, _ => none

def isQuote (c : Char) : Bool := c == '"' || c == '\''

/-- The letters before a string literal, if one comes next: its kind and the text from the quote on. -/
def literalStart? (input : List Glyph) : Option (LiteralKind × List Glyph) :=
  match input with
  | quote :: rest =>
    if isQuote quote.char then some (⟨false, false, false⟩, quote :: rest)
    else match rest with
      | second :: after =>
        if isQuote second.char then (kindOfLetter? quote.char).map fun kind => (kind, second :: after)
        else match after with
          | third :: _ =>
            if isQuote third.char then
              (kindOfLetters? quote.char second.char).map fun kind => (kind, after)
            else none
          | [] => none
      | [] => none
  | [] => none

/-- Reads the inside of a literal up to its closing quote. A backslash shields the character after it,
and a literal in single quotes ends on its line. -/
def readLiteralContent (quote : Char) (triple : Bool) :
    List Glyph → Option (List Char × List Glyph)
  | [] => none
  | glyph :: rest =>
    if glyph.char = '\\' then
      match rest with
      | [] => none
      | shielded :: after =>
        (readLiteralContent quote triple after).map fun (content, left) =>
          ('\\' :: shielded.char :: content, left)
    else if glyph.char = '\n' ∧ !triple then none
    else if glyph.char = quote then
      if triple then
        match rest with
        | second :: third :: after =>
          if second.char = quote ∧ third.char = quote then some ([], after)
          else (readLiteralContent quote triple rest).map fun (content, left) =>
            (glyph.char :: content, left)
        | _ => (readLiteralContent quote triple rest).map fun (content, left) =>
            (glyph.char :: content, left)
      else some ([], rest)
    else (readLiteralContent quote triple rest).map fun (content, left) =>
      (glyph.char :: content, left)

/-- Reads a literal from its opening quote on. -/
def readLiteral (size : Nat) (kind : LiteralKind) (input : List Glyph) :
    Option (TokenKind × List Glyph) :=
  match input with
  | [] => none
  | quote :: rest =>
    let (triple, rest) := match rest with
      | second :: third :: after =>
        if second.char = quote.char ∧ third.char = quote.char then (true, after) else (false, rest)
      | _ => (false, rest)
    (readLiteralContent quote.char triple rest).map fun (content, left) =>
      (.literal kind (position size rest) content, left)

/-- Reads a name or a keyword. -/
def readName (input : List Glyph) : TokenKind × List Glyph :=
  let isPart (glyph : Glyph) : Bool := Text.isNameContinue glyph.char
  let text := String.ofList ((input.takeWhile isPart).map Glyph.char)
  (if keywords.contains text then .keyword text else .name text, input.dropWhile isPart)

/-- The longest sign at the front, with what follows it. -/
def readSymbol (input : List Glyph) : Option (String × List Glyph) :=
  (symbols.find? fun symbol =>
    symbol.toList.isPrefixOf ((input.take 3).map Glyph.char)).map fun symbol =>
      (symbol, input.drop symbol.length)

/-- Reads one token that is neither blank nor line break. -/
def readWord (size : Nat) (input : List Glyph) : Option (TokenKind × List Glyph) :=
  match input with
  | [] => none
  | first :: rest =>
    match literalStart? input with
    | some (kind, fromQuote) => readLiteral size kind fromQuote
    | none =>
      if Text.isNameStart first.char then some (readName input)
      else if first.char.isDigit
          ∨ (first.char = '.' ∧ (rest.head?.map fun next => next.char.isDigit).getD false) then
        readNumber input
      else match readSymbol input with
        | some (symbol, after) => some (.symbol symbol, after)
        | none =>
          if Text.isEmoji first.char then some (.name (String.ofList [first.char]), rest) else none

/-- The depth of brackets after a token; a bracket that closes nothing is refused. -/
def nestingAfter? (kind : TokenKind) (nesting : Nat) : Option Nat :=
  match kind with
  | .symbol symbol =>
    if isOpening symbol then some (nesting + 1)
    else if isClosing symbol then (if nesting = 0 then none else some (nesting - 1))
    else some nesting
  | _ => some nesting

/-- The tokens that end a source: the open blocks are closed. -/
def closingTokens (size : Nat) (state : State) : List Token :=
  state.indentations.map (fun _ => ⟨.dedent, size, size⟩) ++ [⟨.endOfText, size, size⟩]

/-- Scans the rest of a source; `fuel` bounds the number of steps and `found` holds the tokens so far,
the latest first. -/
def scan (size : Nat) : Nat → State → List Glyph → List Token → Option (List Token)
  | 0, _, _, _ => none
  | fuel + 1, state, input, found =>
    if state.atLineStart then do
      let (level, input) ← readIndentation false ⟨0, 0⟩ input
      let (indentations, tokens) ← blockTokens level (position size input) state.indentations
      let state := { state with atLineStart := false, indentations := indentations }
      let found := tokens.reverse ++ found
      match input with
      | [] => some (found.reverse ++ closingTokens size state)
      | _ => scan size fuel state input found
    else
      match input with
      | [] =>
        if state.nesting ≠ 0 then none
        else some (found.reverse ++ ⟨.newline, size, size⟩ :: closingTokens size state)
      | glyph :: rest =>
        let c := glyph.char
        if c = ' ' ∨ c = '\t' ∨ c = '\x0c' then scan size fuel state rest found
        else if c = '#' then
          scan size fuel state (rest.dropWhile fun next => next.char ≠ '\n') found
        else if c = '\n' then
          if state.nesting = 0 then
            scan size fuel { state with atLineStart := true } rest
              (⟨.newline, glyph.start, position size rest⟩ :: found)
          else scan size fuel state rest found
        else if c = '\\' then
          match rest with
          | [] => none
          | next :: after =>
            if next.char = '\n' ∧ !after.isEmpty then scan size fuel state after found else none
        else do
          let (kind, rest) ← readWord size input
          let nesting ← nestingAfter? kind state.nesting
          scan size fuel { state with nesting := nesting } rest
            (⟨kind, glyph.start, position size rest⟩ :: found)

/-- Whether the rest of a line that starts with `match` or `case` opens a block: it holds a colon
outside brackets that belongs to no `lambda` and does not come first. -/
def opensBlock (nesting : Nat) (isFirst seenLambda : Bool) : List Token → Bool
  | [] => false
  | token :: rest =>
    match token.kind with
    | .newline => false
    | .keyword "lambda" => opensBlock nesting false (seenLambda || nesting == 0) rest
    | .symbol symbol =>
      if symbol = ":" ∧ nesting = 0 then
        if seenLambda then opensBlock nesting false false rest
        else if isFirst then opensBlock nesting false false rest
        else true
      else if isOpening symbol then opensBlock (nesting + 1) false seenLambda rest
      else if isClosing symbol then opensBlock (nesting - 1) false seenLambda rest
      else opensBlock nesting false seenLambda rest
    | _ => opensBlock nesting false seenLambda rest

/-- Whether an equals sign follows, with nothing but a bracketed list before it. -/
def reachesEquals (nesting : Nat) : List Token → Bool
  | [] => false
  | token :: rest =>
    match token.kind with
    | .newline => false
    | .symbol symbol =>
      if symbol = "=" ∧ nesting = 0 then true
      else if symbol = "[" then reachesEquals (nesting + 1) rest
      else if symbol = "]" then reachesEquals (nesting - 1) rest
      else if nesting ≠ 0 then reachesEquals nesting rest
      else false
    | _ => if nesting ≠ 0 then reachesEquals nesting rest else false

/-- Whether the rest of a line that starts with `type` declares an alias: a name comes first and an
equals sign follows. -/
def declaresAlias : List Token → Bool
  | [] => false
  | token :: rest =>
    match token.kind with
    | .name _ => reachesEquals 0 rest
    | _ => false

/-- Turns the names `match`, `case` and `type` into keywords where the line they start asks for it. -/
def markSoftKeywords (atLineStart : Bool) : List Token → List Token
  | [] => []
  | token :: rest =>
    let isKeyword := atLineStart && match token.kind with
      | .name "match" | .name "case" => opensBlock 0 true false rest
      | .name "type" => declaresAlias rest
      | _ => false
    let marked := match isKeyword, token.kind with
      | true, .name text => { token with kind := .keyword text }
      | _, _ => token
    let startsLine := match token.kind with
      | .newline | .indent | .dedent => true
      | _ => false
    marked :: markSoftKeywords startsLine rest

/-- The tokens of a text that starts at byte `offset` of the source. -/
def tokensFrom (offset : Nat) (text : List Char) : Option (List Token) :=
  let size := offset + Text.byteLength text
  let input := match text with
    | '\uFEFF' :: rest => glyphs (offset + 3) rest
    | _ => glyphs offset text
  scan size (3 * input.length + 3) ⟨true, 0, []⟩ input []

/-- The tokens of a module. A byte order mark at the start is passed over. -/
def tokens (source : List Char) : Option (List Token) :=
  (tokensFrom 0 source).map (markSoftKeywords true)

end Lintel.Python.Lexer
