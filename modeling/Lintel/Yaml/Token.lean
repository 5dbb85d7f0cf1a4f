import Lintel.Yaml.Scalar

/-!
# YAML tokens

Cuts a text into tokens. Indentation is turned into tokens that open and close blocks. A key is often
recognised only by the colon behind it, so the scanner remembers where a key may have started and puts
the tokens for it there once the colon is found.
-/

set_option autoImplicit false

namespace Lintel.Yaml

inductive Token where
  | versionDirective (major minor : Nat)
  | tagDirective (handle expansion : String)
  | documentStart
  | documentEnd
  | blockSequenceStart
  | blockMappingStart
  | blockEnd
  | flowSequenceStart
  | flowSequenceEnd
  | flowMappingStart
  | flowMappingEnd
  | blockEntry
  | flowEntry
  | key
  | value
  | alias (name : String)
  | anchor (name : String)
  | tag (handle suffix : String)
  | scalar (text : String) (style : ScalarStyle)
  | streamEnd
deriving Repr, DecidableEq

/-- A place where a key may have started. -/
structure KeyStart where
  /-- The number of tokens in front of it. -/
  tokens : Nat
  /-- There has to be a key. -/
  isRequired : Bool
  index : Nat
  line : Nat
  column : Nat
deriving Repr

/-- The state of the scanner. -/
structure Scanner where
  cursor : Cursor
  /-- The tokens so far, last first. -/
  tokens : List Token
  /-- The indentation of the block, and those of the blocks around it. -/
  indent : Int
  outerIndents : List Int
  /-- Where a key may have started, inside the innermost brackets and inside those around them. -/
  keyStart : Option KeyStart
  outerKeyStarts : List (Option KeyStart)
  keyAllowed : Bool

namespace Scanner

def start (text : List Char) : Scanner :=
  ⟨Cursor.start text, [], -1, [], none, [], true⟩

def inFlow (scanner : Scanner) : Bool := !scanner.outerKeyStarts.isEmpty

def emit (scanner : Scanner) (token : Token) : Scanner :=
  { scanner with tokens := token :: scanner.tokens }

def step (scanner : Scanner) (count : Nat) : Scanner :=
  { scanner with cursor := scanner.cursor.advance count }

/-- Puts a token behind the first `count` tokens. -/
def insertAt (scanner : Scanner) (count : Nat) (token : Token) : Scanner :=
  let behind := scanner.tokens.length - count
  { scanner with tokens := scanner.tokens.take behind ++ token :: scanner.tokens.drop behind }

/-- Steps over a byte order mark at the start of a line. It takes up a column. -/
def skipMark (cursor : Cursor) : Cursor :=
  if cursor.column = 0 && cursor.isAt '\ufeff' then cursor.advance 1 else cursor

/-- Skips blanks, comments and line breaks. A line break outside of brackets allows a key again. Tabs
are skipped where no key could start. -/
def skipToToken : Nat → Scanner → Scanner
  | 0, scanner => scanner
  | fuel + 1, scanner =>
    let tabs := scanner.inFlow || !scanner.keyAllowed
    let start := skipMark scanner.cursor
    let cursor := (start.advanceWhile fun c => c == ' ' || (tabs && c == '\t')).skipComment
    match cursor.rest with
    | c :: _ =>
      if isBreak c then
        skipToToken fuel
          { scanner with
            cursor := cursor.advanceLine, keyAllowed := scanner.keyAllowed || !scanner.inFlow }
      else { scanner with cursor }
    | [] => { scanner with cursor }

/-- Whether a key that started somewhere can no longer be one: keys stay on one line and are short. -/
def isStale (cursor : Cursor) (start : KeyStart) : Bool :=
  start.line < cursor.line || start.index + 1024 < cursor.index

/-- Forgets a key start that is stale, which is refused where there has to be a key. -/
def dropStale (cursor : Cursor) (start : Option KeyStart) : Option (Option KeyStart) :=
  match start with
  | none => some none
  | some found =>
    if isStale cursor found then if found.isRequired then none else some none
    else some start

def dropStaleKeys (scanner : Scanner) : Option Scanner := do
  let keyStart ← dropStale scanner.cursor scanner.keyStart
  let outerKeyStarts ← scanner.outerKeyStarts.mapM (dropStale scanner.cursor)
  some { scanner with keyStart, outerKeyStarts }

/-- Forgets where a key may have started. -/
def dropKey (scanner : Scanner) : Option Scanner :=
  match scanner.keyStart with
  | some found => if found.isRequired then none else some { scanner with keyStart := none }
  | none => some scanner

/-- Remembers that a key may start here. -/
def markKey (scanner : Scanner) : Option Scanner :=
  if scanner.keyAllowed then do
    let cursor := scanner.cursor
    let isRequired := !scanner.inFlow && scanner.indent = (cursor.column : Int)
    let scanner ← scanner.dropKey
    some { scanner with
      keyStart := some ⟨scanner.tokens.length, isRequired, cursor.index, cursor.line, cursor.column⟩ }
  else some scanner

/-- Opens a block at a column, if it is indented more than the current one. -/
def openBlock (scanner : Scanner) (column : Nat) (count : Nat) (token : Token) : Scanner :=
  if !scanner.inFlow && scanner.indent < (column : Int) then
    let scanner := scanner.insertAt count token
    { scanner with
      indent := (column : Int), outerIndents := scanner.indent :: scanner.outerIndents }
  else scanner

/-- Closes the blocks that are indented more than a column. -/
def closeBlocks (column : Int) (scanner : Scanner) : Scanner :=
  if scanner.inFlow then scanner
  else
    let closed := ((scanner.indent :: scanner.outerIndents).takeWhile fun indent => column < indent).length
    let left := (scanner.indent :: scanner.outerIndents).drop closed
    { scanner with
      tokens := List.replicate closed .blockEnd ++ scanner.tokens
      indent := left.head?.getD (-1)
      outerIndents := left.tail }

/-- Ends all blocks at the start or the end of a document. -/
def endBlocks (scanner : Scanner) : Option Scanner := do
  let scanner ← (scanner.closeBlocks (-1)).dropKey
  some { scanner with keyAllowed := false }

/-- A token that is one bracket: an opening one. -/
def openFlow (scanner : Scanner) (token : Token) : Option Scanner := do
  let scanner ← scanner.markKey
  let scanner := (scanner.step 1).emit token
  some { scanner with
    keyStart := none, outerKeyStarts := scanner.keyStart :: scanner.outerKeyStarts, keyAllowed := true }

/-- A token that is one bracket: a closing one. -/
def closeFlow (scanner : Scanner) (token : Token) : Option Scanner := do
  let scanner ← scanner.dropKey
  let scanner := (scanner.step 1).emit token
  match scanner.outerKeyStarts with
  | keyStart :: outerKeyStarts => some { scanner with keyStart, outerKeyStarts, keyAllowed := false }
  | [] => some { scanner with keyAllowed := false }

def flowEntry (scanner : Scanner) : Option Scanner := do
  let scanner ← scanner.dropKey
  some { (scanner.step 1).emit .flowEntry with keyAllowed := true }

/-- An indicator that may open a block: only where a key could start. -/
def openAtIndicator (scanner : Scanner) (token : Token) : Option Scanner :=
  if scanner.inFlow then some scanner
  else if !scanner.keyAllowed then none
  else some (scanner.openBlock scanner.cursor.column scanner.tokens.length token)

def blockEntry (scanner : Scanner) : Option Scanner := do
  let scanner ← scanner.openAtIndicator .blockSequenceStart
  let scanner ← scanner.dropKey
  some { (scanner.step 1).emit .blockEntry with keyAllowed := true }

def explicitKey (scanner : Scanner) : Option Scanner := do
  let scanner ← scanner.openAtIndicator .blockMappingStart
  let scanner ← scanner.dropKey
  some { (scanner.step 1).emit .key with keyAllowed := !scanner.inFlow }

/-- A colon: it makes what may have been a key one, or it follows a key that was announced. -/
def valueMark (scanner : Scanner) : Option Scanner :=
  match scanner.keyStart with
  | some found =>
    let scanner := scanner.insertAt found.tokens .key
    let scanner := scanner.openBlock found.column found.tokens .blockMappingStart
    some { (scanner.step 1).emit .value with keyStart := none, keyAllowed := false }
  | none => do
    let scanner ← scanner.openAtIndicator .blockMappingStart
    some { (scanner.step 1).emit .value with keyAllowed := !scanner.inFlow }

/-- Whether a name may end here. -/
def endsName (text : List Char) : Bool :=
  atGap text || match text with
    | c :: _ => ['?', ':', ',', ']', '}', '%', '@', '`'].contains c
    | [] => true

/-- An anchor or an alias. -/
def name (scanner : Scanner) (token : String → Token) : Option Scanner := do
  let scanner ← scanner.markKey
  let start := scanner.cursor.advance 1
  let found := start.rest.takeWhile isNameChar
  let cursor := start.advance found.length
  if found.isEmpty || !endsName cursor.rest then none
  else some { scanner.emit (token (String.ofList found)) with cursor, keyAllowed := false }

/-- A character of the name of a tag. -/
def isTagChar (withBrackets : Bool) (c : Char) : Bool :=
  isNameChar c || ";/?:@&=+$.!~*'()%".toList.contains c
    || (withBrackets && [',', '[', ']'].contains c)

/-- The bytes behind percent signs, and everything else as it stands. -/
def tagBytes : List Char → Option (List UInt8)
  | [] => some []
  | '%' :: high :: low :: rest => do
    let code ← hexNumber? [high, low]
    let bytes ← tagBytes rest
    some (UInt8.ofNat code :: bytes)
  | '%' :: _ => none
  | c :: rest => do
    let bytes ← tagBytes rest
    some ((String.singleton c).toUTF8.toList ++ bytes)

/-- Reads the name of a tag. -/
def tagText (withBrackets : Bool) (cursor : Cursor) : Option (String × Cursor) := do
  let found := cursor.rest.takeWhile (isTagChar withBrackets)
  let bytes ← tagBytes found
  let text ← String.fromUTF8? ⟨bytes.toArray⟩
  some (text, cursor.advance found.length)

/-- Reads a tag: in angle brackets, with a handle between exclamation marks, or behind one. -/
def readTag (cursor : Cursor) : Option (Token × Cursor) :=
  match cursor.rest with
  | '!' :: '<' :: _ => do
    let (suffix, cursor) ← tagText true (cursor.advance 2)
    if suffix.isEmpty || !cursor.isAt '>' then none else some (.tag "" suffix, cursor.advance 1)
  | _ =>
    let handle := (cursor.advance 1).rest.takeWhile isNameChar
    let behind := cursor.advance (handle.length + 1)
    if behind.isAt '!' then do
      let (suffix, cursor) ← tagText false (behind.advance 1)
      if suffix.isEmpty then none
      else some (.tag (String.ofList ('!' :: handle ++ ['!'])) suffix, cursor)
    else do
      let (suffix, cursor) ← tagText false behind
      let suffix := String.ofList handle ++ suffix
      some (if suffix.isEmpty then .tag "" "!" else .tag "!" suffix, cursor)

def tag (scanner : Scanner) : Option Scanner := do
  let scanner ← scanner.markKey
  let (token, cursor) ← readTag scanner.cursor
  if atGap cursor.rest || (scanner.inFlow && cursor.isAt ',') then
    some { scanner.emit token with cursor, keyAllowed := false }
  else none

def blockScalar (scanner : Scanner) (isLiteral : Bool) : Option Scanner := do
  let scanner ← scanner.dropKey
  let found ← readBlock isLiteral scanner.indent (scanner.cursor.advance 1)
  let token := .scalar (String.ofList found.text) (if isLiteral then .literal else .folded)
  some { scanner.emit token with cursor := found.after, keyAllowed := true }

def quotedScalar (scanner : Scanner) (single : Bool) : Option Scanner := do
  let scanner ← scanner.markKey
  let found ← readQuoted single scanner.cursor
  let token := .scalar (String.ofList found.text) (if single then .singleQuoted else .doubleQuoted)
  some { scanner.emit token with cursor := found.after, keyAllowed := false }

def plainScalar (scanner : Scanner) : Option Scanner := do
  let scanner ← scanner.markKey
  let found ← readPlain scanner.inFlow (scanner.indent + 1) scanner.cursor
  some { scanner.emit (.scalar (String.ofList found.text) .plain) with
    cursor := found.after, keyAllowed := found.brokeLine }

/-- Reads a number of a version. -/
def versionNumber (cursor : Cursor) : Option (Nat × Cursor) :=
  let digits := cursor.rest.takeWhile Char.isDigit
  if digits.isEmpty || 9 < digits.length then none
  else some (digits.foldl (fun value digit => value * 10 + (digit.toNat - 48)) 0,
    cursor.advance digits.length)

/-- Reads what a directive says behind its name. -/
def directiveBody (name : String) (cursor : Cursor) : Option (Token × Cursor) :=
  let cursor := cursor.skipSpaces
  if name = "YAML" then do
    let (major, cursor) ← versionNumber cursor
    if !cursor.isAt '.' then none
    else
      let (minor, cursor) ← versionNumber (cursor.advance 1)
      some (.versionDirective major minor, cursor)
  else if name = "TAG" then
    if !cursor.isAt '!' then none
    else
      let word := (cursor.advance 1).rest.takeWhile isNameChar
      let behind := cursor.advance (word.length + 1)
      let closed := behind.isAt '!'
      if !closed && !word.isEmpty then none
      else
        let handle := '!' :: word ++ (if closed then ['!'] else [])
        let behind := if closed then behind.advance 1 else behind
        if !(behind.next?.map isSpace).getD false then none
        else do
          let (expansion, cursor) ← tagText true behind.skipSpaces
          if expansion.isEmpty || !atGap cursor.rest then none
          else some (.tagDirective (String.ofList handle) expansion, cursor)
  else none

def directive (scanner : Scanner) : Option Scanner := do
  let scanner ← scanner.endBlocks
  let start := scanner.cursor.advance 1
  let found := start.rest.takeWhile isNameChar
  let behind := start.advance found.length
  if found.isEmpty || !atGap behind.rest then none
  else
    let (token, cursor) ← directiveBody (String.ofList found) behind
    let cursor := cursor.skipSpaces.skipComment
    if !atLineEnd cursor.rest then none
    else some { scanner.emit token with
      cursor := if cursor.rest.isEmpty then cursor else cursor.advanceLine }

def documentMark (scanner : Scanner) (token : Token) : Option Scanner := do
  let scanner ← scanner.endBlocks
  some ((scanner.step 3).emit token)

/-- Whether a plain scalar may start with a character, given what follows it. -/
def startsPlain (inFlow : Bool) (c : Char) (behind : List Char) : Bool :=
  !(isSpace c || isBreak c || "-?:,[]\x7b\x7d#&*!|>'\"%@`".toList.contains c)
    || (c == '-' && !(behind.head?.map isSpace).getD false)
    || (!inFlow && (c == '?' || c == ':') && !atGap behind)

/-- Reads the token at the cursor. -/
def fetch (scanner : Scanner) : Option Scanner :=
  let cursor := scanner.cursor
  match cursor.rest with
  | [] => none
  | c :: behind =>
    if cursor.column = 0 && c == '%' then scanner.directive
    else if cursor.isAtMark '-' then scanner.documentMark .documentStart
    else if cursor.isAtMark '.' then scanner.documentMark .documentEnd
    else if c == '[' then scanner.openFlow .flowSequenceStart
    else if c == '{' then scanner.openFlow .flowMappingStart
    else if c == ']' then scanner.closeFlow .flowSequenceEnd
    else if c == '}' then scanner.closeFlow .flowMappingEnd
    else if c == ',' then scanner.flowEntry
    else if c == '-' && atGap behind then scanner.blockEntry
    else if c == '?' && (scanner.inFlow || atGap behind) then scanner.explicitKey
    else if c == ':' && (scanner.inFlow || atGap behind) then scanner.valueMark
    else if c == '*' then scanner.name .alias
    else if c == '&' then scanner.name .anchor
    else if c == '!' then scanner.tag
    else if c == '|' && !scanner.inFlow then scanner.blockScalar true
    else if c == '>' && !scanner.inFlow then scanner.blockScalar false
    else if c == '\'' then scanner.quotedScalar true
    else if c == '"' then scanner.quotedScalar false
    else if startsPlain scanner.inFlow c behind then scanner.plainScalar
    else none

/-- Ends the text. -/
def finish (scanner : Scanner) : Option (List Token) := do
  let scanner ← scanner.endBlocks
  some (scanner.emit .streamEnd).tokens.reverse

/-- Reads tokens to the end of the text; `fuel` bounds their number. -/
def run : Nat → Scanner → Option (List Token)
  | 0, _ => none
  | fuel + 1, scanner => do
    let scanner := skipToToken (scanner.cursor.rest.length + 1) scanner
    let scanner ← scanner.dropStaleKeys
    let scanner := scanner.closeBlocks scanner.cursor.column
    if scanner.cursor.rest.isEmpty then scanner.finish
    else run fuel (← scanner.fetch)

end Scanner

/-- The tokens of a text. Control characters are refused. -/
def tokens? (text : List Char) : Option (List Token) :=
  if text.all isAllowed then Scanner.run (text.length + 2) (.start text) else none

end Lintel.Yaml
