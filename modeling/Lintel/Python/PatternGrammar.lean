import Lintel.Python.Expression

/-!
# Parsing case patterns

Patterns look like expressions with a grammar of their own: a bare name captures, a dotted name is a
value, and literals are numbers, strings and the three named constants.
-/

set_option autoImplicit false

namespace Lintel.Python

open Lintel.Python.Parser

/-- A number, perhaps with a minus sign. -/
def signedNumber : Parser Expr := do
  let start ← startOffset
  if ← takeSymbol "-" then
    let value ← number
    let extent ← extentFrom start
    pure (.unary extent .minus value)
  else number

/-- A number or a sum of a number and an unsigned number. -/
def numberPattern : Parser Expr := do
  let start ← startOffset
  let left ← signedNumber
  match ← takeOperator [("+", BinaryOperator.add), ("-", .subtract)] with
  | none => pure left
  | some operator =>
    let right ← number
    let extent ← extentFrom start
    pure (.binary extent operator left right)

/-- The attributes behind a name. -/
def dottedTail (start : Nat) : Nat → Expr → Parser Expr
  | 0, _ => failure
  | fuel + 1, value => do
    if ← takeSymbol "." then
      let name ← identifier
      let extent ← extentFrom start
      dottedTail start fuel (.attr extent value name)
    else pure value

/-- A name with attributes behind it. -/
def dottedName (fuel : Nat) : Parser Expr := do
  let start ← startOffset
  let id ← identifier
  let extent ← extentFrom start
  dottedTail start fuel (.name extent id)

/-- `None`, `True` or `False`. -/
def namedConstant : Parser Constant := do
  match (← advance).kind with
  | .keyword "None" => pure .none
  | .keyword "True" => pure (.bool true)
  | .keyword "False" => pure (.bool false)
  | _ => failure

/-- The name of a capture; an underscore captures nothing. -/
def captureName (name : String) : Option String :=
  if name = "_" then none else some name

/-- Whether a token may start a pattern. -/
def startsPattern : TokenKind → Bool
  | .name _ | .integer _ | .decimal _ | .imaginary _ | .literal .. => true
  | .symbol symbol => ["(", "[", "\x7b", "-", "*"].contains symbol
  | .keyword word => ["None", "True", "False"].contains word
  | _ => false

/-- A key of a mapping pattern. -/
def mappingKey (levels : Levels) : Parser Expr := do
  let start ← startOffset
  match ← peek with
  | .literal .. => literals levels
  | .name _ =>
    match ← dottedName levels.fuel with
    | .name .. => failure
    | key => pure key
  | .keyword _ =>
    let value ← namedConstant
    let extent ← extentFrom start
    pure (.constant extent value)
  | _ => numberPattern

/-- The entries of a mapping pattern up to the closing brace, which is taken. -/
def mappingEntries (levels : Levels) (inner : Parser Pattern) :
    Nat → Parser (List MappingItem × Option String)
  | 0 => failure
  | fuel + 1 => do
    if ← takeSymbol "\x7d" then pure ([], none)
    else if ← takeSymbol "**" then
      let rest ← identifier
      let _ ← takeSymbol ","
      expectSymbol "\x7d"
      pure ([], some rest)
    else
      let key ← mappingKey levels
      expectSymbol ":"
      let value ← inner
      if ← takeSymbol "," then
        let (items, rest) ← mappingEntries levels inner fuel
        pure (⟨key, value⟩ :: items, rest)
      else
        expectSymbol "\x7d"
        pure ([⟨key, value⟩], none)

/-- The arguments of a class pattern up to the closing parenthesis, which is taken. Keywords come after
all others. -/
def classArguments (inner : Parser Pattern) :
    Nat → Bool → Parser (List Pattern × List String × List Pattern)
  | 0, _ => failure
  | fuel + 1, seenKeyword => do
    if ← takeSymbol ")" then pure ([], [], [])
    else
      let isKeyword ← atNameThen "="
      if seenKeyword && !isKeyword then failure
      else
        let name ← if isKeyword then do
            let name ← identifier
            expectSymbol "="
            pure (some name)
          else pure none
        let value ← inner
        let (arguments, names, values) ←
          if ← takeSymbol "," then classArguments inner fuel isKeyword
          else do
            expectSymbol ")"
            pure ([], [], [])
        match name with
        | some name => pure (arguments, name :: names, value :: values)
        | none => pure (value :: arguments, names, values)

/-- A pattern without alternatives. `inner` reads patterns inside brackets. -/
def closedPattern (levels : Levels) (inner : Parser Pattern) : Parser Pattern := do
  match ← peek with
  | .name _ =>
    let value ← dottedName levels.fuel
    if ← takeSymbol "(" then
      let (arguments, names, values) ← classArguments inner levels.fuel false
      pure (.classPattern value arguments names values)
    else match value with
      | .name _ id => pure (.capture none (captureName id))
      | value => pure (.value value)
  | .literal .. =>
    let value ← literals levels
    pure (.value value)
  | .keyword _ =>
    let value ← namedConstant
    pure (.singleton value)
  | .symbol "*" =>
    let _ ← advance
    let name ← identifier
    pure (.star (captureName name))
  | .symbol "(" =>
    let _ ← advance
    if ← takeSymbol ")" then pure (.sequence [])
    else
      let (items, trailing) ← commaList startsPattern levels.fuel inner
      expectSymbol ")"
      match items, trailing with
      | [single], false => pure single
      | _, _ => pure (.sequence items)
  | .symbol "[" =>
    let _ ← advance
    let items ← untilClosing "]" inner levels.fuel
    pure (.sequence items)
  | .symbol "\x7b" =>
    let _ ← advance
    let (items, rest) ← mappingEntries levels inner levels.fuel
    pure (.mapping items rest)
  | _ =>
    let value ← numberPattern
    pure (.value value)

/-- A pattern with alternatives and perhaps a name for the whole. The name is not an underscore. -/
def patternStep (levels : Levels) (inner : Parser Pattern) : Parser Pattern := do
  let items ← separated "|" levels.fuel (closedPattern levels inner)
  let pattern : Pattern := match items with
    | [single] => single
    | _ => .alternatives items
  if ← takeKeyword "as" then
    let name ← identifier
    if name = "_" then failure else pure (.capture (some pattern) (some name))
  else pure pattern

/-- Patterns to a given depth. -/
def patternGrammar (levels : Levels) : Nat → Parser Pattern
  | 0 => failure
  | depth + 1 => patternStep levels (patternGrammar levels depth)

/-- The pattern of a `case`: several between commas are a sequence. -/
def casePattern (levels : Levels) : Parser Pattern := do
  let (items, trailing) ← commaList startsPattern levels.fuel (patternGrammar levels levels.fuel)
  match items, trailing with
  | [single], false => pure single
  | _, _ => pure (.sequence items)

end Lintel.Python
