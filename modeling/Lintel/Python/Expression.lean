import Lintel.Python.Cursor
import Lintel.Python.Lexer
import Lintel.Python.Literal

/-!
# Parsing expressions

The levels of the expression grammar, from conditional expressions down to names and literals. Each
level is a plain function of the levels below it; whatever stands inside brackets, behind `lambda` or
behind `else` is read by `Levels.test`, the whole grammar one step further inside. Closing that knot
takes a bound on the number of steps, for which the number of tokens is enough: every step inside
follows at least one token.
-/

set_option autoImplicit false

namespace Lintel.Python

open Lintel.Python.Parser

/-- What a level of the grammar needs from outside: the bound on repetitions, the reader of expressions
inside formatted literals, and the grammar one step further inside. -/
structure Levels where
  fuel : Nat
  fields : Literal.FieldReader
  test : Parser Expr

/-- Whether a token may start an expression that is no starred one. -/
def startsTest : TokenKind → Bool
  | .name _ | .integer _ | .decimal _ | .imaginary _ | .literal .. => true
  | .symbol symbol => ["(", "[", "\x7b", "-", "+", "~", "..."].contains symbol
  | .keyword word => ["not", "lambda", "await", "None", "True", "False"].contains word
  | _ => false

/-- Whether a token may start an expression, starred or not. -/
def startsTestOrStar (kind : TokenKind) : Bool :=
  startsTest kind || kind = .symbol "*"

/-- Takes the first operator of a list that comes next. -/
def takeOperator {α : Type} : List (String × α) → Parser (Option α)
  | [] => pure none
  | (symbol, operator) :: rest => do
    if ← takeSymbol symbol then pure (some operator) else takeOperator rest

/-- The operations of a left-associative level after its first operand. -/
def binaryTail (operators : List (String × BinaryOperator)) (operand : Parser Expr) (start : Nat) :
    Nat → Expr → Parser Expr
  | 0, _ => failure
  | fuel + 1, left => do
    match ← takeOperator operators with
    | none => pure left
    | some operator =>
      let right ← operand
      let extent ← extentFrom start
      binaryTail operators operand start fuel (.binary extent operator left right)

/-- A left-associative level. -/
def binaryLevel (fuel : Nat) (operators : List (String × BinaryOperator)) (operand : Parser Expr) :
    Parser Expr := do
  let start ← startOffset
  let first ← operand
  binaryTail operators operand start fuel first

/-- Operands after the first, each behind a keyword. -/
def boolTail (word : String) (operand : Parser Expr) : Nat → Parser (List Expr)
  | 0 => failure
  | fuel + 1 => do
    if ← takeKeyword word then
      let first ← operand
      let rest ← boolTail word operand fuel
      pure (first :: rest)
    else pure []

/-- A level of `and` or `or`: all operands of one chain make one expression. -/
def boolLevel (fuel : Nat) (word : String) (operator : BoolOperator) (operand : Parser Expr) :
    Parser Expr := do
  let start ← startOffset
  let first ← operand
  match ← boolTail word operand fuel with
  | [] => pure first
  | rest =>
    let extent ← extentFrom start
    pure (.boolOp extent operator (first :: rest))

/-- Adjacent string literals. -/
def literalParts : Nat → Parser (List Literal.Part)
  | 0 => failure
  | fuel + 1 => do
    match (← get).rest with
    | ⟨.literal kind contentStart content, start, stop⟩ :: _ =>
      let _ ← advance
      let rest ← literalParts fuel
      pure (⟨⟨start, stop⟩, kind, contentStart, content⟩ :: rest)
    | _ => pure []

/-- Adjacent string literals as one expression. -/
def literals (levels : Levels) : Parser Expr := do
  let start ← startOffset
  let parts ← literalParts levels.fuel
  let extent ← extentFrom start
  match Literal.combine levels.fields extent parts with
  | some value => pure value
  | none => failure

/-- A number. -/
def number : Parser Expr := do
  let token ← advance
  let extent : Extent := ⟨token.start, token.stop⟩
  match token.kind with
  | .integer value => pure (.constant extent (.integer value))
  | .decimal written => pure (.constant extent (.decimal written))
  | .imaginary written => pure (.constant extent (.imaginary written))
  | _ => failure

/-- Whether a name followed by the given sign comes next. -/
def atNameThen (symbol : String) : Parser Bool := do
  match ← peek with
  | .name _ => return (← peekSecond) = .symbol symbol
  | _ => return false

/-- An expression that may bind a name with `:=`. -/
def namedTest (levels : Levels) : Parser Expr := do
  if ← atNameThen ":=" then
    let start ← startOffset
    let id ← identifier
    let nameExtent ← extentFrom start
    expectSymbol ":="
    let value ← levels.test
    let extent ← extentFrom start
    pure (.named extent (.name nameExtent id) value)
  else levels.test

/-- The parameters read so far, and which kinds of marks have been passed. -/
structure ParameterState where
  parameters : Parameters
  seenSlash : Bool
  seenStar : Bool
  bareStar : Bool

def Parameters.empty : Parameters := ⟨[], [], none, [], none⟩

/-- A parameter with its type hint, where hints are allowed. -/
def parameterName (isTyped : Bool) (hint : Parser Expr) : Parser Parameter := do
  let name ← identifier
  if isTyped && (← atSymbol ":") then
    expectSymbol ":"
    let type ← hint
    pure ⟨name, some type, none⟩
  else pure ⟨name, none, none⟩

/-- A parameter with its type hint and default. -/
def parameterWithDefault (levels : Levels) (isTyped : Bool) : Parser Parameter := do
  let parameter ← parameterName isTyped levels.test
  if ← takeSymbol "=" then
    let value ← levels.test
    pure { parameter with initial := some value }
  else pure parameter

/-- Whether no parameter without default follows one with a default. -/
def defaultsInOrder (parameters : List Parameter) : Bool :=
  ((parameters.dropWhile fun parameter => parameter.initial.isNone).dropWhile
    fun parameter => parameter.initial.isSome).isEmpty

/-- Whether all texts of a list are different. -/
def allDistinct : List String → Bool
  | [] => true
  | text :: rest => !rest.contains text && allDistinct rest

/-- What a parameter list must fulfil as a whole: different names, defaults at the end of the
positional part, and something after a bare star. -/
def ParameterState.isComplete (state : ParameterState) : Bool :=
  let parameters := state.parameters
  allDistinct (parameters.all.map Parameter.name)
    && defaultsInOrder (parameters.positionalOnly ++ parameters.positional)
    && !(state.bareStar && parameters.keywordOnly.isEmpty && parameters.keywordVariadic.isNone)

/-- Reads parameters up to the sign that ends the list, which is left in place. `starHint` reads
the hint of a variadic parameter. -/
def parameterList (levels : Levels) (isTyped : Bool) (starHint : Parser Expr)
    (closing : String) : Nat → ParameterState → Parser ParameterState
  | 0, _ => failure
  | fuel + 1, state => do
    let parameters := state.parameters
    let continue_ (state : ParameterState) : Parser ParameterState := do
      if ← takeSymbol "," then parameterList levels isTyped starHint closing fuel state
      else if ← atSymbol closing then pure state
      else failure
    if ← atSymbol closing then pure state
    else if ← takeSymbol "**" then
      let rest ← match ← peek with
        | .name _ => do
          let parameter ← parameterName isTyped levels.test
          pure (some parameter)
        | _ => pure none
      let _ ← takeSymbol ","
      if ← atSymbol closing then
        pure { state with parameters := { parameters with keywordVariadic := rest } }
      else failure
    else if ← takeSymbol "*" then
      if state.seenStar then failure
      else match ← peek with
        | .name _ =>
          let parameter ← parameterName isTyped starHint
          continue_ { state with
            parameters := { parameters with variadic := some parameter }, seenStar := true }
        | _ => continue_ { state with seenStar := true, bareStar := true }
    else if ← takeSymbol "/" then
      if state.seenSlash || state.seenStar || parameters.positional.isEmpty then failure
      else continue_ { state with
        parameters := { parameters with positionalOnly := parameters.positional, positional := [] },
        seenSlash := true }
    else
      let parameter ← parameterWithDefault levels isTyped
      if state.seenStar then
        continue_ { state with
          parameters := { parameters with keywordOnly := parameters.keywordOnly ++ [parameter] } }
      else
        continue_ { state with
          parameters := { parameters with positional := parameters.positional ++ [parameter] } }

/-- A whole parameter list up to its closing sign. -/
def parameters (levels : Levels) (isTyped : Bool) (starHint : Parser Expr) (closing : String) :
    Parser Parameters := do
  let state ← parameterList levels isTyped starHint closing levels.fuel
    ⟨Parameters.empty, false, false, false⟩
  if state.isComplete then pure state.parameters else failure

/-- A run of `not`, inside which `operand` reads the rest. -/
def notLevel (operand : Parser Expr) : Nat → Parser Expr
  | 0 => failure
  | fuel + 1 => do
    let start ← startOffset
    if ← takeKeyword "not" then
      let value ← notLevel operand fuel
      let extent ← extentFrom start
      pure (.unary extent .not value)
    else operand

/-- Takes a comparison operator. -/
def comparisonOperator : Parser (Option CompareOperator) := do
  if ← takeKeyword "in" then pure (some .isIn)
  else if ← takeKeyword "is" then
    if ← takeKeyword "not" then pure (some .isNot) else pure (some .is)
  else if (← atKeyword "not") && (← peekSecond) = .keyword "in" then
    let _ ← advance
    let _ ← advance
    pure (some .notIn)
  else takeOperator [("==", .equal), ("!=", .notEqual), ("<=", .lessEqual), ("<", .less),
    (">=", .greaterEqual), (">", .greater)]

/-- The links of a chain of comparisons. -/
def comparisonTail (operand : Parser Expr) : Nat → Parser (List Comparison)
  | 0 => failure
  | fuel + 1 => do
    match ← comparisonOperator with
    | none => pure []
    | some operator =>
      let right ← operand
      let rest ← comparisonTail operand fuel
      pure (⟨operator, right⟩ :: rest)

/-- A chain of comparisons. -/
def comparison (fuel : Nat) (operand : Parser Expr) : Parser Expr := do
  let start ← startOffset
  let left ← operand
  match ← comparisonTail operand fuel with
  | [] => pure left
  | links =>
    let extent ← extentFrom start
    pure (.compare extent left links)

/-- Signs before an operand, and the power operator, whose right side may have signs again. -/
def signed (atom : Parser Expr) : Nat → Parser Expr
  | 0 => failure
  | fuel + 1 => do
    let start ← startOffset
    match ← takeOperator [("-", UnaryOperator.minus), ("+", .plus), ("~", .invert)] with
    | some operator =>
      let operand ← signed atom fuel
      let extent ← extentFrom start
      pure (.unary extent operator operand)
    | none =>
      let base ← atom
      if ← takeSymbol "**" then
        let exponent ← signed atom fuel
        let extent ← extentFrom start
        pure (.binary extent .power base exponent)
      else pure base

/-- The level of `|` and all below it, over atoms with their trailers. -/
def bitOrLevel (fuel : Nat) (atom : Parser Expr) : Parser Expr :=
  let factor := signed atom fuel
  let term := binaryLevel fuel
    [("*", .multiply), ("/", .divide), ("//", .floorDivide), ("%", .modulo), ("@", .matrixMultiply)] factor
  let sum := binaryLevel fuel [("+", .add), ("-", .subtract)] term
  let shift := binaryLevel fuel [("<<", .shiftLeft), (">>", .shiftRight)] sum
  let conjunction := binaryLevel fuel [("&", .bitAnd)] shift
  let exclusive := binaryLevel fuel [("^", .bitXor)] conjunction
  binaryLevel fuel [("|", .bitOr)] exclusive

/-- The level of `or` and all below it, over operands of comparisons. -/
def orLevel (fuel : Nat) (operand : Parser Expr) : Parser Expr :=
  let negation := notLevel (comparison fuel operand) fuel
  boolLevel fuel "or" .or (boolLevel fuel "and" .and negation)

/-- A starred expression over the given operand. -/
def starred (operand : Parser Expr) : Parser Expr := do
  let start ← startOffset
  expectSymbol "*"
  let value ← operand
  let extent ← extentFrom start
  pure (.starred extent value)

/-- A starred expression, or what `plain` reads. -/
def orStarred (operand plain : Parser Expr) : Parser Expr := do
  if ← atSymbol "*" then starred operand else plain

/-- One item, or a tuple when there is a comma. -/
def itemOrTuple (starts : TokenKind → Bool) (fuel : Nat) (item : Parser Expr) : Parser Expr := do
  let start ← startOffset
  let (items, trailing) ← commaList starts fuel item
  match items, trailing with
  | [single], false => pure single
  | _, _ =>
    let extent ← extentFrom start
    pure (.tuple extent items)

/-- The conditions of a comprehension clause. -/
def clauseConditions (condition : Parser Expr) : Nat → Parser (List Expr)
  | 0 => failure
  | fuel + 1 => do
    if ← takeKeyword "if" then
      let first ← condition
      let rest ← clauseConditions condition fuel
      pure (first :: rest)
    else pure []

/-- The clauses of a comprehension, none or more. `operand` reads targets, `condition` sources and
conditions. -/
def clauses (operand condition : Parser Expr) (loops : Nat) : Nat → Parser (List Clause)
  | 0 => failure
  | fuel + 1 => do
    let isAsync ← takeKeyword "async"
    if ← takeKeyword "for" then
      let target ← itemOrTuple startsTestOrStar loops (orStarred operand operand)
      expectKeyword "in"
      let source ← condition
      let conditions ← clauseConditions condition loops
      let rest ← clauses operand condition loops fuel
      pure (⟨isAsync, target, source, conditions⟩ :: rest)
    else if isAsync then failure
    else pure []

/-- Whether a comprehension clause comes next. -/
def atClause : Parser Bool := do
  return (← atKeyword "for") || (← atKeyword "async")

/-- A call argument as it is written. -/
inductive Argument where
  | positional (value : Expr)
  | keyword (keyword : Keyword)

/-- Whether an expression is a starred one. -/
def Expr.isStarred : Expr → Bool
  | .starred .. => true
  | _ => false

/-- Sorts the arguments of a call. A keyword comes once; after a keyword only starred positional
arguments may follow, and after a spread dictionary none. -/
def sortArguments (seen : List String) (seenKeyword seenSpread : Bool) :
    List Argument → Option (List Expr × List Keyword)
  | [] => some ([], [])
  | .positional value :: rest =>
    if (seenKeyword && !value.isStarred) || seenSpread then none
    else (sortArguments seen seenKeyword seenSpread rest).map fun (values, keywords) =>
      (value :: values, keywords)
  | .keyword ⟨some name, value⟩ :: rest =>
    if seen.contains name then none
    else (sortArguments (name :: seen) true seenSpread rest).map fun (values, keywords) =>
      (values, ⟨some name, value⟩ :: keywords)
  | .keyword ⟨none, value⟩ :: rest =>
    (sortArguments seen true true rest).map fun (values, keywords) =>
      (values, ⟨none, value⟩ :: keywords)

/-- One argument of a call. -/
def argument (levels : Levels) (operand condition : Parser Expr) : Parser Argument := do
  let start ← startOffset
  if ← takeSymbol "*" then
    let value ← levels.test
    let extent ← extentFrom start
    pure (.positional (.starred extent value))
  else if ← takeSymbol "**" then
    let value ← levels.test
    pure (.keyword ⟨none, value⟩)
  else if ← atNameThen "=" then
    let name ← identifier
    expectSymbol "="
    let value ← levels.test
    pure (.keyword ⟨some name, value⟩)
  else
    let value ← namedTest levels
    if ← atClause then
      let clauses ← clauses operand condition levels.fuel levels.fuel
      let extent ← extentFrom start
      pure (.positional (.generator extent value clauses))
    else pure (.positional value)

/-- The arguments of a call up to the closing parenthesis, which is taken. -/
def arguments (levels : Levels) (operand condition : Parser Expr) :
    Parser (List Expr × List Keyword) := do
  let written ← untilClosing ")" (argument levels operand condition) levels.fuel
  match sortArguments [] false false written with
  | some sorted => pure sorted
  | none => failure

/-- An optional part of a slice. -/
def sliceBound (levels : Levels) : Parser (Option Expr) := do
  if startsTest (← peek) then
    let value ← levels.test
    pure (some value)
  else pure none

/-- The rest of a slice from its first colon on. -/
def sliceFrom (levels : Levels) (start : Nat) (lower : Option Expr) : Parser Expr := do
  expectSymbol ":"
  let upper ← sliceBound levels
  let step ← if ← takeSymbol ":" then sliceBound levels else pure none
  let extent ← extentFrom start
  pure (.slice extent lower upper step)

/-- One index of a subscript: an expression or a slice. -/
def subscriptItem (levels : Levels) (operand : Parser Expr) : Parser Expr := do
  let start ← startOffset
  if ← atSymbol ":" then sliceFrom levels start none
  else if ← atSymbol "*" then starred operand
  else if ← atNameThen ":=" then namedTest levels
  else
    let value ← levels.test
    if ← atSymbol ":" then sliceFrom levels start (some value) else pure value

/-- Calls, subscripts and attributes behind an atom. -/
def trailers (levels : Levels) (operand condition : Parser Expr) (start : Nat) :
    Nat → Expr → Parser Expr
  | 0, _ => failure
  | fuel + 1, value => do
    if ← takeSymbol "(" then
      let (values, keywords) ← arguments levels operand condition
      let extent ← extentFrom start
      trailers levels operand condition start fuel (.call extent value values keywords)
    else if ← takeSymbol "[" then
      let index ← itemOrTuple (fun kind => startsTestOrStar kind || kind = .symbol ":") levels.fuel
        (subscriptItem levels operand)
      expectSymbol "]"
      let extent ← extentFrom start
      trailers levels operand condition start fuel (.subscript extent value index)
    else if ← takeSymbol "." then
      let name ← identifier
      let extent ← extentFrom start
      trailers levels operand condition start fuel (.attr extent value name)
    else pure value

/-- `yield` and what it gives out. -/
def yieldExpr (levels : Levels) (list : Parser Expr) : Parser Expr := do
  let start ← startOffset
  expectKeyword "yield"
  if ← takeKeyword "from" then
    let value ← levels.test
    let extent ← extentFrom start
    pure (.yieldFrom extent value)
  else if startsTestOrStar (← peek) then
    let value ← list
    let extent ← extentFrom start
    pure (.yield extent (some value))
  else
    let extent ← extentFrom start
    pure (.yield extent none)

/-- What follows an opening parenthesis that starts an atom. -/
def parenthesized (levels : Levels) (operand condition : Parser Expr) (start : Nat) :
    Parser Expr := do
  if ← takeSymbol ")" then
    let extent ← extentFrom start
    pure (.tuple extent [])
  else if ← atKeyword "yield" then
    let value ← yieldExpr levels
      (itemOrTuple startsTestOrStar levels.fuel (orStarred operand levels.test))
    expectSymbol ")"
    pure value
  else
    let item := orStarred operand (namedTest levels)
    let first ← item
    if (← atClause) && !first.isStarred then
      let clauses ← clauses operand condition levels.fuel levels.fuel
      expectSymbol ")"
      let extent ← extentFrom start
      pure (.generator extent first clauses)
    else
      let (rest, trailing) ← moreOrComma startsTestOrStar item levels.fuel
      expectSymbol ")"
      if rest.isEmpty && !trailing then
        if first.isStarred then failure else pure first
      else
        let extent ← extentFrom start
        pure (.tuple extent (first :: rest))

/-- What follows an opening square bracket that starts an atom. -/
def bracketed (levels : Levels) (operand condition : Parser Expr) (start : Nat) : Parser Expr := do
  if ← takeSymbol "]" then
    let extent ← extentFrom start
    pure (.list extent [])
  else
    let item := orStarred operand (namedTest levels)
    let first ← item
    if ← atClause then
      let clauses ← clauses operand condition levels.fuel levels.fuel
      expectSymbol "]"
      let extent ← extentFrom start
      pure (.listComp extent first clauses)
    else
      let (rest, _) ← moreOrComma startsTestOrStar item levels.fuel
      expectSymbol "]"
      let extent ← extentFrom start
      pure (.list extent (first :: rest))

/-- An entry of a dictionary display. -/
def dictItem (levels : Levels) (operand : Parser Expr) : Parser DictItem := do
  if ← takeSymbol "**" then
    let value ← operand
    pure ⟨none, value⟩
  else
    let key ← levels.test
    expectSymbol ":"
    let value ← levels.test
    pure ⟨some key, value⟩

/-- The rest of a set display after its first element. -/
def setFrom (levels : Levels) (operand condition : Parser Expr) (start : Nat) (first : Expr) :
    Parser Expr := do
  if (← atClause) && !first.isStarred then
    let clauses ← clauses operand condition levels.fuel levels.fuel
    expectSymbol "\x7d"
    let extent ← extentFrom start
    pure (.setComp extent first clauses)
  else
    let (rest, _) ← moreOrComma startsTestOrStar (orStarred operand (namedTest levels)) levels.fuel
    expectSymbol "\x7d"
    let extent ← extentFrom start
    pure (.set extent (first :: rest))

/-- What follows an opening brace: a dictionary or a set. -/
def braced (levels : Levels) (operand condition : Parser Expr) (start : Nat) : Parser Expr := do
  let startsItem (kind : TokenKind) : Bool := startsTest kind || kind = .symbol "**"
  if ← takeSymbol "\x7d" then
    let extent ← extentFrom start
    pure (.dict extent [])
  else if ← atSymbol "**" then
    let (items, _) ← commaList startsItem levels.fuel (dictItem levels operand)
    expectSymbol "\x7d"
    let extent ← extentFrom start
    pure (.dict extent items)
  else if ← atSymbol "*" then
    let first ← starred operand
    setFrom levels operand condition start first
  else if ← atNameThen ":=" then
    let first ← namedTest levels
    setFrom levels operand condition start first
  else
    let first ← levels.test
    if ← takeSymbol ":" then
      let value ← levels.test
      if ← atClause then
        let clauses ← clauses operand condition levels.fuel levels.fuel
        expectSymbol "\x7d"
        let extent ← extentFrom start
        pure (.dictComp extent first value clauses)
      else
        let (rest, _) ← moreOrComma startsItem (dictItem levels operand) levels.fuel
        expectSymbol "\x7d"
        let extent ← extentFrom start
        pure (.dict extent (⟨some first, value⟩ :: rest))
    else setFrom levels operand condition start first

/-- A name, a literal, or something in brackets. -/
def atom (levels : Levels) (operand condition : Parser Expr) : Parser Expr := do
  let start ← startOffset
  let constant (value : Constant) : Parser Expr := do
    let _ ← advance
    let extent ← extentFrom start
    pure (.constant extent value)
  match ← peek with
  | .name id =>
    let _ ← advance
    let extent ← extentFrom start
    pure (.name extent id)
  | .integer _ | .decimal _ | .imaginary _ => number
  | .literal .. => literals levels
  | .keyword "None" => constant .none
  | .keyword "True" => constant (.bool true)
  | .keyword "False" => constant (.bool false)
  | .symbol "..." => constant .ellipsis
  | .symbol "(" =>
    let _ ← advance
    parenthesized levels operand condition start
  | .symbol "[" =>
    let _ ← advance
    bracketed levels operand condition start
  | .symbol "\x7b" =>
    let _ ← advance
    braced levels operand condition start
  | _ => failure

/-- An atom with its trailers, perhaps awaited. -/
def primary (levels : Levels) (operand condition : Parser Expr) : Parser Expr := do
  let awaitStart ← startOffset
  let isAwaited ← takeKeyword "await"
  let start ← startOffset
  let first ← atom levels operand condition
  let value ← trailers levels operand condition start levels.fuel first
  if isAwaited then
    let extent ← extentFrom awaitStart
    pure (.await extent value)
  else pure value

/-- The grammar of one step: operands of comparisons, conditions without `if`, and whole
expressions. -/
structure Step where
  operand : Parser Expr
  condition : Parser Expr
  test : Parser Expr

/-- A `lambda` from its keyword on. -/
def lambdaExpr (levels : Levels) : Parser Expr := do
  let start ← startOffset
  expectKeyword "lambda"
  let parameters ← parameters levels false failure ":"
  expectSymbol ":"
  let body ← levels.test
  let extent ← extentFrom start
  pure (.lambda extent parameters body)

/-- A conditional expression, or what stands in its place. -/
def conditional (levels : Levels) (condition : Parser Expr) : Parser Expr := do
  if ← atKeyword "lambda" then lambdaExpr levels
  else
    let start ← startOffset
    let body ← condition
    if ← takeKeyword "if" then
      let test ← condition
      expectKeyword "else"
      let orElse ← levels.test
      let extent ← extentFrom start
      pure (.conditional extent test body orElse)
    else pure body

/-- The grammar in which `inside` reads what stands one step further inside. -/
def stepOver (fields : Literal.FieldReader) (fuel : Nat) (inside : Step) : Step :=
  let levels : Levels := ⟨fuel, fields, inside.test⟩
  let operand := bitOrLevel fuel (primary levels inside.operand inside.condition)
  let condition := orLevel fuel operand
  ⟨operand, condition, conditional levels condition⟩

/-- The grammar to a given depth. -/
def grammar (fields : Literal.FieldReader) : Nat → Step
  | 0 => ⟨failure, failure, failure⟩
  | depth + 1 => stepOver fields depth (grammar fields depth)

/-- Reads a bracketed expression that stands at byte `offset`; `depth` bounds how deep formatted
literals nest in one another. -/
def bracketedText : Nat → Nat → List Char → Option Expr
  | 0, _, _ => none
  | depth + 1, offset, text => do
    let tokens ← Lexer.tokensFrom (offset - 1) ('(' :: text ++ [')'])
    let step := grammar (bracketedText depth) (tokens.length + 1)
    let read : Parser Expr := do
      let value ← itemOrTuple startsTestOrStar tokens.length (orStarred step.operand step.test)
      let _ ← take .newline
      expect .endOfText
      pure value
    let (value, _) ← read.run ⟨tokens, offset⟩
    some value

end Lintel.Python
