import Lintel.Python.PatternGrammar

/-!
# Parsing statements

Simple statements share a line, compound statements open blocks. What a statement assigns to or deletes
is any expression: whether it can be a target is not asked here.
-/

set_option autoImplicit false

namespace Lintel.Python

open Lintel.Python.Parser

/-- The expression parsers that statements use. -/
structure Expressions where
  levels : Levels
  operand : Parser Expr
  condition : Parser Expr

namespace Expressions

variable (expressions : Expressions)

def fuel : Nat := expressions.levels.fuel

/-- One expression. -/
def test : Parser Expr := expressions.levels.test

/-- An expression that may bind a name. -/
def named : Parser Expr := namedTest expressions.levels

/-- An expression or a tuple without parentheses; items may be starred. -/
def list : Parser Expr :=
  itemOrTuple startsTestOrStar expressions.fuel (orStarred expressions.operand expressions.test)

/-- The target of a loop. -/
def target : Parser Expr :=
  itemOrTuple startsTestOrStar expressions.fuel (orStarred expressions.operand expressions.operand)

/-- What may stand right of an equals sign. -/
def listOrYield : Parser Expr := do
  if ← atKeyword "yield" then yieldExpr expressions.levels expressions.list else expressions.list

end Expressions

/-- Signs that compute and assign. -/
def augmentedOperators : List (String × BinaryOperator) :=
  [("+=", .add), ("-=", .subtract), ("*=", .multiply), ("@=", .matrixMultiply), ("/=", .divide),
   ("%=", .modulo), ("&=", .bitAnd), ("|=", .bitOr), ("^=", .bitXor), ("<<=", .shiftLeft),
   (">>=", .shiftRight), ("**=", .power), ("//=", .floorDivide)]

/-- The right sides of a chain of assignments. -/
def assignmentTail (expressions : Expressions) : Nat → Parser (List Expr)
  | 0 => failure
  | fuel + 1 => do
    if ← takeSymbol "=" then
      let first ← expressions.listOrYield
      let rest ← assignmentTail expressions fuel
      pure (first :: rest)
    else pure []

/-- An expression on its own, an assignment, or an hint. Only a single expression that is not
starred takes an hint. -/
def expressionStatement (expressions : Expressions) : Parser Stmt := do
  let start ← startOffset
  let (items, trailing) ← commaList startsTestOrStar expressions.fuel
    (orStarred expressions.operand expressions.test)
  let isSingle := items.length == 1 && !trailing
  let tupleExtent ← extentFrom start
  let first := match items, trailing with
    | [single], false => single
    | _, _ => .tuple tupleExtent items
  if isSingle && !first.isStarred && (← atSymbol ":") then
    expectSymbol ":"
    let hint ← expressions.test
    let value ← if ← takeSymbol "=" then do
        let value ← expressions.listOrYield
        pure (some value)
      else pure none
    let extent ← extentFrom start
    pure (.annotatedAssign extent first hint value)
  else match ← takeOperator augmentedOperators with
    | some operator =>
      let value ← expressions.listOrYield
      let extent ← extentFrom start
      pure (.augmentedAssign extent first operator value)
    | none =>
      let values ← assignmentTail expressions expressions.fuel
      let extent ← extentFrom start
      match values.getLast? with
      | none => pure (.expression extent first)
      | some value => pure (.assign extent (first :: values.dropLast) value)

/-- The texts of a dotted name, joined again. -/
def modulePath (fuel : Nat) : Parser String := do
  let names ← separated "." fuel identifier
  pure (".".intercalate names)

/-- A name that an import takes in. -/
def importAlias (name : Parser String) : Parser Alias := do
  let name ← name
  if ← takeKeyword "as" then
    let newName ← identifier
    pure ⟨name, some newName⟩
  else pure ⟨name, none⟩

/-- The dots before a relative import. -/
def leadingDots : Nat → Parser Nat
  | 0 => failure
  | fuel + 1 => do
    if ← takeSymbol "." then return (← leadingDots fuel) + 1
    else if ← takeSymbol "..." then return (← leadingDots fuel) + 3
    else pure 0

/-- The names after `import` in a `from` statement. -/
def importedNames (fuel : Nat) : Parser (List Alias) := do
  if ← takeSymbol "*" then pure [⟨"*", none⟩]
  else if ← takeSymbol "(" then
    let first ← importAlias identifier
    let rest ← if ← takeSymbol "," then untilClosing ")" (importAlias identifier) fuel
      else do
        expectSymbol ")"
        pure []
    pure (first :: rest)
  else separated "," fuel (importAlias identifier)

/-- A `from` statement from its keyword on. -/
def importFromStatement (fuel : Nat) : Parser Stmt := do
  let start ← startOffset
  expectKeyword "from"
  let level ← leadingDots fuel
  let source ← match ← peek with
    | .name _ => do
      let path ← modulePath fuel
      pure (some path)
    | _ => pure none
  if level = 0 && source.isNone then failure
  else
    expectKeyword "import"
    let names ← importedNames fuel
    let extent ← extentFrom start
    pure (.importFrom extent level source names)

/-- An expression, if one comes next. -/
def optionalExpr (reader : Parser Expr) : Parser (Option Expr) := do
  if startsTestOrStar (← peek) then
    let value ← reader
    pure (some value)
  else pure none

/-- An expression behind a keyword, if the keyword comes next. -/
def exprAfterKeyword (word : String) (reader : Parser Expr) : Parser (Option Expr) := do
  if ← takeKeyword word then
    let value ← reader
    pure (some value)
  else pure none

/-- A type parameter. -/
def typeParameter (expressions : Expressions) : Parser TypeParameter := do
  if ← takeSymbol "**" then
    let name ← identifier
    pure (.keywordVariadic name)
  else if ← takeSymbol "*" then
    let name ← identifier
    pure (.variadic name)
  else
    let name ← identifier
    if ← takeSymbol ":" then
      let bound ← expressions.test
      pure (.plain name (some bound))
    else pure (.plain name none)

/-- Type parameters in square brackets, if a bracket comes next. -/
def typeParameters (expressions : Expressions) : Parser (List TypeParameter) := do
  if ← takeSymbol "[" then
    let first ← typeParameter expressions
    let rest ← if ← takeSymbol "," then
        untilClosing "]" (typeParameter expressions) expressions.fuel
      else do
        expectSymbol "]"
        pure []
    pure (first :: rest)
  else pure []

/-- A simple statement. -/
def simpleStatement (expressions : Expressions) : Parser Stmt := do
  let start ← startOffset
  match ← peek with
  | .keyword "pass" =>
    let _ ← advance
    return .pass (← extentFrom start)
  | .keyword "break" =>
    let _ ← advance
    return .breakLoop (← extentFrom start)
  | .keyword "continue" =>
    let _ ← advance
    return .continueLoop (← extentFrom start)
  | .keyword "del" =>
    let _ ← advance
    let (targets, _) ← commaList startsTestOrStar expressions.fuel
      (orStarred expressions.operand expressions.operand)
    return .delete (← extentFrom start) targets
  | .keyword "return" =>
    let _ ← advance
    let value ← optionalExpr expressions.list
    return .returnValue (← extentFrom start) value
  | .keyword "raise" =>
    let _ ← advance
    if startsTest (← peek) then
      let exception ← expressions.test
      let cause ← exprAfterKeyword "from" expressions.test
      return .raise (← extentFrom start) (some exception) cause
    else return .raise (← extentFrom start) none none
  | .keyword "yield" =>
    let value ← yieldExpr expressions.levels expressions.list
    return .expression (← extentFrom start) value
  | .keyword "import" =>
    let _ ← advance
    let names ← separated "," expressions.fuel (importAlias (modulePath expressions.fuel))
    return .importModules (← extentFrom start) names
  | .keyword "from" => importFromStatement expressions.fuel
  | .keyword "global" =>
    let _ ← advance
    let names ← separated "," expressions.fuel identifier
    return .globalNames (← extentFrom start) names
  | .keyword "nonlocal" =>
    let _ ← advance
    let names ← separated "," expressions.fuel identifier
    return .nonlocalNames (← extentFrom start) names
  | .keyword "assert" =>
    let _ ← advance
    let test ← expressions.test
    let message ← if ← takeSymbol "," then do
        let message ← expressions.test
        pure (some message)
      else pure none
    return .assertion (← extentFrom start) test message
  | .keyword "type" =>
    let _ ← advance
    let nameStart ← startOffset
    let id ← identifier
    let name := .name (← extentFrom nameStart) id
    let declared ← typeParameters expressions
    expectSymbol "="
    let value ← expressions.test
    return .typeAlias (← extentFrom start) name declared value
  | _ => expressionStatement expressions

/-- The simple statements of one line, with its end. -/
def simpleLine (expressions : Expressions) : Nat → Parser (List Stmt)
  | 0 => failure
  | fuel + 1 => do
    let first ← simpleStatement expressions
    if ← takeSymbol ";" then
      if ← take .newline then pure [first]
      else
        let rest ← simpleLine expressions fuel
        pure (first :: rest)
    else
      expect .newline
      pure [first]

/-- The end of a block that starts at `start`. -/
def blockExtent (start : Nat) (blocks : List (List Stmt)) : Extent :=
  match blocks.flatten.getLast? with
  | some last => ⟨start, last.extent.stop⟩
  | none => ⟨start, start⟩

/-- A block behind a colon. -/
def colonBlock (suite : Parser (List Stmt)) : Parser (List Stmt) := do
  expectSymbol ":"
  suite

/-- A block behind a keyword and a colon, if the keyword comes next. -/
def optionalBlock (word : String) (suite : Parser (List Stmt)) : Parser (List Stmt) := do
  if ← takeKeyword word then colonBlock suite else pure []

/-- An `if` or `elif` from its condition on. -/
def ifFrom (expressions : Expressions) (suite : Parser (List Stmt)) : Nat → Nat → Parser Stmt
  | 0, _ => failure
  | fuel + 1, start => do
    let test ← expressions.named
    let body ← colonBlock suite
    let nextStart ← startOffset
    let orElse ← if ← takeKeyword "elif" then do
        let next ← ifFrom expressions suite fuel nextStart
        pure [next]
      else optionalBlock "else" suite
    pure (.ifElse (blockExtent start [body, orElse]) test body orElse)

/-- A `for` loop from its keyword on. -/
def forFrom (expressions : Expressions) (suite : Parser (List Stmt)) (start : Nat) (isAsync : Bool) :
    Parser Stmt := do
  expectKeyword "for"
  let target ← expressions.target
  expectKeyword "in"
  let source ← expressions.list
  let body ← colonBlock suite
  let orElse ← optionalBlock "else" suite
  pure (.forLoop (blockExtent start [body, orElse]) isAsync target source body orElse)

/-- An item of a `with` statement. -/
def withItem (expressions : Expressions) : Parser WithItem := do
  let context ← expressions.test
  let target ← exprAfterKeyword "as" expressions.operand
  pure ⟨context, target⟩

/-- The items of a `with` statement in parentheses, up to the colon, which is left in place. -/
def bracketedItems (expressions : Expressions) : Parser (List WithItem) := do
  expectSymbol "("
  let first ← withItem expressions
  let rest ← if ← takeSymbol "," then
      untilClosing ")" (withItem expressions) expressions.fuel
    else do
      expectSymbol ")"
      pure []
  if ← atSymbol ":" then pure (first :: rest) else failure

/-- The items of a `with` statement. Parentheses around all of them belong to the statement; where they
cannot be read that way they belong to the first item. -/
def withItems (expressions : Expressions) : Parser (List WithItem) :=
  bracketedItems expressions <|> separated "," expressions.fuel (withItem expressions)

/-- A `with` statement from its keyword on. -/
def withFrom (expressions : Expressions) (suite : Parser (List Stmt)) (start : Nat)
    (isAsync : Bool) : Parser Stmt := do
  expectKeyword "with"
  let items ← withItems expressions
  let body ← colonBlock suite
  pure (.withBlock (blockExtent start [body]) isAsync items body)

/-- The clauses of a `try` statement that handle exceptions, all of one form. -/
def handlers (expressions : Expressions) (suite : Parser (List Stmt)) (isStar : Bool) :
    Nat → Parser (List Handler)
  | 0 => failure
  | fuel + 1 => do
    let start ← startOffset
    if ← takeKeyword "except" then
      if (← takeSymbol "*") != isStar then failure
      else
        let type ← if isStar || startsTest (← peek) then do
            let type ← expressions.test
            pure (some type)
          else pure none
        let name ← if type.isSome && (← atKeyword "as") then do
            expectKeyword "as"
            let name ← identifier
            pure (some name)
          else pure none
        let body ← colonBlock suite
        let rest ← handlers expressions suite isStar fuel
        pure (⟨blockExtent start [body], type, name, body⟩ :: rest)
    else pure []

/-- A `try` statement. It handles exceptions or has a final block, or both. -/
def tryStatement (expressions : Expressions) (suite : Parser (List Stmt)) : Parser Stmt := do
  let start ← startOffset
  expectKeyword "try"
  let body ← colonBlock suite
  let second ← peekSecond
  let isStar := (← atKeyword "except") && second = .symbol "*"
  let caught ← handlers expressions suite isStar expressions.fuel
  let orElse ← if caught.isEmpty then pure [] else optionalBlock "else" suite
  let final ← optionalBlock "finally" suite
  if caught.isEmpty && final.isEmpty then failure
  else
    let stop := match final.getLast?, orElse.getLast?, caught.getLast? with
      | some last, _, _ => last.extent.stop
      | none, some last, _ => last.extent.stop
      | none, none, some last => last.extent.stop
      | none, none, none => start
    pure (.tryBlock ⟨start, stop⟩ isStar body caught orElse final)

/-- A function from its keyword on. -/
def functionFrom (expressions : Expressions) (suite : Parser (List Stmt)) (decorators : List Expr)
    (start : Nat) (isAsync : Bool) : Parser Stmt := do
  expectKeyword "def"
  let name ← identifier
  let declared ← typeParameters expressions
  expectSymbol "("
  let taken ← parameters expressions.levels true
    (orStarred expressions.operand expressions.test) ")"
  expectSymbol ")"
  let returns ← if ← takeSymbol "->" then do
      let type ← expressions.test
      pure (some type)
    else pure none
  let body ← colonBlock suite
  pure (.functionDef (blockExtent start [body]) isAsync decorators name declared taken returns body)

/-- A class from its keyword on. -/
def classFrom (expressions : Expressions) (suite : Parser (List Stmt)) (decorators : List Expr)
    (start : Nat) : Parser Stmt := do
  expectKeyword "class"
  let name ← identifier
  let declared ← typeParameters expressions
  let (bases, keywords) ← if ← takeSymbol "(" then
      arguments expressions.levels expressions.operand expressions.condition
    else pure ([], [])
  let body ← colonBlock suite
  pure (.classDef (blockExtent start [body]) decorators name declared bases keywords body)

/-- The decorators of a definition, each on a line of its own. -/
def decorators (expressions : Expressions) : Nat → Parser (List Expr)
  | 0 => failure
  | fuel + 1 => do
    if ← takeSymbol "@" then
      let first ← expressions.named
      expect .newline
      let rest ← decorators expressions fuel
      pure (first :: rest)
    else pure []

/-- A definition with its decorators. The definition starts behind them. -/
def decorated (expressions : Expressions) (suite : Parser (List Stmt)) : Parser Stmt := do
  let applied ← decorators expressions expressions.fuel
  let start ← startOffset
  if ← atKeyword "class" then classFrom expressions suite applied start
  else
    let isAsync ← takeKeyword "async"
    functionFrom expressions suite applied start isAsync

/-- The clauses of a `match` statement up to the end of its block, which is taken. -/
def matchClauses (expressions : Expressions) (suite : Parser (List Stmt)) : Nat → Parser (List Case)
  | 0 => failure
  | fuel + 1 => do
    expectKeyword "case"
    let pattern ← casePattern expressions.levels
    let guard ← exprAfterKeyword "if" expressions.named
    let body ← colonBlock suite
    if ← take .dedent then pure [⟨pattern, guard, body⟩]
    else
      let rest ← matchClauses expressions suite fuel
      pure (⟨pattern, guard, body⟩ :: rest)

/-- A `match` statement. -/
def matchStatement (expressions : Expressions) (suite : Parser (List Stmt)) : Parser Stmt := do
  let start ← startOffset
  expectKeyword "match"
  let subject ← itemOrTuple startsTestOrStar expressions.fuel
    (orStarred expressions.operand expressions.named)
  expectSymbol ":"
  expect .newline
  expect .indent
  let cases ← matchClauses expressions suite expressions.fuel
  pure (.matchCases (blockExtent start (cases.map Case.body)) subject cases)

/-- A statement that opens a block, or the simple statements of a line. -/
def statements (expressions : Expressions) (suite : Parser (List Stmt)) : Parser (List Stmt) := do
  let start ← startOffset
  let single (statement : Parser Stmt) : Parser (List Stmt) := do return [← statement]
  match ← peek with
  | .keyword "if" =>
    let _ ← advance
    single (ifFrom expressions suite expressions.fuel start)
  | .keyword "while" =>
    let _ ← advance
    let test ← expressions.named
    let body ← colonBlock suite
    let orElse ← optionalBlock "else" suite
    pure [.whileLoop (blockExtent start [body, orElse]) test body orElse]
  | .keyword "for" => single (forFrom expressions suite start false)
  | .keyword "with" => single (withFrom expressions suite start false)
  | .keyword "try" => single (tryStatement expressions suite)
  | .keyword "match" => single (matchStatement expressions suite)
  | .keyword "def" | .keyword "class" | .symbol "@" => single (decorated expressions suite)
  | .keyword "async" =>
    match ← peekSecond with
    | .keyword "for" =>
      let _ ← advance
      single (forFrom expressions suite start true)
    | .keyword "with" =>
      let _ ← advance
      single (withFrom expressions suite start true)
    | _ => single (decorated expressions suite)
  | _ => simpleLine expressions expressions.fuel

/-- The statements of a block up to its end, which is taken; at least one. -/
def blockStatements (one : Parser (List Stmt)) : Nat → Parser (List Stmt)
  | 0 => failure
  | fuel + 1 => do
    let first ← one
    if ← take .dedent then pure first
    else
      let rest ← blockStatements one fuel
      pure (first ++ rest)

/-- A block: an indented one on the lines that follow, or simple statements on the same line. `depth`
bounds the nesting of blocks. -/
def suite (expressions : Expressions) : Nat → Parser (List Stmt)
  | 0 => failure
  | depth + 1 => do
    if ← take .newline then
      expect .indent
      blockStatements (statements expressions (suite expressions depth)) expressions.fuel
    else simpleLine expressions expressions.fuel

/-- The statements of a module up to the end of the text. A line may be empty. -/
def moduleStatements (one : Parser (List Stmt)) : Nat → Parser (List Stmt)
  | 0 => failure
  | fuel + 1 => do
    if ← take .endOfText then pure []
    else if ← take .newline then moduleStatements one fuel
    else
      let first ← one
      let rest ← moduleStatements one fuel
      pure (first ++ rest)

/-- Parses a module. -/
def parseModule? (source : List Char) : Option Module := do
  let tokens ← Lexer.tokens source
  let fuel := tokens.length + 1
  let fields := bracketedText (source.length + 1)
  let step := grammar fields fuel
  let expressions : Expressions := ⟨⟨fuel, fields, step.test⟩, step.operand, step.condition⟩
  let one := statements expressions (suite expressions fuel)
  let (body, _) ← (moduleStatements one fuel).run ⟨tokens, 0⟩
  some ⟨body⟩

end Lintel.Python
