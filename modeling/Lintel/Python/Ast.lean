/-!
# The shape of a Python module

Statements, expressions, handlers and patterns with their places in the source. Everything a module
says is kept, annotations and type parameters included, whether or not an analysis looks at it.
Parentheses leave no trace except around a tuple.
-/

set_option autoImplicit false

namespace Lintel.Python

/-- A place in the source: the byte offset of the first character and of the end. -/
structure Extent where
  start : Nat
  stop : Nat
deriving Repr, DecidableEq, Inhabited

/-- A literal value. Fractional and imaginary numbers are kept as they are written. -/
inductive Constant where
  | none
  | bool (value : Bool)
  | ellipsis
  | text (value : List Char)
  | bytes (value : List Char)
  | integer (value : Nat)
  | decimal (written : List Char)
  | imaginary (written : List Char)
deriving Repr, DecidableEq

inductive BoolOperator where
  | and
  | or
deriving Repr, DecidableEq

inductive BinaryOperator where
  | add | subtract | multiply | matrixMultiply | divide | modulo | power | shiftLeft | shiftRight
  | bitOr | bitXor | bitAnd | floorDivide
deriving Repr, DecidableEq

inductive UnaryOperator where
  | invert | not | plus | minus
deriving Repr, DecidableEq

inductive CompareOperator where
  | equal | notEqual | less | lessEqual | greater | greaterEqual | is | isNot | isIn | notIn
deriving Repr, DecidableEq

mutual

/-- An expression. -/
inductive Expr where
  | boolOp (extent : Extent) (operator : BoolOperator) (values : List Expr)
  | named (extent : Extent) (target value : Expr)
  | binary (extent : Extent) (operator : BinaryOperator) (left right : Expr)
  | unary (extent : Extent) (operator : UnaryOperator) (operand : Expr)
  | lambda (extent : Extent) (parameters : Parameters) (body : Expr)
  | conditional (extent : Extent) (test body orElse : Expr)
  | dict (extent : Extent) (items : List DictItem)
  | set (extent : Extent) (elements : List Expr)
  | listComp (extent : Extent) (element : Expr) (clauses : List Clause)
  | setComp (extent : Extent) (element : Expr) (clauses : List Clause)
  | dictComp (extent : Extent) (key value : Expr) (clauses : List Clause)
  | generator (extent : Extent) (element : Expr) (clauses : List Clause)
  | await (extent : Extent) (value : Expr)
  | yield (extent : Extent) (value : Option Expr)
  | yieldFrom (extent : Extent) (value : Expr)
  | compare (extent : Extent) (left : Expr) (rest : List Comparison)
  | call (extent : Extent) (function : Expr) (arguments : List Expr) (keywords : List Keyword)
  | formattedValue (extent : Extent) (value : Expr) (format : Option Expr)
  | joinedText (extent : Extent) (pieces : List Expr)
  | constant (extent : Extent) (value : Constant)
  | attr (extent : Extent) (value : Expr) (name : String)
  | subscript (extent : Extent) (value index : Expr)
  | starred (extent : Extent) (value : Expr)
  | name (extent : Extent) (id : String)
  | list (extent : Extent) (elements : List Expr)
  | tuple (extent : Extent) (elements : List Expr)
  | slice (extent : Extent) (lower upper step : Option Expr)

/-- An entry of a dictionary display; an entry without key spreads another dictionary. -/
structure DictItem where
  key : Option Expr
  value : Expr

/-- A `for` clause of a comprehension with its conditions. -/
structure Clause where
  isAsync : Bool
  target : Expr
  source : Expr
  conditions : List Expr

/-- One link of a chain of comparisons. -/
structure Comparison where
  operator : CompareOperator
  right : Expr

/-- A keyword argument; one without name spreads a dictionary. -/
structure Keyword where
  name : Option String
  value : Expr

/-- A parameter with what it declares. -/
structure Parameter where
  name : String
  hint : Option Expr
  initial : Option Expr

/-- The parameters of a function, by the way in which they take arguments. -/
structure Parameters where
  positionalOnly : List Parameter
  positional : List Parameter
  variadic : Option Parameter
  keywordOnly : List Parameter
  keywordVariadic : Option Parameter

end

/-- A type parameter of a function, a class or an alias. -/
inductive TypeParameter where
  | plain (name : String) (bound : Option Expr)
  | variadic (name : String)
  | keywordVariadic (name : String)

mutual

/-- A pattern of a `case`. -/
inductive Pattern where
  | value (value : Expr)
  | singleton (value : Constant)
  | sequence (items : List Pattern)
  | mapping (items : List MappingItem) (rest : Option String)
  | classPattern (name : Expr) (arguments : List Pattern) (keywords : List String)
      (keywordValues : List Pattern)
  | star (name : Option String)
  | capture (inner : Option Pattern) (name : Option String)
  | alternatives (items : List Pattern)

/-- An entry of a mapping pattern. -/
structure MappingItem where
  key : Expr
  value : Pattern

end

/-- A name taken in by an import, with the name it gets. -/
structure Alias where
  name : String
  newName : Option String

/-- An item of a `with` statement. -/
structure WithItem where
  context : Expr
  target : Option Expr

mutual

/-- A statement. -/
inductive Stmt where
  | functionDef (extent : Extent) (isAsync : Bool) (decorators : List Expr) (name : String)
      (typeParameters : List TypeParameter) (parameters : Parameters) (returns : Option Expr)
      (body : List Stmt)
  | classDef (extent : Extent) (decorators : List Expr) (name : String)
      (typeParameters : List TypeParameter) (bases : List Expr) (keywords : List Keyword)
      (body : List Stmt)
  | returnValue (extent : Extent) (value : Option Expr)
  | delete (extent : Extent) (targets : List Expr)
  | assign (extent : Extent) (targets : List Expr) (value : Expr)
  | augmentedAssign (extent : Extent) (target : Expr) (operator : BinaryOperator) (value : Expr)
  | annotatedAssign (extent : Extent) (target hint : Expr) (value : Option Expr)
  | forLoop (extent : Extent) (isAsync : Bool) (target source : Expr) (body orElse : List Stmt)
  | whileLoop (extent : Extent) (test : Expr) (body orElse : List Stmt)
  | ifElse (extent : Extent) (test : Expr) (body orElse : List Stmt)
  | withBlock (extent : Extent) (isAsync : Bool) (items : List WithItem) (body : List Stmt)
  | matchCases (extent : Extent) (subject : Expr) (cases : List Case)
  | raise (extent : Extent) (exception cause : Option Expr)
  | tryBlock (extent : Extent) (isStar : Bool) (body : List Stmt) (handlers : List Handler)
      (orElse final : List Stmt)
  | assertion (extent : Extent) (test : Expr) (message : Option Expr)
  | importModules (extent : Extent) (names : List Alias)
  | importFrom (extent : Extent) (level : Nat) (source : Option String) (names : List Alias)
  | globalNames (extent : Extent) (names : List String)
  | nonlocalNames (extent : Extent) (names : List String)
  | expression (extent : Extent) (value : Expr)
  | pass (extent : Extent)
  | breakLoop (extent : Extent)
  | continueLoop (extent : Extent)
  | typeAlias (extent : Extent) (name : Expr) (typeParameters : List TypeParameter) (value : Expr)

/-- An `except` clause. -/
structure Handler where
  extent : Extent
  type : Option Expr
  name : Option String
  body : List Stmt

/-- A `case` clause. -/
structure Case where
  pattern : Pattern
  guard : Option Expr
  body : List Stmt

end

/-- A parsed module. -/
structure Module where
  body : List Stmt

def Expr.extent : Expr → Extent
  | .boolOp extent .. | .named extent .. | .binary extent .. | .unary extent .. | .lambda extent ..
  | .conditional extent .. | .dict extent .. | .set extent .. | .listComp extent ..
  | .setComp extent .. | .dictComp extent .. | .generator extent .. | .await extent ..
  | .yield extent .. | .yieldFrom extent .. | .compare extent .. | .call extent ..
  | .formattedValue extent .. | .joinedText extent .. | .constant extent .. | .attr extent ..
  | .subscript extent .. | .starred extent .. | .name extent .. | .list extent .. | .tuple extent ..
  | .slice extent .. => extent

def Stmt.extent : Stmt → Extent
  | .functionDef extent .. | .classDef extent .. | .returnValue extent .. | .delete extent ..
  | .assign extent .. | .augmentedAssign extent .. | .annotatedAssign extent .. | .forLoop extent ..
  | .whileLoop extent .. | .ifElse extent .. | .withBlock extent .. | .matchCases extent ..
  | .raise extent .. | .tryBlock extent .. | .assertion extent .. | .importModules extent ..
  | .importFrom extent .. | .globalNames extent .. | .nonlocalNames extent .. | .expression extent ..
  | .pass extent | .breakLoop extent | .continueLoop extent | .typeAlias extent .. => extent

/-- The parameters that take arguments by position or by name, in the order in which they stand. -/
def Parameters.ordinary (parameters : Parameters) : List Parameter :=
  parameters.positionalOnly ++ parameters.positional ++ parameters.keywordOnly

/-- Every parameter, the variadic ones last. -/
def Parameters.all (parameters : Parameters) : List Parameter :=
  parameters.ordinary ++ parameters.variadic.toList ++ parameters.keywordVariadic.toList

end Lintel.Python
