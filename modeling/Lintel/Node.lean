import Lintel.Python.Ast

/-!
# Nodes of the walk

One view of statements, expressions and handlers, with the kind by which rules choose what to look at
and the children in the order in which the walk visits them.

Annotations of parameters, type parameters and what a type alias says are no children: the walk
passes them by. A return hint and the hint of an assignment are visited.
-/

set_option autoImplicit false

namespace Lintel

open Python

/-- What a node is, as far as choosing rules goes. -/
inductive NodeKind where
  | functionDef | asyncFunctionDef | classDef | returnStmt | delete | assign | augAssign | annAssign
  | forLoop | asyncFor | whileLoop | ifStmt | withStmt | asyncWith | matchStmt | raise | tryStmt
  | tryStar | assertStmt | importStmt | importFrom | global | nonlocal | exprStmt | pass | breakStmt
  | continueStmt | otherStmt
  | exceptHandler
  | boolOp | namedExpr | binOp | unaryOp | lambda | ifExp | dict | set | listComp | setComp | dictComp
  | generatorExp | await | yield | yieldFrom | compare | call | formattedValue | joinedStr | constant
  | attr | subscript | starred | name | list | tuple | slice
deriving Repr, DecidableEq

namespace NodeKind

/-- The name under which a kind is shown. -/
def label : NodeKind → String
  | .functionDef => "FunctionDef"
  | .asyncFunctionDef => "AsyncFunctionDef"
  | .classDef => "ClassDef"
  | .returnStmt => "Return"
  | .delete => "Delete"
  | .assign => "Assign"
  | .augAssign => "AugAssign"
  | .annAssign => "AnnAssign"
  | .forLoop => "For"
  | .asyncFor => "AsyncFor"
  | .whileLoop => "While"
  | .ifStmt => "If"
  | .withStmt => "With"
  | .asyncWith => "AsyncWith"
  | .matchStmt => "Match"
  | .raise => "Raise"
  | .tryStmt => "Try"
  | .tryStar => "TryStar"
  | .assertStmt => "Assert"
  | .importStmt => "Import"
  | .importFrom => "ImportFrom"
  | .global => "Global"
  | .nonlocal => "Nonlocal"
  | .exprStmt => "ExprStmt"
  | .pass => "Pass"
  | .breakStmt => "Break"
  | .continueStmt => "Continue"
  | .otherStmt => "OtherStmt"
  | .exceptHandler => "ExceptHandler"
  | .boolOp => "BoolOp"
  | .namedExpr => "NamedExpr"
  | .binOp => "BinOp"
  | .unaryOp => "UnaryOp"
  | .lambda => "Lambda"
  | .ifExp => "IfExp"
  | .dict => "Dict"
  | .set => "Set"
  | .listComp => "ListComp"
  | .setComp => "SetComp"
  | .dictComp => "DictComp"
  | .generatorExp => "GeneratorExp"
  | .await => "Await"
  | .yield => "Yield"
  | .yieldFrom => "YieldFrom"
  | .compare => "Compare"
  | .call => "Call"
  | .formattedValue => "FormattedValue"
  | .joinedStr => "JoinedStr"
  | .constant => "Constant"
  | .attr => "Attribute"
  | .subscript => "Subscript"
  | .starred => "Starred"
  | .name => "Name"
  | .list => "List"
  | .tuple => "Tuple"
  | .slice => "Slice"

/-- Whether statements of a kind nest what they hold one level deeper. -/
def isBlock : NodeKind → Bool
  | functionDef | asyncFunctionDef | classDef | ifStmt | forLoop | asyncFor | whileLoop | tryStmt | tryStar
  | withStmt | asyncWith | matchStmt => true
  | _ => false

def isFunction (kind : NodeKind) : Bool := kind = functionDef || kind = asyncFunctionDef

end NodeKind

/-- A node that the walk visits. -/
inductive Node where
  | stmt (statement : Stmt)
  | expr (expression : Expr)
  | handler (clause : Handler)

namespace Node

def stmtKind : Stmt → NodeKind
  | .functionDef _ isAsync .. => if isAsync then .asyncFunctionDef else .functionDef
  | .classDef .. => .classDef
  | .returnValue .. => .returnStmt
  | .delete .. => .delete
  | .assign .. => .assign
  | .augmentedAssign .. => .augAssign
  | .annotatedAssign .. => .annAssign
  | .forLoop _ isAsync .. => if isAsync then .asyncFor else .forLoop
  | .whileLoop .. => .whileLoop
  | .ifElse .. => .ifStmt
  | .withBlock _ isAsync .. => if isAsync then .asyncWith else .withStmt
  | .matchCases .. => .matchStmt
  | .raise .. => .raise
  | .tryBlock _ isStar .. => if isStar then .tryStar else .tryStmt
  | .assertion .. => .assertStmt
  | .importModules .. => .importStmt
  | .importFrom .. => .importFrom
  | .globalNames .. => .global
  | .nonlocalNames .. => .nonlocal
  | .expression .. => .exprStmt
  | .pass .. => .pass
  | .breakLoop .. => .breakStmt
  | .continueLoop .. => .continueStmt
  | .typeAlias .. => .otherStmt

def exprKind : Expr → NodeKind
  | .boolOp .. => .boolOp
  | .named .. => .namedExpr
  | .binary .. => .binOp
  | .unary .. => .unaryOp
  | .lambda .. => .lambda
  | .conditional .. => .ifExp
  | .dict .. => .dict
  | .set .. => .set
  | .listComp .. => .listComp
  | .setComp .. => .setComp
  | .dictComp .. => .dictComp
  | .generator .. => .generatorExp
  | .await .. => .await
  | .yield .. => .yield
  | .yieldFrom .. => .yieldFrom
  | .compare .. => .compare
  | .call .. => .call
  | .formattedValue .. => .formattedValue
  | .joinedText .. => .joinedStr
  | .constant .. => .constant
  | .attr .. => .attr
  | .subscript .. => .subscript
  | .starred .. => .starred
  | .name .. => .name
  | .list .. => .list
  | .tuple .. => .tuple
  | .slice .. => .slice

def kind : Node → NodeKind
  | stmt statement => stmtKind statement
  | expr expression => exprKind expression
  | handler _ => .exceptHandler

def extent : Node → Extent
  | stmt statement => statement.extent
  | expr expression => expression.extent
  | handler clause => clause.extent

def isStmt : Node → Bool
  | stmt _ => true
  | _ => false

/-- The default values of parameters, in the order in which they stand. -/
def defaults (parameters : Parameters) : List Expr :=
  parameters.ordinary.filterMap Parameter.initial

mutual

/-- The expressions in a pattern: values, mapping keys and class names, from left to right. -/
def patternExprs : Pattern → List Expr
  | .value value => [value]
  | .singleton _ => []
  | .sequence items => patternListExprs items
  | .mapping items _ => mappingExprs items
  | .classPattern name arguments _ keywordValues =>
    name :: patternListExprs arguments ++ patternListExprs keywordValues
  | .star _ => []
  | .capture none _ => []
  | .capture (some inner) _ => patternExprs inner
  | .alternatives items => patternListExprs items

def patternListExprs : List Pattern → List Expr
  | [] => []
  | pattern :: rest => patternExprs pattern ++ patternListExprs rest

/-- Each key of a mapping before the expressions of its pattern. -/
def mappingExprs : List MappingItem → List Expr
  | [] => []
  | ⟨key, value⟩ :: rest => key :: patternExprs value ++ mappingExprs rest

end

/-- The parts of a comprehension clause. -/
def clauseExprs (clause : Clause) : List Expr :=
  clause.target :: clause.source :: clause.conditions

/-- The parts of an expression that the walk visits. -/
def exprParts : Expr → List Expr
  | .boolOp _ _ values => values
  | .named _ target value => [target, value]
  | .binary _ _ left right => [left, right]
  | .unary _ _ operand => [operand]
  | .lambda _ parameters body => defaults parameters ++ [body]
  | .conditional _ test body orElse => [body, test, orElse]
  | .dict _ items => items.flatMap fun item => item.key.toList ++ [item.value]
  | .set _ elements => elements
  | .listComp _ element clauses => element :: clauses.flatMap clauseExprs
  | .setComp _ element clauses => element :: clauses.flatMap clauseExprs
  | .dictComp _ key value clauses => key :: value :: clauses.flatMap clauseExprs
  | .generator _ element clauses => element :: clauses.flatMap clauseExprs
  | .await _ value => [value]
  | .yield _ value => value.toList
  | .yieldFrom _ value => [value]
  | .compare _ left rest => left :: rest.map Comparison.right
  | .call _ function arguments keywords => function :: arguments ++ keywords.map Keyword.value
  | .formattedValue _ value format => value :: format.toList
  | .joinedText _ pieces => pieces
  | .constant .. => []
  | .attr _ value _ => [value]
  | .subscript _ value index => [value, index]
  | .starred _ value => [value]
  | .name .. => []
  | .list _ elements => elements
  | .tuple _ elements => elements
  | .slice _ lower upper step => lower.toList ++ upper.toList ++ step.toList

/-- The children of a statement. -/
def stmtChildren : Stmt → List Node
  | .functionDef _ _ decorators _ _ parameters returns body =>
    (decorators ++ defaults parameters ++ returns.toList).map expr ++ body.map stmt
  | .classDef _ decorators _ _ bases keywords body =>
    (decorators ++ bases ++ keywords.map Keyword.value).map expr ++ body.map stmt
  | .returnValue _ value => value.toList.map expr
  | .delete _ targets => targets.map expr
  | .assign _ targets value => (targets ++ [value]).map expr
  | .augmentedAssign _ target _ value => [expr target, expr value]
  | .annotatedAssign _ target hint value => (target :: hint :: value.toList).map expr
  | .forLoop _ _ target source body orElse =>
    expr target :: expr source :: body.map stmt ++ orElse.map stmt
  | .whileLoop _ test body orElse => expr test :: body.map stmt ++ orElse.map stmt
  | .ifElse _ test body orElse => expr test :: body.map stmt ++ orElse.map stmt
  | .withBlock _ _ items body =>
    (items.flatMap fun item => item.context :: item.target.toList).map expr ++ body.map stmt
  | .matchCases _ subject cases =>
    expr subject :: cases.flatMap fun clause =>
      (patternExprs clause.pattern ++ clause.guard.toList).map expr ++ clause.body.map stmt
  | .raise _ exception cause => (exception.toList ++ cause.toList).map expr
  | .tryBlock _ _ body handlers orElse final =>
    body.map stmt ++ handlers.map handler ++ orElse.map stmt ++ final.map stmt
  | .assertion _ test message => (test :: message.toList).map expr
  | .expression _ value => [expr value]
  | _ => []

/-- The children of a node, in the order of the walk. -/
def children : Node → List Node
  | stmt statement => stmtChildren statement
  | expr expression => (exprParts expression).map expr
  | handler clause => clause.type.toList.map expr ++ clause.body.map stmt

/-! ## Children are smaller than their parents -/

private theorem sizeOf_lt_of_mem_toList {α : Type} [SizeOf α] {value : α} {held : Option α}
    (member : value ∈ held.toList) : sizeOf value < sizeOf held := by
  cases held with
  | none => simp at member
  | some inner =>
    simp only [Option.toList_some, List.mem_singleton] at member
    subst member
    simp

private theorem sizeOf_initial_lt {parameter : Parameter} {value : Expr}
    (declared : parameter.initial = some value) : sizeOf value < sizeOf parameter := by
  cases parameter
  simp only at declared
  subst declared
  simp
  omega

private theorem sizeOf_lt_of_mem_defaults {parameters : Parameters} {value : Expr}
    (member : value ∈ defaults parameters) : sizeOf value < sizeOf parameters := by
  cases parameters
  simp only [defaults, Parameters.ordinary, List.mem_filterMap, List.mem_append] at member
  obtain ⟨parameter, place, declared⟩ := member
  have smaller := sizeOf_initial_lt declared
  rcases place with (place | place) | place
  all_goals
    have inside := List.sizeOf_lt_of_mem place
    simp only [Parameters.mk.sizeOf_spec]
    omega

private theorem sizeOf_lt_of_mem_clauses {clauses : List Clause} {value : Expr}
    (member : value ∈ clauses.flatMap clauseExprs) : sizeOf value < sizeOf clauses := by
  obtain ⟨clause, place, member⟩ := List.mem_flatMap.1 member
  have := List.sizeOf_lt_of_mem place
  cases clause
  simp only [clauseExprs, List.mem_cons] at member
  rcases member with rfl | rfl | member
  · simp at this; omega
  · simp at this; omega
  · have := List.sizeOf_lt_of_mem member
    simp at *
    omega

mutual

private theorem sizeOf_lt_of_mem_patternExprs {value : Expr} :
    (pattern : Pattern) → value ∈ patternExprs pattern → sizeOf value < sizeOf pattern
  | .value _, member => by
    simp only [patternExprs, List.mem_singleton] at member
    subst member
    simp
  | .singleton _, member => by simp [patternExprs] at member
  | .sequence items, member => by
    have := sizeOf_lt_of_mem_patternListExprs items (by simpa [patternExprs] using member)
    simp
    omega
  | .mapping items _, member => by
    have := sizeOf_lt_of_mem_mappingExprs items (by simpa [patternExprs] using member)
    simp
    omega
  | .classPattern _ arguments _ keywordValues, member => by
    simp only [patternExprs, List.cons_append, List.mem_cons, List.mem_append] at member
    rcases member with rfl | member | member
    · simp; omega
    · have := sizeOf_lt_of_mem_patternListExprs arguments member
      simp; omega
    · have := sizeOf_lt_of_mem_patternListExprs keywordValues member
      simp; omega
  | .star _, member => by simp [patternExprs] at member
  | .capture none _, member => by simp [patternExprs] at member
  | .capture (some inner) _, member => by
    have := sizeOf_lt_of_mem_patternExprs inner (by simpa [patternExprs] using member)
    simp
    omega
  | .alternatives items, member => by
    have := sizeOf_lt_of_mem_patternListExprs items (by simpa [patternExprs] using member)
    simp
    omega

private theorem sizeOf_lt_of_mem_patternListExprs {value : Expr} :
    (items : List Pattern) → value ∈ patternListExprs items → sizeOf value < sizeOf items
  | [], member => by simp [patternListExprs] at member
  | pattern :: rest, member => by
    simp only [patternListExprs, List.mem_append] at member
    rcases member with member | member
    · have := sizeOf_lt_of_mem_patternExprs pattern member
      simp; omega
    · have := sizeOf_lt_of_mem_patternListExprs rest member
      simp; omega

private theorem sizeOf_lt_of_mem_mappingExprs {value : Expr} :
    (items : List MappingItem) → value ∈ mappingExprs items → sizeOf value < sizeOf items
  | [], member => by simp [mappingExprs] at member
  | ⟨key, pattern⟩ :: rest, member => by
    simp only [mappingExprs, List.cons_append, List.mem_cons, List.mem_append] at member
    rcases member with rfl | member | member
    · simp; omega
    · have := sizeOf_lt_of_mem_patternExprs pattern member
      simp; omega
    · have := sizeOf_lt_of_mem_mappingExprs rest member
      simp; omega

end

private theorem sizeOf_lt_of_mem_exprParts {parent part : Expr} (member : part ∈ exprParts parent) :
    sizeOf part < sizeOf parent := by
  cases parent with
  | boolOp _ _ values | set _ values | joinedText _ values | list _ values | tuple _ values =>
    simp only [exprParts] at member
    have := List.sizeOf_lt_of_mem member
    simp; omega
  | named | binary | conditional | subscript =>
    simp only [exprParts, List.mem_cons, List.not_mem_nil, or_false] at member
    rcases member with rfl | rfl | rfl <;> simp <;> omega
  | unary | await | yieldFrom | attr | starred =>
    simp only [exprParts, List.mem_singleton] at member
    subst member
    simp
    try omega
  | lambda _ parameters body =>
    simp only [exprParts, List.mem_append, List.mem_singleton] at member
    rcases member with member | rfl
    · have := sizeOf_lt_of_mem_defaults member
      simp; omega
    · simp only [Expr.lambda.sizeOf_spec]; omega
  | dict _ items =>
    simp only [exprParts] at member
    obtain ⟨item, place, member⟩ := List.mem_flatMap.1 member
    have := List.sizeOf_lt_of_mem place
    cases item
    simp only [List.mem_append, List.mem_singleton] at member
    rcases member with member | rfl
    · have := sizeOf_lt_of_mem_toList member
      simp at *; omega
    · simp at *; omega
  | listComp _ element clauses | setComp _ element clauses | generator _ element clauses =>
    simp only [exprParts] at member
    rcases List.mem_cons.1 member with rfl | member
    · simp; omega
    · have := sizeOf_lt_of_mem_clauses member
      simp; omega
  | dictComp _ key value clauses =>
    simp only [exprParts, List.mem_cons] at member
    rcases member with rfl | rfl | member
    · simp; omega
    · simp; omega
    · have := sizeOf_lt_of_mem_clauses member
      simp; omega
  | yield _ value =>
    simp only [exprParts] at member
    have := sizeOf_lt_of_mem_toList member
    simp; omega
  | compare _ left rest =>
    simp only [exprParts, List.mem_cons, List.mem_map] at member
    rcases member with rfl | ⟨link, place, rfl⟩
    · simp; omega
    · have := List.sizeOf_lt_of_mem place
      cases link
      simp at *; omega
  | call _ function arguments keywords =>
    simp only [exprParts, List.cons_append, List.mem_cons, List.mem_append, List.mem_map] at member
    rcases member with rfl | member | ⟨keyword, place, rfl⟩
    · simp; omega
    · have := List.sizeOf_lt_of_mem member
      simp; omega
    · have := List.sizeOf_lt_of_mem place
      cases keyword
      simp at *; omega
  | formattedValue _ value format =>
    simp only [exprParts, List.mem_cons] at member
    rcases member with rfl | member
    · simp; omega
    · have := sizeOf_lt_of_mem_toList member
      simp; omega
  | constant | name => simp [exprParts] at member
  | slice _ lower upper step =>
    simp only [exprParts, List.mem_append] at member
    rcases member with (member | member) | member <;>
      (have smaller := sizeOf_lt_of_mem_toList member; simp; omega)

private theorem sizeOf_keyword_value_lt {keywords : List Keyword} {value : Expr}
    (member : value ∈ keywords.map Keyword.value) : sizeOf value < sizeOf keywords := by
  obtain ⟨keyword, place, rfl⟩ := List.mem_map.1 member
  have := List.sizeOf_lt_of_mem place
  cases keyword
  simp at *
  omega

private theorem sizeOf_lt_of_mem_withItems {items : List WithItem} {value : Expr}
    (member : value ∈ items.flatMap fun item => item.context :: item.target.toList) :
    sizeOf value < sizeOf items := by
  obtain ⟨item, place, member⟩ := List.mem_flatMap.1 member
  have := List.sizeOf_lt_of_mem place
  cases item
  simp only [List.mem_cons] at member
  rcases member with rfl | member
  · simp at *; omega
  · have := sizeOf_lt_of_mem_toList member
    simp at *; omega

private theorem sizeOf_lt_of_mem_exprs {values : List Expr} {child : Node} (bound : Nat)
    (member : child ∈ values.map expr) (smaller : ∀ value ∈ values, sizeOf value < bound) :
    sizeOf child < 1 + bound := by
  obtain ⟨value, place, rfl⟩ := List.mem_map.1 member
  have := smaller value place
  simp
  omega

private theorem sizeOf_lt_of_mem_stmts {body : List Stmt} {child : Node}
    (member : child ∈ body.map stmt) : sizeOf child < 1 + sizeOf body := by
  obtain ⟨statement, place, rfl⟩ := List.mem_map.1 member
  have := List.sizeOf_lt_of_mem place
  simp
  omega

private theorem sizeOf_lt_of_mem_handlers {clauses : List Handler} {child : Node}
    (member : child ∈ clauses.map handler) : sizeOf child < 1 + sizeOf clauses := by
  obtain ⟨clause, place, rfl⟩ := List.mem_map.1 member
  have := List.sizeOf_lt_of_mem place
  simp
  omega

private theorem sizeOf_lt_of_mem_cases {cases : List Case} {child : Node}
    (member : child ∈ cases.flatMap fun clause =>
      (patternExprs clause.pattern ++ clause.guard.toList).map expr ++ clause.body.map stmt) :
    sizeOf child < 1 + sizeOf cases := by
  obtain ⟨clause, place, member⟩ := List.mem_flatMap.1 member
  have bound := List.sizeOf_lt_of_mem place
  cases clause with
  | mk pattern guard body =>
    simp only at member
    rcases List.mem_append.1 member with member | member
    · have := sizeOf_lt_of_mem_exprs (sizeOf pattern + sizeOf guard) member (by
        intro value inside
        rcases List.mem_append.1 inside with inside | inside
        · have := sizeOf_lt_of_mem_patternExprs pattern inside
          omega
        · have := sizeOf_lt_of_mem_toList inside
          omega)
      simp at *; omega
    · have := sizeOf_lt_of_mem_stmts member
      simp at *; omega

private theorem sizeOf_lt_of_mem_stmtChildren {statement : Stmt} {child : Node}
    (member : child ∈ stmtChildren statement) : sizeOf child < 1 + sizeOf statement := by
  cases statement with
  | functionDef _ _ decorators _ _ parameters returns body =>
    simp only [stmtChildren] at member
    rcases List.mem_append.1 member with member | member
    · refine sizeOf_lt_of_mem_exprs _ member fun value inside => ?_
      simp only [List.mem_append] at inside
      rcases inside with (inside | inside) | inside
      · have := List.sizeOf_lt_of_mem inside
        simp; omega
      · have := sizeOf_lt_of_mem_defaults inside
        simp; omega
      · have := sizeOf_lt_of_mem_toList inside
        simp; omega
    · have := sizeOf_lt_of_mem_stmts member
      simp; omega
  | classDef _ decorators _ _ bases keywords body =>
    simp only [stmtChildren] at member
    rcases List.mem_append.1 member with member | member
    · refine sizeOf_lt_of_mem_exprs _ member fun value inside => ?_
      simp only [List.mem_append] at inside
      rcases inside with (inside | inside) | inside
      · have := List.sizeOf_lt_of_mem inside
        simp; omega
      · have := List.sizeOf_lt_of_mem inside
        simp; omega
      · have := sizeOf_keyword_value_lt inside
        simp; omega
    · have := sizeOf_lt_of_mem_stmts member
      simp; omega
  | returnValue _ value =>
    simp only [stmtChildren] at member
    refine sizeOf_lt_of_mem_exprs _ member fun value inside => ?_
    have := sizeOf_lt_of_mem_toList inside
    simp; omega
  | delete _ targets =>
    simp only [stmtChildren] at member
    refine sizeOf_lt_of_mem_exprs _ member fun value inside => ?_
    have := List.sizeOf_lt_of_mem inside
    simp; omega
  | assign _ targets value =>
    simp only [stmtChildren] at member
    refine sizeOf_lt_of_mem_exprs _ member fun value inside => ?_
    rcases List.mem_append.1 inside with inside | inside
    · have := List.sizeOf_lt_of_mem inside
      simp; omega
    · obtain rfl := List.mem_singleton.1 inside
      simp only [Stmt.assign.sizeOf_spec]; omega
  | augmentedAssign =>
    simp only [stmtChildren, List.mem_cons, List.not_mem_nil, or_false] at member
    rcases member with rfl | rfl
    all_goals
      simp only [Node.expr.sizeOf_spec, Stmt.augmentedAssign.sizeOf_spec]
      omega
  | annotatedAssign _ target hint value =>
    simp only [stmtChildren] at member
    refine sizeOf_lt_of_mem_exprs _ member fun value inside => ?_
    simp only [List.mem_cons] at inside
    rcases inside with rfl | rfl | inside
    · simp; omega
    · simp; omega
    · have := sizeOf_lt_of_mem_toList inside
      simp; omega
  | forLoop _ _ target source body orElse =>
    simp only [stmtChildren, List.cons_append, List.mem_cons, List.mem_append] at member
    rcases member with rfl | rfl | member | member
    · simp; omega
    · simp; omega
    · have := sizeOf_lt_of_mem_stmts member
      simp; omega
    · have := sizeOf_lt_of_mem_stmts member
      simp; omega
  | whileLoop _ test body orElse | ifElse _ test body orElse =>
    simp only [stmtChildren, List.cons_append, List.mem_cons, List.mem_append] at member
    rcases member with rfl | member | member
    · simp; omega
    · have := sizeOf_lt_of_mem_stmts member
      simp; omega
    · have := sizeOf_lt_of_mem_stmts member
      simp; omega
  | withBlock _ _ items body =>
    simp only [stmtChildren] at member
    rcases List.mem_append.1 member with member | member
    · refine sizeOf_lt_of_mem_exprs _ member fun value inside => ?_
      have := sizeOf_lt_of_mem_withItems inside
      simp; omega
    · have := sizeOf_lt_of_mem_stmts member
      simp; omega
  | matchCases _ subject cases =>
    simp only [stmtChildren] at member
    rcases List.mem_cons.1 member with rfl | member
    · simp; omega
    · have := sizeOf_lt_of_mem_cases member
      simp; omega
  | raise _ exception cause =>
    simp only [stmtChildren] at member
    refine sizeOf_lt_of_mem_exprs _ member fun value inside => ?_
    rcases List.mem_append.1 inside with inside | inside <;>
      (have smaller := sizeOf_lt_of_mem_toList inside; simp; omega)
  | tryBlock _ _ body handlers orElse final =>
    simp only [stmtChildren, List.mem_append] at member
    rcases member with ((member | member) | member) | member
    · have := sizeOf_lt_of_mem_stmts member
      simp; omega
    · have := sizeOf_lt_of_mem_handlers member
      simp; omega
    · have := sizeOf_lt_of_mem_stmts member
      simp; omega
    · have := sizeOf_lt_of_mem_stmts member
      simp; omega
  | assertion _ test message =>
    simp only [stmtChildren] at member
    refine sizeOf_lt_of_mem_exprs _ member fun value inside => ?_
    rcases List.mem_cons.1 inside with rfl | inside
    · simp; omega
    · have := sizeOf_lt_of_mem_toList inside
      simp; omega
  | expression _ value =>
    simp only [stmtChildren] at member
    obtain rfl := List.mem_singleton.1 member
    simp only [Node.expr.sizeOf_spec, Stmt.expression.sizeOf_spec]; omega
  | importModules | importFrom | globalNames | nonlocalNames | pass | breakLoop | continueLoop
  | typeAlias => simp [stmtChildren] at member

/-- A child is smaller than its parent, so walks and recursions over nodes end. -/
theorem sizeOf_lt_of_mem_children {parent child : Node} (member : child ∈ parent.children) :
    sizeOf child < sizeOf parent := by
  cases parent with
  | stmt statement =>
    have := sizeOf_lt_of_mem_stmtChildren member
    simpa using this
  | expr expression =>
    have := sizeOf_lt_of_mem_exprs (sizeOf expression) member
      fun _ inside => sizeOf_lt_of_mem_exprParts inside
    simpa using this
  | handler clause =>
    cases clause with
    | mk extent type name body =>
      simp only [children] at member
      rcases List.mem_append.1 member with member | member
      · have := sizeOf_lt_of_mem_exprs (sizeOf type) member
          fun _ inside => sizeOf_lt_of_mem_toList inside
        simp; omega
      · have := sizeOf_lt_of_mem_stmts member
        simp; omega

/-- The node and everything below it, each parent before its children. -/
def walk (node : Node) : List Node :=
  node :: node.children.attach.flatMap fun ⟨child, _⟩ => walk child
termination_by sizeOf node
decreasing_by exact sizeOf_lt_of_mem_children (by assumption)

end Node

/-- The nodes of a module in the order of the walk. -/
def walkBody (body : List Stmt) : List Node :=
  body.flatMap fun statement => (Node.stmt statement).walk

/-- The dotted name of a call target, if it is a name or a chain of attributes that starts with one. -/
def dottedName? : Expr → Option String
  | .name _ id => some id
  | .attr _ value name => (dottedName? value).map fun base => s!"{base}.{name}"
  | _ => none

end Lintel
