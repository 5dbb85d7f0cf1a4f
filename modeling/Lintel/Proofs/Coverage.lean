import Lintel.Proofs.RuleTurns
import Lintel.Proofs.UnitContent
import Mathlib.Data.List.Perm.Basic

/-!
# What the walk covers

Everything that stands in a module, told field by field and without the walk: its statements, expressions
and handlers. The walk comes to each of them once, except for what stands in the hint of a parameter, in the
bound of a type parameter or in a type alias.
-/

set_option autoImplicit false

namespace Lintel

/-! ## What stands in a node -/

namespace Python

def Parameter.exprs (parameter : Parameter) : List Expr :=
  parameter.hint.toList ++ parameter.initial.toList

def Parameters.exprs (parameters : Parameters) : List Expr :=
  parameters.all.flatMap Parameter.exprs

def TypeParameter.exprs : TypeParameter → List Expr
  | .plain _ bound => bound.toList
  | .variadic _ | .keywordVariadic _ => []

def Clause.exprs (clause : Clause) : List Expr :=
  [clause.target, clause.source] ++ clause.conditions

mutual

def Pattern.exprs : Pattern → List Expr
  | .value value => [value]
  | .singleton _ | .star _ => []
  | .sequence items | .alternatives items => Pattern.exprsOfAll items
  | .mapping items _ => MappingItem.exprsOfAll items
  | .classPattern name arguments _ keywordValues =>
    [name] ++ Pattern.exprsOfAll arguments ++ Pattern.exprsOfAll keywordValues
  | .capture none _ => []
  | .capture (some inner) _ => inner.exprs

def Pattern.exprsOfAll : List Pattern → List Expr
  | [] => []
  | pattern :: patterns => pattern.exprs ++ Pattern.exprsOfAll patterns

def MappingItem.exprsOfAll : List MappingItem → List Expr
  | [] => []
  | ⟨key, value⟩ :: items => [key] ++ value.exprs ++ MappingItem.exprsOfAll items

end

/-- The expressions that stand directly in an expression. -/
def Expr.parts : Expr → List Expr
  | .constant .. | .name .. => []
  | .unary _ _ value | .await _ value | .yieldFrom _ value | .starred _ value | .attr _ value _ => [value]
  | .named _ first second | .binary _ _ first second | .subscript _ first second => [first, second]
  | .conditional _ test body orElse => [test, body, orElse]
  | .boolOp _ _ values | .set _ values | .list _ values | .tuple _ values | .joinedText _ values => values
  | .listComp _ element clauses | .setComp _ element clauses | .generator _ element clauses =>
    [element] ++ clauses.flatMap Clause.exprs
  | .dictComp _ key value clauses => [key, value] ++ clauses.flatMap Clause.exprs
  | .dict _ items => items.flatMap fun item => item.key.toList ++ [item.value]
  | .yield _ value => value.toList
  | .formattedValue _ value format => [value] ++ format.toList
  | .slice _ lower upper step => lower.toList ++ upper.toList ++ step.toList
  | .compare _ left rest => [left] ++ rest.map Comparison.right
  | .call _ function arguments keywords => [function] ++ arguments ++ keywords.map Keyword.value
  | .lambda _ parameters body => parameters.exprs ++ [body]

end Python

namespace Node

open Python

/-- The nodes that stand directly in a case. -/
def caseParts (clause : Case) : List Node :=
  clause.pattern.exprs.map expr ++ clause.guard.toList.map expr ++ clause.body.map stmt

/-- The nodes that stand directly in a statement. -/
def stmtParts : Stmt → List Node
  | .pass _ | .breakLoop _ | .continueLoop _ => []
  | .importModules .. | .importFrom .. | .globalNames .. | .nonlocalNames .. => []
  | .expression _ value => [expr value]
  | .returnValue _ value => value.toList.map expr
  | .raise _ exception cause => exception.toList.map expr ++ cause.toList.map expr
  | .assertion _ test message => [expr test] ++ message.toList.map expr
  | .delete _ targets => targets.map expr
  | .assign _ targets value => targets.map expr ++ [expr value]
  | .augmentedAssign _ target _ value => [expr target, expr value]
  | .annotatedAssign _ target hint value => [expr target, expr hint] ++ value.toList.map expr
  | .typeAlias _ name typeParameters value =>
    [expr name] ++ (typeParameters.flatMap TypeParameter.exprs).map expr ++ [expr value]
  | .ifElse _ test body orElse | .whileLoop _ test body orElse =>
    [expr test] ++ body.map stmt ++ orElse.map stmt
  | .forLoop _ _ target source body orElse =>
    [expr target, expr source] ++ body.map stmt ++ orElse.map stmt
  | .withBlock _ _ items body =>
    (items.flatMap fun item => [item.context] ++ item.target.toList).map expr ++ body.map stmt
  | .matchCases _ subject cases => [expr subject] ++ cases.flatMap caseParts
  | .tryBlock _ _ body handlers orElse final =>
    body.map stmt ++ handlers.map handler ++ orElse.map stmt ++ final.map stmt
  | .functionDef _ _ decorators _ typeParameters parameters returns body =>
    decorators.map expr ++ (typeParameters.flatMap TypeParameter.exprs).map expr ++
      parameters.exprs.map expr ++ returns.toList.map expr ++ body.map stmt
  | .classDef _ decorators _ typeParameters bases keywords body =>
    decorators.map expr ++ (typeParameters.flatMap TypeParameter.exprs).map expr ++ bases.map expr ++
      (keywords.map Keyword.value).map expr ++ body.map stmt

/-- The nodes that stand directly in a node. -/
def parts : Node → List Node
  | stmt statement => stmtParts statement
  | expr expression => expression.parts.map expr
  | handler clause => clause.type.toList.map expr ++ clause.body.map stmt

/-! ## What the walk passes by -/

/-- The expressions of parameters that the walk passes by: hints, and all that variadic parameters have. -/
def overlookedIn (parameters : Parameters) : List Expr :=
  parameters.ordinary.filterMap Parameter.hint ++
    (parameters.variadic.toList ++ parameters.keywordVariadic.toList).flatMap Parameter.exprs

/-- The expressions that stand directly in a node and that the walk passes by. -/
def overlooked : Node → List Expr
  | expr (.lambda _ parameters _) => overlookedIn parameters
  | stmt (.functionDef _ _ _ _ typeParameters parameters _ _) =>
    typeParameters.flatMap TypeParameter.exprs ++ overlookedIn parameters
  | stmt (.classDef _ _ _ typeParameters _ _ _) => typeParameters.flatMap TypeParameter.exprs
  | stmt (.typeAlias _ name typeParameters value) =>
    [name] ++ typeParameters.flatMap TypeParameter.exprs ++ [value]
  | _ => []

mutual

private theorem patternExprs_eq : ∀ pattern : Pattern, patternExprs pattern = pattern.exprs
  | .value _ => rfl
  | .singleton _ => rfl
  | .star _ => rfl
  | .capture none _ => rfl
  | .sequence items => by
    rw [patternExprs, Pattern.exprs, patternListExprs_eq items]
  | .alternatives items => by
    rw [patternExprs, Pattern.exprs, patternListExprs_eq items]
  | .mapping items _ => by
    rw [patternExprs, Pattern.exprs, mappingExprs_eq items]
  | .classPattern _ arguments _ keywordValues => by
    rw [patternExprs, Pattern.exprs, patternListExprs_eq arguments, patternListExprs_eq keywordValues]
    rfl
  | .capture (some inner) _ => by
    rw [patternExprs, Pattern.exprs, patternExprs_eq inner]

private theorem patternListExprs_eq : ∀ patterns : List Pattern,
    patternListExprs patterns = Pattern.exprsOfAll patterns
  | [] => rfl
  | pattern :: patterns => by
    rw [patternListExprs, Pattern.exprsOfAll, patternExprs_eq pattern, patternListExprs_eq patterns]

private theorem mappingExprs_eq : ∀ items : List MappingItem,
    mappingExprs items = MappingItem.exprsOfAll items
  | [] => rfl
  | ⟨_, value⟩ :: items => by
    rw [mappingExprs, MappingItem.exprsOfAll, patternExprs_eq value, mappingExprs_eq items]
    rfl

end

/-- Of what parameters declare, the walk visits the defaults and passes the rest by. -/
theorem perm_exprs (parameters : Parameters) :
    parameters.exprs.Perm (defaults parameters ++ overlookedIn parameters) := by
  have ordinary : (parameters.ordinary.flatMap Parameter.exprs).Perm
      (defaults parameters ++ parameters.ordinary.filterMap Parameter.hint) := by
    rw [defaults, List.filterMap_eq_flatMap_toList, List.filterMap_eq_flatMap_toList]
    exact (List.flatMap_append_perm _ _ _).symm.trans List.perm_append_comm
  rw [Parameters.exprs, Parameters.all, List.append_assoc, List.flatMap_append, overlookedIn,
    ← List.append_assoc]
  exact ordinary.append_right _

theorem perm_exprParts (expression : Expr) :
    expression.parts.Perm (exprParts expression ++ (expr expression).overlooked) := by
  cases expression with
  | lambda _ parameters body =>
    rw [Expr.parts, exprParts, overlooked, List.append_assoc]
    refine ((perm_exprs parameters).append_right [body]).trans ?_
    rw [List.append_assoc]
    exact List.perm_append_comm.append_left _
  | conditional _ test body orElse => exact .swap body test [orElse]
  | _ => exact .of_eq (List.append_nil _).symm

theorem perm_stmtParts (statement : Stmt) :
    (stmtParts statement).Perm (stmtChildren statement ++ (stmt statement).overlooked.map expr) := by
  cases statement with
  | functionDef _ _ decorators _ typeParameters parameters returns body =>
    have declared := (perm_exprs parameters).map expr
    simp only [stmtParts, stmtChildren, overlooked, List.map_append, List.append_assoc] at declared ⊢
    refine List.Perm.append_left _ ?_
    refine (List.perm_append_comm.trans ((declared.append_right _).append_right _)).trans ?_
    simp only [List.append_assoc]
    refine List.Perm.append_left _ (List.perm_append_comm.trans ?_)
    simp only [List.append_assoc]
    exact .rfl
  | classDef _ decorators _ typeParameters bases keywords body =>
    simp only [stmtParts, stmtChildren, overlooked, List.map_append, List.append_assoc]
    refine List.Perm.append_left _ (List.perm_append_comm.trans ?_)
    simp only [List.append_assoc]
    exact .rfl
  | matchCases _ subject cases =>
    have same : cases.flatMap caseParts = cases.flatMap fun clause =>
        (patternExprs clause.pattern ++ clause.guard.toList).map expr ++ clause.body.map stmt := by
      refine List.flatMap_congr fun clause _ => ?_
      rw [caseParts, patternExprs_eq, List.map_append]
    rw [stmtParts, same]
    exact .of_eq (List.append_nil _).symm
  | typeAlias _ name typeParameters value =>
    rw [stmtParts, overlooked, List.map_append, List.map_append]
    exact .rfl
  | _ =>
    refine .of_eq (Eq.trans ?_ (List.append_nil _).symm)
    simp [stmtParts, stmtChildren]

/-- What stands in a node is what the walk goes on to, and what it passes by. -/
theorem perm_parts (node : Node) : node.parts.Perm (node.children ++ node.overlooked.map expr) := by
  cases node with
  | stmt statement => exact perm_stmtParts statement
  | expr expression =>
    rw [parts, children, ← List.map_append]
    exact (perm_exprParts expression).map expr
  | handler clause => exact .of_eq (List.append_nil _).symm

/-! ## Everything -/

private theorem sizeOf_lt_of_mem_exprs_parameter {parameter : Parameter} {value : Expr}
    (member : value ∈ parameter.exprs) : sizeOf value < sizeOf parameter := by
  obtain ⟨name, hint, initial⟩ := parameter
  simp only [Parameter.exprs, List.mem_append, Option.mem_toList] at member
  rcases member with rfl | rfl <;> simp <;> omega

private theorem sizeOf_lt_of_mem_all {parameters : Parameters} {parameter : Parameter}
    (member : parameter ∈ parameters.all) : sizeOf parameter < sizeOf parameters := by
  obtain ⟨positionalOnly, positional, variadic, keywordOnly, keywordVariadic⟩ := parameters
  simp only [Parameters.all, Parameters.ordinary, List.mem_append, Option.mem_toList] at member
  rcases member with (((listed | listed) | listed) | rfl) | rfl
  · have := List.sizeOf_lt_of_mem listed
    simp; omega
  · have := List.sizeOf_lt_of_mem listed
    simp; omega
  · have := List.sizeOf_lt_of_mem listed
    simp; omega
  · simp; omega
  · simp; omega

private theorem sizeOf_lt_of_mem_overlookedIn {parameters : Parameters} {value : Expr}
    (member : value ∈ overlookedIn parameters) : sizeOf value < sizeOf parameters := by
  have declared : value ∈ parameters.exprs :=
    (perm_exprs parameters).mem_iff.mpr (List.mem_append_right _ member)
  obtain ⟨parameter, isParameter, inside⟩ := List.mem_flatMap.mp declared
  exact Nat.lt_trans (sizeOf_lt_of_mem_exprs_parameter inside) (sizeOf_lt_of_mem_all isParameter)

private theorem sizeOf_lt_of_mem_bounds {typeParameters : List TypeParameter} {value : Expr}
    (member : value ∈ typeParameters.flatMap TypeParameter.exprs) :
    sizeOf value < sizeOf typeParameters := by
  obtain ⟨typeParameter, listed, inside⟩ := List.mem_flatMap.mp member
  have smaller := List.sizeOf_lt_of_mem listed
  cases typeParameter with
  | plain name bound =>
    simp only [TypeParameter.exprs, Option.mem_toList] at inside
    subst inside
    simp at smaller
    omega
  | variadic name => cases inside
  | keywordVariadic name => cases inside

private theorem sizeOf_lt_of_mem_overlooked {node : Node} {value : Expr}
    (member : value ∈ node.overlooked) : sizeOf (expr value) < sizeOf node := by
  unfold overlooked at member
  split at member
  · have := sizeOf_lt_of_mem_overlookedIn member
    simp; omega
  · rcases List.mem_append.mp member with bound | declared
    · have := sizeOf_lt_of_mem_bounds bound
      simp; omega
    · have := sizeOf_lt_of_mem_overlookedIn declared
      simp; omega
  · have := sizeOf_lt_of_mem_bounds member
    simp; omega
  · simp only [List.mem_append, List.mem_singleton] at member
    simp only [expr.sizeOf_spec, stmt.sizeOf_spec, Stmt.typeAlias.sizeOf_spec]
    rcases member with (rfl | bound) | rfl
    · omega
    · have := sizeOf_lt_of_mem_bounds bound
      omega
    · omega
  · cases member

theorem sizeOf_lt_of_mem_parts {node part : Node} (member : part ∈ node.parts) :
    sizeOf part < sizeOf node := by
  rcases List.mem_append.mp (node.perm_parts.mem_iff.mp member) with child | passed
  · exact sizeOf_lt_of_mem_children child
  · obtain ⟨value, inside, rfl⟩ := List.mem_map.mp passed
    exact sizeOf_lt_of_mem_overlooked inside

/-- A node and everything that stands in it. -/
def everything (node : Node) : List Node :=
  node :: node.parts.attach.flatMap fun ⟨part, _⟩ => part.everything
termination_by sizeOf node
decreasing_by exact sizeOf_lt_of_mem_parts (by assumption)

/-- Everything in what the walk passes by at a node. -/
def outOfSight (node : Node) : List Node :=
  node.overlooked.flatMap fun value => (expr value).everything

theorem everything_eq (node : Node) : node.everything = node :: node.parts.flatMap everything := by
  rw [everything, List.flatMap_subtype fun _ _ => rfl, List.unattach_attach]

theorem walk_eq (node : Node) : node.walk = node :: node.children.flatMap walk := by
  rw [walk, List.flatMap_subtype fun _ _ => rfl, List.unattach_attach]

/-- Nodes side by side: all that is seen of them, and then all that is not. -/
theorem perm_flatMap_everything {nodes : List Node}
    (each : ∀ node ∈ nodes, node.everything.Perm (node.walk ++ node.walk.flatMap outOfSight)) :
    (nodes.flatMap everything).Perm (nodes.flatMap walk ++ (nodes.flatMap walk).flatMap outOfSight) := by
  rw [List.flatMap_assoc]
  exact (List.Perm.flatMap_left _ each).trans (List.flatMap_append_perm _ _ _).symm

/-- Everything in a node is come to by the walk, or out of its sight at a node that it comes to. -/
theorem perm_everything (node : Node) :
    node.everything.Perm (node.walk ++ node.walk.flatMap outOfSight) := by
  induction node using everything.induct with
  | case1 node ih =>
    -- the induction is over all parts; only the children among them are walked
    have below := perm_flatMap_everything fun child member =>
      ih child (node.perm_parts.mem_iff.mpr (List.mem_append_left _ member))
    rw [everything_eq, walk_eq, List.cons_append, List.flatMap_cons]
    refine .cons node ((node.perm_parts.flatMap_right everything).trans ?_)
    rw [List.flatMap_append, List.flatMap_map]
    -- what the node itself passes by stands before what its children do
    refine (below.append_right node.outOfSight).trans ?_
    rw [List.append_assoc]
    exact List.perm_append_comm.append_left _

end Node

/-- Everything that stands in a module. -/
def everythingIn (body : List Python.Stmt) : List Node :=
  body.flatMap fun statement => (Node.stmt statement).everything

/-- Everything in a module that the walk does not come to. -/
def outOfSightIn (body : List Python.Stmt) : List Node :=
  (walkBody body).flatMap Node.outOfSight

theorem perm_everythingIn (body : List Python.Stmt) :
    (everythingIn body).Perm (walkBody body ++ outOfSightIn body) := by
  have together := Node.perm_flatMap_everything fun node (_ : node ∈ body.map .stmt) => node.perm_everything
  rw [List.flatMap_map, List.flatMap_map] at together
  exact together

theorem Dispatch.map_fst_visitsOf (body : List Python.Stmt) :
    (visitsOf body).map Prod.fst = walkBody body := by
  rw [visitsOf_eq_lineagesOf, List.map_map, ← map_fst_lineagesOf]
  rfl

theorem Node.outOfSight_eq_nil_iff (node : Node) : node.outOfSight = [] ↔ node.overlooked = [] := by
  rw [outOfSight, List.flatMap_eq_nil_iff]
  constructor
  · intro nothing
    refine List.eq_nil_iff_forall_not_mem.mpr fun value member => ?_
    have empty := nothing value member
    rw [everything_eq] at empty
    cases empty
  · intro nothing value member
    rw [nothing] at member
    cases member

/-- The walk covers a module if and only if it passes nothing by. -/
theorem perm_walkBody_iff (body : List Python.Stmt) :
    (walkBody body).Perm (everythingIn body) ↔ ∀ node ∈ walkBody body, node.overlooked = [] := by
  have all := perm_everythingIn body
  have inSight : outOfSightIn body = [] ↔ ∀ node ∈ walkBody body, node.overlooked = [] := by
    simp only [outOfSightIn, List.flatMap_eq_nil_iff, Node.outOfSight_eq_nil_iff]
  rw [← inSight]
  constructor
  · intro covered
    have same := covered.length_eq
    have total := all.length_eq
    rw [List.length_append] at total
    exact List.eq_nil_of_length_eq_zero (by omega)
  · intro nothing
    rw [nothing, List.append_nil] at all
    exact all.symm

/-! ## Calls of eval and exec -/

/-- A call whose callee is the bare name `eval` or `exec`. -/
def Node.isEvalCall : Node → Bool
  | .expr (.call _ (.name _ id) _ _) => id = "eval" || id = "exec"
  | _ => false

theorem Node.kind_of_isEvalCall {node : Node} (isCall : node.isEvalCall = true) : node.kind = .call := by
  unfold isEvalCall at isCall
  split at isCall
  · rfl
  · cases isCall

/-- A dotted name without a dot is a bare name. -/
theorem dottedName?_eq_some_iff {function : Python.Expr} {id : String} (bare : '.' ∉ id.toList) :
    dottedName? function = some id ↔ ∃ extent, function = .name extent id := by
  constructor
  · intro named
    cases function with
    | name extent given =>
      rw [dottedName?] at named
      cases named
      exact ⟨extent, rfl⟩
    | attr extent value name =>
      rw [dottedName?] at named
      obtain ⟨base, _, rfl⟩ := Option.map_eq_some_iff.mp named
      have dotted : '.' ∈ (toString base ++ toString "." ++ toString name).toList := by
        simp only [String.toList_append, List.mem_append]
        exact .inl (.inr (by decide))
      exact absurd dotted bare
    | _ => cases named
  · rintro ⟨extent, rfl⟩
    rfl

namespace Rule

theorem isEvalCall_iff (node : Node) :
    node.isEvalCall = true ↔
      ∃ call, callAt? node = some call ∧ (call.callee = "eval" ∨ call.callee = "exec") := by
  constructor
  · intro isCall
    unfold Node.isEvalCall at isCall
    split at isCall
    · rename_i extent place id arguments keywords
      exact ⟨⟨extent, id, keywords⟩, rfl, by simpa using isCall⟩
    · cases isCall
  · rintro ⟨call, isCall, called⟩
    unfold callAt? at isCall
    split at isCall
    · rename_i extent function arguments keywords
      obtain ⟨callee, named, rfl⟩ := Option.map_eq_some_iff.mp isCall
      have bare : '.' ∉ callee.toList := by
        rcases called with rfl | rfl <;> decide
      obtain ⟨place, rfl⟩ := (dottedName?_eq_some_iff bare).mp named
      simpa [Node.isEvalCall] using called
    · cases isCall

/-- At a node this rule says one thing, if the node is such a call, and otherwise nothing. -/
theorem evaluate_noEval (node : Node) (context : RuleContext) :
    ∃ found, (noEval.evaluate node context).outcome = .findings found ∧
      found.length = if node.isEvalCall then 1 else 0 := by
  refine ⟨_, rfl, ?_⟩
  have calls := isEvalCall_iff node
  cases isCall : callAt? node with
  | none =>
    have notCalled : node.isEvalCall ≠ true := by
      rw [Ne, calls, isCall]
      rintro ⟨call, none, _⟩
      cases none
    rw [if_neg notCalled]
    rfl
  | some call =>
    rw [isCall] at calls
    by_cases called : call.callee = "eval" ∨ call.callee = "exec"
    · rw [if_pos (calls.mpr ⟨call, rfl, called⟩), Option.bind_some]
      dsimp only
      rw [if_pos called]
      rfl
    · have notCalled : node.isEvalCall ≠ true := by
        rw [Ne, calls]
        rintro ⟨_, same, isEval⟩
        cases same
        exact called isEval
      rw [if_neg notCalled, Option.bind_some]
      dsimp only
      rw [if_neg called]
      rfl

end Rule

/-! ## What the rule finds -/

private theorem length_flatMap_of_once {α β : Type} {items : List α} {give : α → List β} {gives : α → Bool}
    (once : ∀ item ∈ items, (give item).length = if gives item then 1 else 0) :
    (items.flatMap give).length = items.countP gives := by
  induction items with
  | nil => rfl
  | cons item items ih =>
    have later := ih fun other member => once other (List.mem_cons_of_mem _ member)
    rw [List.flatMap_cons, List.length_append, once item List.mem_cons_self, later, List.countP_cons,
      Nat.add_comm]

section NoEval

variable {config : Config} {settings : RuleSettings} {source : SourceContext}
  (applies : Analyzer.Applies ⟨.builtin, config⟩ source.path Rule.noEval settings)

include applies

/-- The rule finds the calls that the walk comes to. -/
theorem count_noEval (body : List Python.Stmt) :
    ((Dispatch.fullOutput (Analyzer.routingFor ⟨.builtin, config⟩ source.path) source body).findings.countP
        fun finding => finding.ruleId = "no-eval") =
      (walkBody body).countP Node.isEvalCall := by
  have routed := Routing.mem_all_without applies.registered applies.configured applies.enabled
    applies.notIgnored
  rw [List.countP_eq_length_filter, ← map_fst_lineagesOf, List.countP_map]
  refine (congrArg List.length (Dispatch.findings_of_route routed source body)).trans ?_
  refine length_flatMap_of_once fun lineage _ => ?_
  by_cases isCall : lineage.1.kind = .call
  · obtain ⟨found, outcome, count⟩ := Rule.evaluate_noEval lineage.1
      ⟨source, .inside lineage.2, settings.parameters⟩
    have subscribed : (Rule.noEval.subscriptions.filter fun wanted => wanted = lineage.1.kind) = [.call] := by
      rw [isCall]
      rfl
    rw [subscribed, List.flatMap_singleton, Turn.found, Turn.outcome, outcome]
    exact count
  · have unwanted : (Rule.noEval.subscriptions.filter fun wanted => wanted = lineage.1.kind) = [] := by
      rw [List.filter_eq_nil_iff]
      intro wanted member same
      obtain rfl := List.mem_singleton.mp member
      exact isCall (of_decide_eq_true same).symm
    have notCalled : lineage.1.isEvalCall ≠ true := fun called => isCall (Node.kind_of_isEvalCall called)
    rw [unwanted, Function.comp_apply, if_neg notCalled]
    rfl

end NoEval

/-- The walk comes once to everything in a module but what is out of its sight, so it covers the module if
and only if nothing is. In particular the rule against `eval` and `exec` finds the calls that are in sight. -/
theorem Dispatch.visits_cover (body : List Python.Stmt) :
    (everythingIn body).Perm ((visitsOf body).map Prod.fst ++ outOfSightIn body) ∧
    (((visitsOf body).map Prod.fst).Perm (everythingIn body) ↔
      ∀ visit ∈ visitsOf body, visit.1.overlooked = []) ∧
    ∀ config settings source token,
      Analyzer.Applies ⟨.builtin, config⟩ source.path Rule.noEval settings →
      (run (Analyzer.routingFor ⟨.builtin, config⟩ source.path) source body token).2.cancelled = false →
        ∃ output,
          (run (Analyzer.routingFor ⟨.builtin, config⟩ source.path) source body token).1 = some output ∧
          (output.findings.countP fun finding => finding.ruleId = "no-eval") +
            (outOfSightIn body).countP Node.isEvalCall = (everythingIn body).countP Node.isEvalCall := by
  have all := perm_everythingIn body
  have visited := map_fst_visitsOf body
  refine ⟨visited ▸ all, ?_, ?_⟩
  · rw [visited, perm_walkBody_iff, ← visited, List.forall_mem_map]
  · intro config settings source token applies uncancelled
    refine ⟨_, run_of_uncancelled uncancelled, ?_⟩
    rw [count_noEval applies, all.countP_eq, List.countP_append]

section Instance

/-- The configuration that a run has if nothing is configured. -/
def plainConfig : Config := ⟨Config.initialRules .builtin {}, [], [], .information, .error⟩

private theorem applies_plainConfig :
    Analyzer.Applies ⟨.builtin, plainConfig⟩ "a.py" Rule.noEval ⟨true, .error, []⟩ where
  registered := List.mem_of_getElem? (i := 6) rfl
  configured := rfl
  enabled := rfl
  notIgnored := by decide

private def plainRun (parsed : ParsedSource) : Option WalkOutput × CancelToken :=
  Dispatch.run (Analyzer.routingFor ⟨.builtin, plainConfig⟩ "a.py") ⟨"a.py", parsed.lines⟩ parsed.body .fresh

/-- What is checked by running it on a text that parses. -/
private theorem exists_parsed {text : String} {check : ParsedSource → Bool}
    (checked : (match Source.parse ⟨"a.py", text⟩ with
      | .ok parsed => check parsed
      | .error _ => false) = true) :
    ∃ parsed, Source.parse ⟨"a.py", text⟩ = .ok parsed ∧ check parsed = true := by
  cases parses : Source.parse ⟨"a.py", text⟩ with
  | error cause =>
    rw [parses] at checked
    cases checked
  | ok parsed =>
    rw [parses] at checked
    exact ⟨parsed, rfl, checked⟩

end Instance

/-- A default and a return hint are in sight. -/
theorem Dispatch.visits_cover_default :
    ∃ parsed output,
      Source.parse ⟨"a.py", "def f(x=eval(y)) -> exec(z):\n    pass\n"⟩ = .ok parsed ∧
      (run (Analyzer.routingFor ⟨.builtin, plainConfig⟩ "a.py") ⟨"a.py", parsed.lines⟩ parsed.body
        .fresh).1 = some output ∧
      ((visitsOf parsed.body).map Prod.fst).Perm (everythingIn parsed.body) ∧
      (output.findings.countP fun finding => finding.ruleId = "no-eval") = 2 := by
  obtain ⟨parsed, parses, checked⟩ := @exists_parsed "def f(x=eval(y)) -> exec(z):\n    pass\n"
    (fun parsed => !(plainRun parsed).2.cancelled &&
      (visitsOf parsed.body).all (fun visit => visit.1.overlooked.isEmpty) &&
      (outOfSightIn parsed.body).countP Node.isEvalCall == 0 &&
      (everythingIn parsed.body).countP Node.isEvalCall == 2) (by decide +kernel)
  simp only [Bool.and_eq_true, Bool.not_eq_true', List.all_eq_true, List.isEmpty_iff, beq_iff_eq] at checked
  obtain ⟨⟨⟨uncancelled, inSight⟩, none⟩, two⟩ := checked
  obtain ⟨_, covers, counts⟩ := visits_cover parsed.body
  obtain ⟨output, walked, total⟩ := counts plainConfig _ ⟨"a.py", parsed.lines⟩ .fresh applies_plainConfig
    uncancelled
  rw [none, two] at total
  exact ⟨parsed, output, parses, walked, covers.mpr inSight, total⟩

/-- The hint of a parameter is not: nothing comes to the call in it, and the rule misses it. -/
theorem Dispatch.parameter_hint_not_covered :
    ∃ parsed output,
      Source.parse ⟨"a.py", "def f(x: eval(y)):\n    pass\n"⟩ = .ok parsed ∧
      (run (Analyzer.routingFor ⟨.builtin, plainConfig⟩ "a.py") ⟨"a.py", parsed.lines⟩ parsed.body
        .fresh).1 = some output ∧
      ¬ ((visitsOf parsed.body).map Prod.fst).Perm (everythingIn parsed.body) ∧
      (output.findings.countP fun finding => finding.ruleId = "no-eval") = 0 ∧
      (everythingIn parsed.body).countP Node.isEvalCall = 1 := by
  obtain ⟨parsed, parses, checked⟩ := @exists_parsed "def f(x: eval(y)):\n    pass\n"
    (fun parsed => (plainRun parsed).1.any (fun output =>
        (output.findings.countP fun finding => finding.ruleId = "no-eval") == 0) &&
      ((visitsOf parsed.body).map Prod.fst).countP Node.isEvalCall == 0 &&
      (everythingIn parsed.body).countP Node.isEvalCall == 1) (by decide +kernel)
  simp only [Bool.and_eq_true, Option.any_eq_true, beq_iff_eq] at checked
  obtain ⟨⟨⟨output, walked, found⟩, seen⟩, one⟩ := checked
  refine ⟨parsed, output, parses, walked, fun covered => ?_, found, one⟩
  have same := covered.countP_eq Node.isEvalCall
  rw [seen, one] at same
  cases same

end Lintel
