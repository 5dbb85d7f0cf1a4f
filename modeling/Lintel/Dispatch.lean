import Lintel.Cancellation
import Lintel.Routing

/-!
# Dispatch

One walk over a module, parents before children, that hands each node to the rules routed to its kind.
A rule that errs or crashes is recorded as a failure at that node, and every other evaluation goes on.
A walk that finds its token cancelled gives nothing at all.
-/

set_option autoImplicit false

namespace Lintel

/-- A rule that erred or crashed at a node. -/
structure RuleFailure where
  ruleId : String
  span : Span
  reason : String
deriving Repr, DecidableEq

/-- What a walk collects, each list in the order of the walk. -/
structure WalkOutput where
  findings : List Finding := []
  failures : List RuleFailure := []
  /-- First and last line of each statement. -/
  statements : List (Nat × Nat) := []
  evaluations : Nat := 0
deriving Repr, DecidableEq

namespace WalkOutput

def append (first second : WalkOutput) : WalkOutput where
  findings := first.findings ++ second.findings
  failures := first.failures ++ second.failures
  statements := first.statements ++ second.statements
  evaluations := first.evaluations + second.evaluations

instance : Append WalkOutput := ⟨append⟩

/-- One output after the other. -/
def concat (outputs : List WalkOutput) : WalkOutput :=
  outputs.foldr append {}

end WalkOutput

/-- A part of a walk: it gives nothing once the token is found cancelled. -/
abbrev Walk := OptionT (StateM CancelToken)

namespace Walk

/-- Goes on only if the run has not been cancelled. -/
def checkpoint : Walk Unit := fun token =>
  match token.look with
  | (true, token) => (none, token)
  | (false, token) => (some (), token)

/-- Cancels the run on request. -/
def request (cancels : Bool) : Walk Unit := fun token =>
  (some (), token.cancelIf cancels)

end Walk

namespace Dispatch

/-- Why an evaluation failed. -/
def failureReason? : Outcome → Option String
  | .findings _ => none
  | .error cause => some cause.message
  | .crash message => some ("panicked: " ++ message.getD "unknown panic payload")

/-- The evaluation of a node under a route. -/
def evaluate (source : SourceContext) (node : Node) (position : Position) (route : Route) :
    Evaluation :=
  route.rule.evaluate node ⟨source, position, route.parameters⟩

/-- What one evaluation adds to the output of a walk. -/
def record (source : SourceContext) (node : Node) (route : Route) (outcome : Outcome) : WalkOutput where
  findings := match outcome with
    | .findings found => found
    | _ => []
  failures := match failureReason? outcome with
    | some reason => [⟨route.rule.id, Span.ofExtent source.lines node.extent, reason⟩]
    | none => []
  evaluations := 1

/-- The lines of a node, if it is a statement. -/
def statementLines (source : SourceContext) : Node → List (Nat × Nat)
  | .stmt statement =>
    let extent := (Node.stmt statement).extent
    [(source.lines.lineOf extent.start, source.lines.lineOf extent.stop)]
  | _ => []

/-- What a node itself adds, and whether one of its evaluations asks for the run to be cancelled. -/
def atNode (routing : Routing) (source : SourceContext) (node : Node) (position : Position) :
    WalkOutput × Bool :=
  let results := (routing.routes node.kind).map fun route =>
    (route, evaluate source node position route)
  let recorded := results.map fun (route, result) => record source node route result.outcome
  ({ WalkOutput.concat recorded with statements := statementLines source node },
    results.any fun (_, result) => result.cancels)

/-- Walks a node and everything below it. -/
def visit (routing : Routing) (source : SourceContext) (node : Node) (position : Position) :
    Walk WalkOutput := do
  Walk.checkpoint
  let (here, cancels) := atNode routing source node position
  Walk.request cancels
  let below ← node.children.attach.mapM fun ⟨child, _⟩ =>
    visit routing source child (position.enter node.kind)
  return here ++ WalkOutput.concat below
termination_by sizeOf node
decreasing_by exact Node.sizeOf_lt_of_mem_children (by assumption)

/-- Walks the statements of a module. -/
def visitBody (routing : Routing) (source : SourceContext) (body : List Python.Stmt) :
    Walk WalkOutput := do
  let outputs ← body.mapM fun statement => visit routing source (.stmt statement) .top
  return WalkOutput.concat outputs

/-- Runs the rules over a module: the output of the walk, unless the run was cancelled on the way, and
the token afterwards. -/
def run (routing : Routing) (source : SourceContext) (body : List Python.Stmt) (token : CancelToken) :
    Option WalkOutput × CancelToken :=
  (visitBody routing source body).run.run token

end Dispatch

end Lintel
