import Lintel.Diagnostic
import Lintel.Node
import Lintel.Table

/-!
# Rules

A rule declares an id, a severity, the kinds of nodes it wants to see and its parameters, and evaluates
one node at a time. Evaluating has no effect but one: a rule may ask for the run to be cancelled. It
ends with findings, with an error, or in a crash that the walk contains.
-/

set_option autoImplicit false

namespace Lintel

/-- An error that a rule reports about itself. -/
inductive RuleError where
  | badParameter (name : String)
  | evaluation (reason : String)
deriving Repr, DecidableEq

def RuleError.message : RuleError → String
  | .badParameter name => s!"parameter '{name}' is missing or has the wrong type"
  | .evaluation reason => reason

/-- The values that a parameter may take. -/
inductive ParameterKind where
  | integer
deriving Repr, DecidableEq

namespace ParameterKind

def describe : ParameterKind → String
  | integer => "non-negative integer"

def accepts : ParameterKind → Json.Value → Bool
  | integer, .number (.natural _) => true
  | integer, _ => false

end ParameterKind

/-- A parameter as a rule declares it. -/
structure ParameterSpec where
  name : String
  kind : ParameterKind
  initial : Nat
deriving Repr, DecidableEq

/-- The values of a rule's parameters. -/
abbrev ParameterValues := Table Json.Value

/-- The value of a whole-number parameter. -/
def ParameterValues.integer (values : ParameterValues) (name : String) : Except RuleError Nat :=
  match Table.find? name values with
  | some (.number (.natural value)) => .ok value
  | _ => .error (.badParameter name)

/-- What a rule may know of the source under analysis. -/
structure SourceContext where
  path : String
  lines : Text.LineIndex

/-- Where a node stands among the blocks around it. -/
structure Position where
  depth : Nat
  parent : Option NodeKind
  inFunction : Bool
  inClass : Bool
deriving Repr, DecidableEq

namespace Position

/-- The place of a statement of the module itself. -/
def top : Position := ⟨0, none, false, false⟩

/-- The place of the children of a node of the given kind. -/
def enter (position : Position) (kind : NodeKind) : Position where
  depth := if kind.isBlock then position.depth + 1 else position.depth
  parent := some kind
  inFunction := position.inFunction || kind.isFunction
  inClass := position.inClass || kind = .classDef

end Position

/-- Everything a rule may look at besides the node. -/
structure RuleContext where
  source : SourceContext
  position : Position
  parameters : ParameterValues

/-- How an evaluation ends. A crash may carry no text. -/
inductive Outcome where
  | findings (found : List Finding)
  | error (cause : RuleError)
  | crash (message : Option String)
deriving Repr, DecidableEq

/-- The outcome of an evaluation, and whether it asked for the run to be cancelled. -/
structure Evaluation where
  outcome : Outcome
  cancels : Bool
deriving Repr, DecidableEq

namespace Evaluation

/-- An evaluation without effect. -/
def pure (outcome : Outcome) : Evaluation := ⟨outcome, false⟩

/-- An evaluation that ends with findings. -/
def found (findings : List Finding) : Evaluation := pure (.findings findings)

/-- An evaluation that needs the value of a parameter before it can look at the node. -/
def withInteger (context : RuleContext) (name : String) (evaluate : Nat → List Finding) :
    Evaluation :=
  match context.parameters.integer name with
  | .ok value => found (evaluate value)
  | .error cause => pure (.error cause)

end Evaluation

/-- A rule. -/
structure Rule where
  id : String
  description : String
  severity : Severity
  onByDefault : Bool
  subscriptions : List NodeKind
  parameters : List ParameterSpec
  evaluate : Node → RuleContext → Evaluation

/-- A finding at a place, under the rule's id and with the severity it declares. -/
def RuleContext.findingAt (context : RuleContext) (ruleId : String) (severity : Severity)
    (extent : Python.Extent) (message : String) : Finding :=
  ⟨ruleId, Span.ofExtent context.source.lines extent, message, severity⟩

end Lintel
