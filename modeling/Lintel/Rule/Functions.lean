import Lintel.Rule

/-!
# Rules about functions

Functions that take many parameters, and default values that all calls share.
-/

set_option autoImplicit false

namespace Lintel.Rule

open Python

/-- A function definition as far as these rules look at it. -/
structure FunctionView where
  extent : Extent
  name : String
  parameters : Parameters

/-- The function defined at a node. -/
def functionAt? : Node → Option FunctionView
  | .stmt (.functionDef extent _ _ name _ parameters _ _) => some ⟨extent, name, parameters⟩
  | _ => none

/-- Whether the first positional parameter is the receiver of a method. -/
def hasReceiver (parameters : Parameters) : Bool :=
  match (parameters.positionalOnly ++ parameters.positional).head? with
  | some first => first.name = "self" || first.name = "cls"
  | none => false

/-- How many parameters a caller has to know. In a class body the receiver does not count. -/
def parameterCount (position : Position) (parameters : Parameters) : Nat :=
  let count := parameters.all.length
  if position.parent = some .classDef && hasReceiver parameters then count - 1 else count

def tooManyParameters : Rule where
  id := "too-many-parameters"
  description := "Functions with long parameter lists are hard to call correctly"
  severity := .information
  onByDefault := true
  subscriptions := [.functionDef, .asyncFunctionDef]
  parameters := [⟨"max", .integer, 6⟩]
  evaluate := fun node context =>
    .withInteger context "max" fun limit =>
      match functionAt? node with
      | none => []
      | some function =>
        let count := parameterCount context.position function.parameters
        if limit < count then
          [context.findingAt "too-many-parameters" .information function.extent
            s!"Function '{function.name}' has {count} parameters (max {limit})"]
        else []

/-- Whether an expression makes a container that can change. -/
def isMutable : Expr → Bool
  | .list .. | .dict .. | .set .. | .listComp .. | .dictComp .. | .setComp .. => true
  | .call _ function _ _ =>
    match dottedName? function with
    | some callee => callee = "list" || callee = "dict" || callee = "set"
    | none => false
  | _ => false

def mutableDefaultArgument : Rule where
  id := "mutable-default-argument"
  description := "Mutable default values are shared between calls"
  severity := .warning
  onByDefault := true
  subscriptions := [.functionDef, .asyncFunctionDef]
  parameters := []
  evaluate := fun node context =>
    .found <| match functionAt? node with
      | none => []
      | some function => function.parameters.ordinary.filterMap fun parameter =>
          parameter.initial.bind fun value =>
            if isMutable value then
              some (context.findingAt "mutable-default-argument" .warning value.extent
                s!"Parameter '{parameter.name}' of '{function.name}' has a mutable default value")
            else none

end Lintel.Rule
