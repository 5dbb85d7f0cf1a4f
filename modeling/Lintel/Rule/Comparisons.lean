import Lintel.Rule

/-!
# The rule about comparisons with `None`
-/

set_option autoImplicit false

namespace Lintel.Rule

open Python

def isNone : Expr → Bool
  | .constant _ .none => true
  | _ => false

/-- What to write in place of the first equality of a chain that has `None` on either side. -/
def identityInstead? : Expr → List Comparison → Option String
  | _, [] => none
  | left, ⟨operator, right⟩ :: rest =>
    if isNone left || isNone right then
      match operator with
      | .equal => some "is"
      | .notEqual => some "is not"
      | _ => identityInstead? right rest
    else identityInstead? right rest

def compareToNone : Rule where
  id := "compare-to-none"
  description := "Comparisons to None should use 'is' or 'is not'"
  severity := .information
  onByDefault := true
  subscriptions := [.compare]
  parameters := []
  evaluate := fun node context =>
    .found <| match node with
      | .expr (.compare extent left rest) =>
        match identityInstead? left rest with
        | some instead =>
          [context.findingAt "compare-to-none" .information extent
            s!"Comparison to None should use '{instead}'"]
        | none => []
      | _ => []

end Lintel.Rule
