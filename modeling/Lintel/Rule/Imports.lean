import Lintel.Rule

/-!
# The rule about wildcard imports
-/

set_option autoImplicit false

namespace Lintel.Rule

/-- An import of everything a module holds. A purely relative import is reported as coming from a
dot. -/
def noWildcardImport : Rule where
  id := "no-wildcard-import"
  description := "Wildcard imports hide where names come from"
  severity := .warning
  onByDefault := true
  subscriptions := [.importFrom]
  parameters := []
  evaluate := fun node context =>
    .found <| match node with
      | .stmt (.importFrom extent _ source names) =>
        if names.any fun taken => taken.name = "*" then
          let origin := source.getD "."
          [context.findingAt "no-wildcard-import" .warning extent s!"Wildcard import from '{origin}'"]
        else []
      | _ => []

end Lintel.Rule
