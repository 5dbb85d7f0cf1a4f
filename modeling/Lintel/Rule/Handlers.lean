import Lintel.Rule

/-!
# Rules about exception handlers

Handlers that do nothing and handlers that name no exception.
-/

set_option autoImplicit false

namespace Lintel.Rule

open Python

/-- Whether a statement does nothing: `pass`, or an ellipsis on its own. -/
def doesNothing : Stmt → Bool
  | .pass _ => true
  | .expression _ (.constant _ .ellipsis) => true
  | _ => false

/-- A rule about handlers, given by what it objects to. -/
def aboutHandlers (id description message : String) (isBad : Handler → Bool) : Rule where
  id := id
  description := description
  severity := .warning
  onByDefault := true
  subscriptions := [.exceptHandler]
  parameters := []
  evaluate := fun node context =>
    .found <| match node with
      | .handler clause =>
        if isBad clause then [context.findingAt id .warning clause.extent message] else []
      | _ => []

def noEmptyCatch : Rule :=
  aboutHandlers "no-empty-catch" "Exception handlers must not silently swallow errors"
    "Empty exception handler silently swallows errors" fun clause => clause.body.all doesNothing

def noBareExcept : Rule :=
  aboutHandlers "no-bare-except" "Exception handlers should name the exceptions they catch"
    "Bare 'except:' also catches SystemExit and KeyboardInterrupt" fun clause => clause.type.isNone

end Lintel.Rule
