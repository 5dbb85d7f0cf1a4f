/-!
# Cancellation

A token says whether a run has been cancelled. A cancelled token stays cancelled. A run looks at its
token only at certain points, so an outside cancellation is described by the number of looks that come
before it.
-/

set_option autoImplicit false

namespace Lintel

/-- The state of cancellation of a run. -/
structure CancelToken where
  cancelled : Bool
  /-- The number of looks before an outside cancellation, if there is one. -/
  looksLeft : Option Nat
deriving Repr, DecidableEq

namespace CancelToken

/-- A token that nobody cancels from outside. -/
def fresh : CancelToken := ⟨false, none⟩

/-- A token that is cancelled from outside after a number of looks. -/
def after (looks : Nat) : CancelToken := ⟨false, some looks⟩

def cancel (token : CancelToken) : CancelToken :=
  { token with cancelled := true }

/-- Looks at a token. -/
def look (token : CancelToken) : Bool × CancelToken :=
  if token.cancelled then (true, token)
  else match token.looksLeft with
    | none => (false, token)
    | some 0 => (true, token.cancel)
    | some (looks + 1) => (false, { token with looksLeft := some looks })

/-- Cancels a token on request. -/
def cancelIf (request : Bool) (token : CancelToken) : CancelToken :=
  if request then token.cancel else token

end CancelToken

end Lintel
