import Lintel.Text.Blank

/-!
# Severity levels

The three levels of a diagnostic, in ascending order, and the spellings by which a user names them.
-/

set_option autoImplicit false

namespace Lintel

/-- How serious a diagnostic is. -/
inductive Severity where
  | information
  | warning
  | error
deriving Repr, DecidableEq, Inhabited

namespace Severity

/-- The levels in ascending order. -/
def all : List Severity := [.information, .warning, .error]

/-- Position of a level in the ascending order. -/
def rank : Severity → Nat
  | .information => 0
  | .warning => 1
  | .error => 2

instance : LE Severity := ⟨fun lower upper => lower.rank ≤ upper.rank⟩

instance (lower upper : Severity) : Decidable (lower ≤ upper) :=
  inferInstanceAs (Decidable (lower.rank ≤ upper.rank))

/-- The name under which a level is reported. -/
def name : Severity → String
  | .information => "Information"
  | .warning => "Warning"
  | .error => "Error"

/-- Reads a level name. Blanks around it and the case of ASCII letters do not matter, and `info` is
short for `information`. -/
def parse? (text : String) : Option Severity :=
  let word := String.ofList (Text.lowerAscii (Text.trim text.toList))
  if word = "error" then some .error
  else if word = "warning" then some .warning
  else if word = "information" ∨ word = "info" then some .information
  else none

/-- Reads a level by the exact name under which it is reported. -/
def ofName? (name : String) : Option Severity :=
  all.find? fun level => level.name = name

/-- The complaint about a text that names no level; the text is quoted as it was given. -/
def unknownMessage (text : String) : String :=
  s!"unknown severity '{text}' (expected Error, Warning or Information)"

end Severity

end Lintel
