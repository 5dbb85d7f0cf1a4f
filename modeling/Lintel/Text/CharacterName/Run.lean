import Lintel.Text.Blank

/-!
# Runs of named characters

Most names of a script begin alike, so a run of code points keeps what their names share once.
-/

set_option autoImplicit false

namespace Lintel.Text

/-- What follows a fixed start of a text. -/
def behind? (start : String) (text : List Char) : Option (List Char) :=
  if start.toList.isPrefixOf text then some (text.drop start.length) else none

/-- Consecutive code points from `start` on: the stem that begins each of their names, and what follows it
in each. Semicolons and line ends separate the endings, and a code point without a name leaves its place
empty. -/
structure NamedRun where
  start : Nat
  stem : String
  endings : List String

/-- The character with a name in a run. -/
def NamedRun.find? (run : NamedRun) (name : List Char) : Option Char := do
  let ending ← behind? run.stem name
  -- An empty place has no name, and no name ends where a stem does.
  if ending.isEmpty then none
  else
    let endings := run.endings.flatMap fun line => splitAll ';' line.toList
    (endings.idxOf? ending).map fun place => Char.ofNat (run.start + place)

end Lintel.Text
