/-!
# Styled text

Terminal styles: a text between an escape sequence that switches a style on and one that resets it.
-/

set_option autoImplicit false

namespace Lintel.Text

/-- A colour of the letters. -/
inductive Colour where
  | red
  | green
  | yellow
  | cyan
deriving Repr, DecidableEq

def Colour.code : Colour → String
  | .red => "31"
  | .green => "32"
  | .yellow => "33"
  | .cyan => "36"

/-- A weight of the letters. -/
inductive Weight where
  | bold
  | dimmed
deriving Repr, DecidableEq

def Weight.code : Weight → String
  | .bold => "1"
  | .dimmed => "2"

/-- How a text looks. -/
structure Style where
  weight : Option Weight := none
  colour : Option Colour := none
deriving Repr, DecidableEq

/-- Whether a setting is there and is not `0`. -/
def isSwitchedOn (setting : Option String) : Bool :=
  setting.any fun value => value != "0"

/-- Whether output is to be coloured. One setting asks for colours wherever the output goes, one turns
them off whatever its value is, and otherwise a terminal gets colours unless the last setting denies
them. -/
def wantsColour (forced suppressed allowed : Option String) (isTerminal : Bool) : Bool :=
  if isSwitchedOn forced then true
  else if suppressed.isSome then false
  else (allowed.isNone || isSwitchedOn allowed) && isTerminal

/-- The sequence that ends every style. -/
def resetSequence : List Char := "\x1b[0m".toList

/-- The sequence that starts a style: the weight, then the colour. -/
def Style.sequence (style : Style) : List Char :=
  let codes := (style.weight.map Weight.code).toList ++ (style.colour.map Colour.code).toList
  "\x1b[".toList ++ (";".intercalate codes).toList ++ ['m']

/-- Starts a style again behind every reset inside a text; `inside` counts the characters of a reset
that are still to come. -/
def restyle (sequence : List Char) (inside : Nat) : List Char → List Char
  | [] => []
  | c :: rest =>
    if inside = 1 then c :: sequence ++ restyle sequence 0 rest
    else if inside = 0 ∧ resetSequence.isPrefixOf (c :: rest) then
      c :: restyle sequence (resetSequence.length - 1) rest
    else c :: restyle sequence (inside - 1) rest

/-- Fills a text up with blanks to a number of characters. -/
def padEnd (width : Nat) (text : List Char) : List Char :=
  text ++ List.replicate (width - text.length) ' '

/-- A text in a style, filled up to a width. Without colours the style is left out. -/
def styledPadded (coloured : Bool) (style : Style) (width : Nat) (text : String) : String :=
  if coloured then
    String.ofList (style.sequence ++ padEnd width (restyle style.sequence 0 text.toList) ++ resetSequence)
  else String.ofList (padEnd width text.toList)

/-- A text in a style. -/
def styled (coloured : Bool) (style : Style) (text : String) : String :=
  styledPadded coloured style 0 text

end Lintel.Text
