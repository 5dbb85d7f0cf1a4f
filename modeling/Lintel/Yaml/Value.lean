import Lintel.Json.Value
import Lintel.Table
import Lintel.Yaml.Node

/-!
# YAML nodes as values

What a scalar means: a plain one may be nothing, a truth value or a number, and one in quotes is a text.
A tag of the standard decides the type, and any other tag is refused.
-/

set_option autoImplicit false

namespace Lintel.Yaml

open Json (Value Number)

/-- Whether a text means nothing. -/
def isNull (text : String) : Bool :=
  text = "null" || text = "Null" || text = "NULL" || text = "~"

def readBool? (text : String) : Option Bool :=
  if text = "true" || text = "True" || text = "TRUE" then some true
  else if text = "false" || text = "False" || text = "FALSE" then some false
  else none

/-- The value of a digit in a base. -/
def digitValue? (base : Nat) (c : Char) : Option Nat :=
  match hexValue? c with
  | some value => if value < base then some value else none
  | none => none

/-- The number that digits stand for; there has to be one. -/
def readDigits? (base : Nat) (digits : List Char) : Option Nat :=
  if digits.isEmpty then none
  else digits.foldlM (fun value digit => do return value * base + (← digitValue? base digit)) 0

/-- A number with a base in front of its digits. -/
def readBased? (text : List Char) : Option Nat :=
  match text with
  | '0' :: 'x' :: digits => readDigits? 16 digits
  | '0' :: 'o' :: digits => readDigits? 8 digits
  | '0' :: 'b' :: digits => readDigits? 2 digits
  | _ => none

/-- Whether a text consists of digits but is no number, because it starts with a zero. -/
def isZeroPadded (text : List Char) : Bool :=
  let digits := match text with
    | '-' :: rest => rest
    | '+' :: rest => rest
    | other => other
  match digits with
  | '0' :: d :: rest => (d :: rest).all Char.isDigit
  | _ => false

/-- A whole number: its sign and its magnitude. -/
def readWhole? (text : List Char) : Option (Bool × Nat) :=
  let unsigned := match text with
    | '+' :: rest => rest
    | other => other
  match readBased? unsigned with
  | some value => some (true, value)
  | none =>
    if isZeroPadded text then negativeBased text
    else match readDigits? 10 unsigned with
      | some value => some (true, value)
      | none =>
        match text with
        | '-' :: digits =>
          match readBased? digits with
          | some value => some (false, value)
          | none => (readDigits? 10 digits).map fun value => (false, value)
        | _ => none
where
  negativeBased : List Char → Option (Bool × Nat)
    | '-' :: digits => (readBased? digits).map fun value => (false, value)
    | _ => none

/-- A whole number as a value. One that takes more than 64 bits is refused, unless it takes more than
128: then it is no whole number. -/
def wholeValue (positive : Bool) (magnitude : Nat) : Option (Option Value) :=
  if positive then
    if magnitude < Nat.pow 2 64 then some (some (.number (.natural magnitude)))
    else if magnitude < Nat.pow 2 128 then some none
    else none
  else if magnitude = 0 then some (some (.number (.natural 0)))
  else if magnitude ≤ Nat.pow 2 63 then some (some (.number (.negative magnitude)))
  else if magnitude ≤ Nat.pow 2 127 then some none
  else none

/-- The exponent at the end of a number. -/
def readExponent? (text : List Char) : Option Int :=
  let digits (sign : Int) (rest : List Char) : Option Int :=
    (readDigits? 10 rest).map fun value => sign * (value : Int)
  match text with
  | [] => some 0
  | mark :: rest =>
    if mark = 'e' ∨ mark = 'E' then
      match rest with
      | '-' :: rest => digits (-1) rest
      | '+' :: rest => digits 1 rest
      | rest => digits 1 rest
    else none

/-- The double nearest to a number, if it is finite. -/
def nearestFloat? (negative : Bool) (significand : Nat) (exponent : Int) : Option Float :=
  let width := (Nat.toDigits 10 significand).length
  let value :=
    if significand = 0 ∨ exponent + width < -400 then some 0.0
    else if 400 < exponent + width then none
    else
      let found := Float.ofScientific significand (exponent < 0) exponent.natAbs
      if found.isFinite then some found else none
  value.map fun found => if negative then -found else found

/-- A number with a point or an exponent. -/
def readDecimal? (text : List Char) : Option Float :=
  let (negative, unsigned) := match text with
    | '-' :: rest => (true, rest)
    | '+' :: rest => (false, rest)
    | other => (false, other)
  let whole := unsigned.takeWhile Char.isDigit
  let behind := unsigned.dropWhile Char.isDigit
  let (fraction, behind) := match behind with
    | '.' :: rest => (rest.takeWhile Char.isDigit, rest.dropWhile Char.isDigit)
    | other => ([], other)
  match readDigits? 10 (whole ++ fraction), readExponent? behind with
  | some significand, some exponent => nearestFloat? negative significand (exponent - fraction.length)
  | _, _ => none

/-- A number as a double. Infinity and what is no number have names of their own, and no value. -/
def readFloat? (text : List Char) : Option Value :=
  let unsigned := match text with
    | '+' :: rest => rest
    | other => other
  let name := String.ofList unsigned
  let full := String.ofList text
  if name = ".inf" || name = ".Inf" || name = ".INF" || full = "-.inf" || full = "-.Inf"
      || full = "-.INF" || full = ".nan" || full = ".NaN" || full = ".NAN" then some .null
  else match text with
    | '+' :: '+' :: _ => none
    | '+' :: '-' :: _ => none
    | _ => (readDecimal? text).map fun value => .number (.float value.toBits)

/-- The value of a plain scalar. -/
def plainValue? (text : String) : Option Value :=
  let chars := text.toList
  if text.isEmpty || isNull text then some .null
  else match readBool? text with
    | some value => some (.bool value)
    | none =>
      match (readWhole? chars).bind fun whole => wholeValue whole.1 whole.2 with
      | some value => value
      | none =>
        if isZeroPadded chars then some (.string text)
        else some ((readFloat? chars).getD (.string text))

/-- The name of a type of the standard. -/
def standardTag (name : String) : String := "tag:yaml.org,2002:" ++ name

/-- Whether a tag is one of a document's own. -/
def isLocalTag (tag : Option String) : Bool :=
  match tag with
  | some name => name.toList.head? = some '!'
  | none => false

/-- The value of a scalar. -/
def scalarValue? (text : String) (style : ScalarStyle) (tag : Option String) : Option Value :=
  match tag with
  | none => if style = .plain then plainValue? text else some (.string text)
  | some name =>
    if isLocalTag tag then none
    else if name = standardTag "bool" then (readBool? text).map .bool
    else if name = standardTag "int" then
      ((readWhole? text.toList).bind fun whole => wholeValue whole.1 whole.2).join
    else if name = standardTag "float" then readFloat? text.toList
    else if name = standardTag "null" then if isNull text then some .null else none
    else some (.string text)

/-- The text of a scalar. -/
def Node.text? : Node → Option String
  | .scalar text _ _ => some text
  | _ => none

mutual

/-- The value of a node; at most `depth` containers may be nested. Keys are texts, and the last of
several entries with one key counts. -/
def valueOf (depth : Nat) : Node → Option Value
  | .scalar text style tag => scalarValue? text style tag
  | .sequence items tag =>
    if depth = 0 || isLocalTag tag then none else do some (.array (← valuesOf (depth - 1) items))
  | .mapping entries tag =>
    if depth = 0 || isLocalTag tag then none else do some (.object (← membersOf (depth - 1) entries []))

def valuesOf (depth : Nat) : List Node → Option (List Value)
  | [] => some []
  | item :: items => do
    let value ← valueOf depth item
    some (value :: (← valuesOf depth items))

def membersOf (depth : Nat) : List (Node × Node) → Table Value → Option (Table Value)
  | [], members => some members
  | (key, node) :: entries, members => do
    let name ← key.text?
    let value ← valueOf depth node
    membersOf depth entries (Table.insert name value members)

end

end Lintel.Yaml
