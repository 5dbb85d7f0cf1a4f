import Lintel.Decimal

/-!
# JSON values

Values of the data format, and their two written forms: compact, without any blank, and indented.
Numbers keep apart what a reader of the format tells apart: whole numbers and doubles.
-/

set_option autoImplicit false

namespace Lintel.Json

/-- A number. A negative whole number is held by its magnitude, a double by its bits. -/
inductive Number where
  | natural (value : Nat)
  | negative (magnitude : Nat)
  | float (bits : UInt64)
deriving Repr, DecidableEq

/-- A value. An object keeps its members in the order in which they are written; one that was read has
its keys in ascending order, each once. -/
inductive Value where
  | null
  | bool (value : Bool)
  | number (value : Number)
  | string (value : String)
  | array (items : List Value)
  | object (members : List (String × Value))
deriving Repr, Inhabited

/-- Decimal digits of a natural number. -/
def naturalText (value : Nat) : List Char :=
  Nat.toDigits 10 value

/-- Text of a number. -/
def Number.text : Number → List Char
  | .natural value => naturalText value
  | .negative magnitude => '-' :: naturalText magnitude
  | .float bits => (Decimal.text bits).toList

/-- A hexadecimal digit, lower case. -/
def hexDigit (value : Nat) : Char :=
  if value < 10 then Char.ofNat (48 + value) else Char.ofNat (87 + value)

/-- One character inside a string. Only the quote, the backslash and control characters below a blank
are escaped; every other character stands for itself. -/
def escapedChar (c : Char) : List Char :=
  match c with
  | '"' => ['\\', '"']
  | '\\' => ['\\', '\\']
  | '\x08' => ['\\', 'b']
  | '\t' => ['\\', 't']
  | '\n' => ['\\', 'n']
  | '\x0c' => ['\\', 'f']
  | '\r' => ['\\', 'r']
  | _ =>
    if c.toNat < 0x20 then ['\\', 'u', '0', '0', hexDigit (c.toNat / 16), hexDigit (c.toNat % 16)]
    else [c]

/-- A text as a JSON string. -/
def stringText (text : String) : List Char :=
  '"' :: text.toList.flatMap escapedChar ++ ['"']

mutual

/-- The compact form of a value. -/
def compact : Value → List Char
  | .null => ['n', 'u', 'l', 'l']
  | .bool true => ['t', 'r', 'u', 'e']
  | .bool false => ['f', 'a', 'l', 's', 'e']
  | .number value => value.text
  | .string value => stringText value
  | .array items => '[' :: compactItems items
  | .object members => '{' :: compactMembers members

/-- The items of an array in compact form, closing bracket included. -/
def compactItems : List Value → List Char
  | [] => [']']
  | [item] => compact item ++ [']']
  | item :: rest => compact item ++ ',' :: compactItems rest

/-- The members of an object in compact form, closing brace included. -/
def compactMembers : List (String × Value) → List Char
  | [] => ['}']
  | [(key, value)] => stringText key ++ ':' :: compact value ++ ['}']
  | (key, value) :: rest => stringText key ++ ':' :: compact value ++ ',' :: compactMembers rest

end

/-- A new line indented by `depth` steps of two blanks. -/
def lineBreak (depth : Nat) : List Char :=
  '\n' :: List.replicate (2 * depth) ' '

mutual

/-- The indented form of a value that stands `depth` steps deep. Empty arrays and objects stay on one
line. -/
def indented (depth : Nat) : Value → List Char
  | .array [] => ['[', ']']
  | .array (item :: rest) =>
    '[' :: lineBreak (depth + 1) ++ indented (depth + 1) item ++ indentedItems depth rest
  | .object [] => ['{', '}']
  | .object ((key, value) :: rest) =>
    '{' :: lineBreak (depth + 1) ++ stringText key ++ ':' :: ' ' :: indented (depth + 1) value
      ++ indentedMembers depth rest
  | value => compact value

/-- The items after the first. -/
def indentedItems (depth : Nat) : List Value → List Char
  | [] => lineBreak depth ++ [']']
  | item :: rest =>
    ',' :: lineBreak (depth + 1) ++ indented (depth + 1) item ++ indentedItems depth rest

/-- The members after the first. -/
def indentedMembers (depth : Nat) : List (String × Value) → List Char
  | [] => lineBreak depth ++ ['}']
  | (key, value) :: rest =>
    ',' :: lineBreak (depth + 1) ++ stringText key ++ ':' :: ' ' :: indented (depth + 1) value
      ++ indentedMembers depth rest

end

/-- The compact text of a value. -/
def Value.compactText (value : Value) : String :=
  String.ofList (compact value)

/-- The indented text of a value. -/
def Value.indentedText (value : Value) : String :=
  String.ofList (indented 0 value)

/-- A whole number as a value. -/
def Value.ofNat (value : Nat) : Value :=
  .number (.natural value)

end Lintel.Json
