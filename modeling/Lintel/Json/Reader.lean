import Lintel.Json.Value
import Lintel.Table
import Lintel.Text.LineIndex
import Lintel.Text.Quoted

/-!
# Reading JSON

A reader takes the text it is given from the left and stops at the first fault. Readers of records are
guided by the shape they expect, so a member of the wrong type is reported before anything that is
malformed further to the right.

Every reader takes the number of containers that may still be opened. A text with more nested
containers than `depthLimit` is malformed.
-/

set_option autoImplicit false

namespace Lintel.Json

/-- What stood in the text where something else was expected. -/
inductive Found where
  | null
  | bool (value : Bool)
  | number (value : Number)
  | string (value : String)
  | array
  | object
deriving Repr, DecidableEq

/-- A well-formed text of the wrong shape. -/
inductive Mismatch where
  | type (found : Found) (expected : String)
  | unknownField (name : String) (known : List String)
  | duplicateField (name : String)
  | missingField (name : String)
  | value (name : String)
  | length (count : Nat)
deriving Repr, DecidableEq

/-- Why reading stopped. -/
inductive Fault where
  | malformed
  | truncated
  | mismatch (cause : Mismatch)
deriving Repr, DecidableEq

def Found.describe : Found → String
  | .null => "null"
  | .bool value => s!"boolean `{value}`"
  | .number (.float bits) => s!"floating point `{Decimal.text bits}`"
  | .number whole => s!"integer `{String.ofList whole.text}`"
  | .string value => "string " ++ Text.quoted value
  | .array => "sequence"
  | .object => "map"

def Mismatch.message : Mismatch → String
  | .type found expected => s!"invalid type: {found.describe}, expected {expected}"
  | .unknownField name known =>
    s!"unknown field `{name}`, expected one of "
      ++ ", ".intercalate (known.map fun field => s!"`{field}`")
  | .duplicateField name => s!"duplicate field `{name}`"
  | .missingField name => s!"missing field `{name}`"
  | .value name => s!"invalid value for `{name}`"
  | .length count => s!"invalid length {count}"

/-- How many containers may be open at once. -/
def depthLimit : Nat := 127

/-- Reads something from the front of a text and hands back the rest. -/
abbrev Reader (α : Type) := Nat → List Char → Except Fault (α × List Char)

/-- The four characters that may stand between tokens. -/
def isSpace (c : Char) : Bool :=
  c == ' ' || c == '\n' || c == '\t' || c == '\r'

def skipSpace (input : List Char) : List Char :=
  input.dropWhile isSpace

/-- Reads the remaining letters of a literal name. -/
def readLiteral : List Char → List Char → Except Fault (List Char)
  | [], input => .ok input
  | _ :: _, [] => .error .truncated
  | expected :: more, c :: rest => if c = expected then readLiteral more rest else .error .malformed

/-- The value of a hexadecimal digit of either case. -/
def hexValue? (c : Char) : Option Nat :=
  if '0' ≤ c ∧ c ≤ '9' then some (c.toNat - 48)
  else if 'a' ≤ c ∧ c ≤ 'f' then some (c.toNat - 87)
  else if 'A' ≤ c ∧ c ≤ 'F' then some (c.toNat - 55)
  else none

/-- Reads the four digits of a numeric escape. A text with fewer than four bytes left is truncated. -/
def readHexEscape (input : List Char) : Except Fault (Nat × List Char) :=
  match input with
  | a :: b :: c :: d :: rest =>
    match hexValue? a, hexValue? b, hexValue? c, hexValue? d with
    | some p, some q, some r, some s => .ok (((p * 16 + q) * 16 + r) * 16 + s, rest)
    | _, _, _, _ => .error .malformed
  | _ => if Text.byteLength input < 4 then .error .truncated else .error .malformed

/-- Reads what follows `\u`: one code unit, or two that make up a surrogate pair. A surrogate that
stands alone is malformed. -/
def readUnicodeEscape (input : List Char) : Except Fault (Char × List Char) := do
  let (first, rest) ← readHexEscape input
  if 0xDC00 ≤ first ∧ first ≤ 0xDFFF then .error .malformed
  else if first < 0xD800 ∨ 0xDBFF < first then .ok (Char.ofNat first, rest)
  else
    let rest ← readLiteral ['\\', 'u'] rest
    let (second, rest) ← readHexEscape rest
    if second < 0xDC00 ∨ 0xDFFF < second then .error .malformed
    else .ok (Char.ofNat (0x10000 + (first - 0xD800) * 0x400 + (second - 0xDC00)), rest)

/-- Reads one escape, the backslash already taken. -/
def readEscape (input : List Char) : Except Fault (Char × List Char) :=
  match input with
  | [] => .error .truncated
  | '"' :: rest => .ok ('"', rest)
  | '\\' :: rest => .ok ('\\', rest)
  | '/' :: rest => .ok ('/', rest)
  | 'b' :: rest => .ok ('\x08', rest)
  | 'f' :: rest => .ok ('\x0c', rest)
  | 'n' :: rest => .ok ('\n', rest)
  | 'r' :: rest => .ok ('\r', rest)
  | 't' :: rest => .ok ('\t', rest)
  | 'u' :: rest => readUnicodeEscape rest
  | _ => .error .malformed

/-- Reads the characters of a string up to its closing quote; `fuel` bounds their number. -/
def readStringChars : Nat → List Char → Except Fault (List Char × List Char)
  | 0, _ => .error .truncated
  | _ + 1, [] => .error .truncated
  | _ + 1, '"' :: rest => .ok ([], rest)
  | fuel + 1, '\\' :: rest => do
    let (c, rest) ← readEscape rest
    let (chars, rest) ← readStringChars fuel rest
    .ok (c :: chars, rest)
  | fuel + 1, c :: rest =>
    if c.toNat < 0x20 then .error .malformed
    else do
      let (chars, rest) ← readStringChars fuel rest
      .ok (c :: chars, rest)

/-- Reads a string, the opening quote already taken. -/
def readStringBody (input : List Char) : Except Fault (String × List Char) := do
  let (chars, rest) ← readStringChars (input.length + 1) input
  .ok (String.ofList chars, rest)

def digitValue (c : Char) : Nat := c.toNat - 48

/-- The largest whole number that is kept as such. -/
def largestWhole : Nat := 0xFFFFFFFFFFFFFFFF

/-- Scales a whole number by a power of ten in double arithmetic: one multiplication or division by a
correctly rounded power, after as many divisions by `1e308` as the exponent asks for. -/
def scaleFloat : Nat → Float → Int → Option Float
  | 0, _, _ => none
  | fuel + 1, value, exponent =>
    if exponent.natAbs ≤ 308 then
      if 0 ≤ exponent then
        let scaled := value * Float.ofScientific 1 false exponent.natAbs
        if scaled.isInf then none else some scaled
      else some (value / Float.ofScientific 1 false exponent.natAbs)
    else if value == 0.0 then some value
    else if 0 ≤ exponent then none
    else scaleFloat fuel (value / Float.ofScientific 1 false 308) (exponent + 308)

/-- The double nearest to the parts of a number. Too large a number is malformed. -/
def floatOfParts (positive : Bool) (significand : Nat) (exponent : Int) : Except Fault Number :=
  match scaleFloat (exponent.natAbs + 1) (UInt64.ofNat significand).toFloat (max exponent (-5000)) with
  | none => .error .malformed
  | some value => .ok (.float (if positive then value else -value).toBits)

/-- Takes digits into the significand as long as it stays a whole number of 64 bits. Gives the
significand, the number of digits taken, and the text after them. -/
def takeDigits (significand taken : Nat) : List Char → Nat × Nat × List Char
  | [] => (significand, taken, [])
  | c :: rest =>
    if c.isDigit then
      let next := significand * 10 + digitValue c
      if next ≤ largestWhole then takeDigits next (taken + 1) rest else (significand, taken, c :: rest)
    else (significand, taken, c :: rest)

/-- The largest exponent that is told apart from a larger one. -/
def largestExponent : Nat := 0x7FFFFFFF

/-- Reads the exponent of a number, the letter already taken. -/
def readExponent (positive : Bool) (significand : Nat) (start : Int) (input : List Char) :
    Except Fault (Number × List Char) :=
  let (upward, input) := match input with
    | '+' :: rest => (true, rest)
    | '-' :: rest => (false, rest)
    | _ => (true, input)
  match input with
  | [] => .error .truncated
  | c :: _ =>
    if c.isDigit then
      let digits := input.takeWhile Char.isDigit
      let rest := input.dropWhile Char.isDigit
      let exponent := digits.foldl (fun value digit => value * 10 + digitValue digit) 0
      if largestExponent < exponent then
        if significand ≠ 0 ∧ upward then .error .malformed
        else .ok (.float (if positive then (0.0 : Float) else -0.0).toBits, rest)
      else do
        let number ← floatOfParts positive significand (if upward then start + exponent else start - exponent)
        .ok (number, rest)
    else .error .malformed

/-- Reads what follows the digits of a significand: an exponent, or nothing. -/
def readScale (positive : Bool) (significand : Nat) (start : Int) (input : List Char) :
    Except Fault (Number × List Char) :=
  match input with
  | 'e' :: rest => readExponent positive significand start rest
  | 'E' :: rest => readExponent positive significand start rest
  | _ => do
    let number ← floatOfParts positive significand start
    .ok (number, input)

/-- Reads the digits after a point, the point already taken. Digits that no longer fit the significand
are dropped. -/
def readFraction (positive : Bool) (significand : Nat) (start : Int) (input : List Char) :
    Except Fault (Number × List Char) :=
  let (significand, taken, rest) := takeDigits significand 0 input
  match rest with
  | [] => if taken = 0 then .error .truncated else readScale positive significand (start - taken) []
  | c :: _ =>
    if c.isDigit then
      readScale positive significand (start - taken) (rest.dropWhile Char.isDigit)
    else if taken = 0 then .error .malformed
    else readScale positive significand (start - taken) rest

/-- Reads the number after its sign. -/
def readUnsigned (positive : Bool) (input : List Char) : Except Fault (Number × List Char) :=
  match input with
  | [] => .error .truncated
  | c :: after =>
    if !c.isDigit then .error .malformed
    else if c = '0' ∧ (after.head?.map Char.isDigit).getD false then .error .malformed
    else
      let (significand, _, rest) := takeDigits 0 0 input
      match rest with
      | '.' :: rest => readFraction positive significand 0 rest
      | 'e' :: rest => readExponent positive significand 0 rest
      | 'E' :: rest => readExponent positive significand 0 rest
      | d :: _ =>
        if d.isDigit then
          let dropped := (rest.takeWhile Char.isDigit).length
          match rest.dropWhile Char.isDigit with
          | '.' :: rest => readFraction positive significand dropped rest
          | rest => readScale positive significand dropped rest
        else wholeNumber positive significand rest
      | [] => wholeNumber positive significand []
where
  /-- A number without point and exponent. A negative number below 64 bits is a double, and so is
  negative zero. -/
  wholeNumber (positive : Bool) (significand : Nat) (rest : List Char) :
      Except Fault (Number × List Char) :=
    if positive then .ok (.natural significand, rest)
    else if significand = 0 ∨ 0x8000000000000000 < significand then do
      let number ← floatOfParts false significand 0
      .ok (number, rest)
    else .ok (.negative significand, rest)

/-- Says what stands at the front of a text that does not begin with what is expected. -/
def mismatchAt {α : Type} (expected : String) (input : List Char) : Except Fault α :=
  let wrong (found : Found) : Except Fault α := .error (.mismatch (.type found expected))
  match input with
  | [] => .error .truncated
  | 'n' :: rest => do let _ ← readLiteral ['u', 'l', 'l'] rest; wrong .null
  | 't' :: rest => do let _ ← readLiteral ['r', 'u', 'e'] rest; wrong (.bool true)
  | 'f' :: rest => do let _ ← readLiteral ['a', 'l', 's', 'e'] rest; wrong (.bool false)
  | '-' :: rest => do let (number, _) ← readUnsigned false rest; wrong (.number number)
  | '"' :: rest => do let (text, _) ← readStringBody rest; wrong (.string text)
  | '[' :: _ => wrong .array
  | '{' :: _ => wrong .object
  | c :: rest =>
    if c.isDigit then do let (number, _) ← readUnsigned true (c :: rest); wrong (.number number)
    else .error .malformed

/-- Reads a truth value. -/
def readBool : Reader Bool := fun _ input =>
  match skipSpace input with
  | 't' :: rest => do let rest ← readLiteral ['r', 'u', 'e'] rest; .ok (true, rest)
  | 'f' :: rest => do let rest ← readLiteral ['a', 'l', 's', 'e'] rest; .ok (false, rest)
  | other => mismatchAt "a boolean" other

/-- Reads a string. -/
def readString : Reader String := fun _ input =>
  match skipSpace input with
  | '"' :: rest => readStringBody rest
  | other => mismatchAt "a string" other

/-- Reads `null` as nothing and all else with the given reader. -/
def readOptional {α : Type} (reader : Reader α) : Reader (Option α) := fun depth input =>
  match skipSpace input with
  | 'n' :: rest => do let rest ← readLiteral ['u', 'l', 'l'] rest; .ok (none, rest)
  | other => do let (value, rest) ← reader depth other; .ok (some value, rest)

/-- Finds the start of the next array item, or nothing at the end. The bracket is left in place. -/
def nextItem (first : Bool) (input : List Char) : Except Fault (Option (List Char)) :=
  match skipSpace input with
  | [] => .error .truncated
  | ']' :: _ => .ok none
  | c :: rest =>
    if first then .ok (some (c :: rest))
    else if c = ',' then
      match skipSpace rest with
      | [] => .error .truncated
      | ']' :: _ => .error .malformed
      | rest => .ok (some rest)
    else .error .malformed

/-- Takes the bracket that closes an array. -/
def closeArray (input : List Char) : Except Fault (List Char) :=
  match skipSpace input with
  | [] => .error .truncated
  | ']' :: rest => .ok rest
  | _ => .error .malformed

/-- Reads the items of an array into an accumulator; `fuel` bounds their number. -/
def readItems {α : Type} (item : List Char → Except Fault (α × List Char)) :
    Nat → Bool → List Char → Except Fault (List α × List Char)
  | 0, _, _ => .error .truncated
  | fuel + 1, first, input => do
    match ← nextItem first input with
    | none => .ok ([], input)
    | some start =>
      let (value, rest) ← item start
      let (values, rest) ← readItems item fuel false rest
      .ok (value :: values, rest)

/-- Reads an array whose items are all of one kind. -/
def readArray {α : Type} (item : Reader α) : Reader (List α) := fun depth input =>
  match skipSpace input with
  | '[' :: rest =>
    match depth with
    | 0 => .error .malformed
    | depth + 1 => do
      let (values, rest) ← readItems (item depth) (rest.length + 1) true rest
      let rest ← closeArray rest
      .ok (values, rest)
  | other => mismatchAt "a sequence" other

/-- Finds the next key of an object, or nothing at the end. The brace is left in place. -/
def nextKey (first : Bool) (input : List Char) : Except Fault (Option (String × List Char)) :=
  let key : List Char → Except Fault (Option (String × List Char))
    | [] => .error .truncated
    | '"' :: rest => do let (name, rest) ← readStringBody rest; .ok (some (name, rest))
    | _ => .error .malformed
  match skipSpace input with
  | [] => .error .truncated
  | '}' :: _ => .ok none
  | c :: rest =>
    if first then key (c :: rest)
    else if c = ',' then key (skipSpace rest)
    else .error .malformed

/-- Takes the colon between a key and its value. -/
def takeColon (input : List Char) : Except Fault (List Char) :=
  match skipSpace input with
  | [] => .error .truncated
  | ':' :: rest => .ok rest
  | _ => .error .malformed

/-- Takes the brace that closes an object. -/
def closeObject (input : List Char) : Except Fault (List Char) :=
  match skipSpace input with
  | [] => .error .truncated
  | '}' :: rest => .ok rest
  | _ => .error .malformed

/-- Reads the members of an object one after another. `member` is told the state so far and the key; it
refuses the key or gives the reader of the value. -/
def readMembers {σ : Type}
    (member : σ → String → Except Fault (List Char → Except Fault (σ × List Char))) :
    Nat → Bool → σ → List Char → Except Fault (σ × List Char)
  | 0, _, _, _ => .error .truncated
  | fuel + 1, first, state, input => do
    match ← nextKey first input with
    | none => .ok (state, input)
    | some (key, rest) =>
      let value ← member state key
      let rest ← takeColon rest
      let (state, rest) ← value rest
      readMembers member fuel false state rest

/-- Reads an object as a table. A key that comes again replaces the earlier value. -/
def readTable {α : Type} (value : Reader α) : Reader (Table α) := fun depth input =>
  match skipSpace input with
  | '{' :: rest =>
    match depth with
    | 0 => .error .malformed
    | depth + 1 => do
      let (table, rest) ← readMembers (fun table key => .ok fun input => do
        let (item, rest) ← value depth input
        .ok (Table.insert key item table, rest)) (rest.length + 1) true [] rest
      let rest ← closeObject rest
      .ok (table, rest)
  | other => mismatchAt "a map" other

/-- One field of a record: its name, whether the state holds it already, and how to read it. -/
structure Field (σ : Type) where
  name : String
  isSet : σ → Bool
  read : σ → Reader σ

/-- The field that a record keeps as an option until it has been read. -/
def Field.of {σ α : Type} (name : String) (current : σ → Option α) (put : σ → α → σ)
    (value : Reader α) : Field σ where
  name
  isSet state := (current state).isSome
  read state depth input := do
    let (item, rest) ← value depth input
    .ok (put state item, rest)

/-- Reads the leading items of an array into the fields of a record, in order. -/
def readPositional {σ : Type} (depth : Nat) :
    List (Field σ) → Bool → σ → List Char → Except Fault (σ × List Char)
  | [], _, state, input => .ok (state, input)
  | field :: fields, first, state, input => do
    match ← nextItem first input with
    | none => .ok (state, input)
    | some start =>
      let (state, rest) ← field.read state depth start
      readPositional depth fields false state rest

/-- Reads a record. An object gives its fields by name, each at most once and no others; an array gives
them by position, and fields past its end are left unset. -/
def readRecord {σ : Type} (expected : String) (fields : List (Field σ)) (unset : σ) : Reader σ :=
  fun depth input =>
  match skipSpace input with
  | '[' :: rest =>
    match depth with
    | 0 => .error .malformed
    | depth + 1 => do
      let (state, rest) ← readPositional depth fields true unset rest
      let rest ← closeArray rest
      .ok (state, rest)
  | '{' :: rest =>
    match depth with
    | 0 => .error .malformed
    | depth + 1 => do
      let (state, rest) ← readMembers (fun state key =>
        match fields.find? fun field => field.name = key with
        | none => .error (.mismatch (.unknownField key (fields.map Field.name)))
        | some field =>
          if field.isSet state then .error (.mismatch (.duplicateField key))
          else .ok (field.read state depth)) (rest.length + 1) true unset rest
      let rest ← closeObject rest
      .ok (state, rest)
  | other => mismatchAt expected other

/-- Reads any value. -/
def readValue : Nat → List Char → Except Fault (Value × List Char)
  | depth, input =>
    match skipSpace input with
    | [] => .error .truncated
    | 'n' :: rest => do let rest ← readLiteral ['u', 'l', 'l'] rest; .ok (.null, rest)
    | 't' :: rest => do let rest ← readLiteral ['r', 'u', 'e'] rest; .ok (.bool true, rest)
    | 'f' :: rest => do let rest ← readLiteral ['a', 'l', 's', 'e'] rest; .ok (.bool false, rest)
    | '-' :: rest => do let (number, rest) ← readUnsigned false rest; .ok (.number number, rest)
    | '"' :: rest => do let (text, rest) ← readStringBody rest; .ok (.string text, rest)
    | '[' :: rest =>
      match depth with
      | 0 => .error .malformed
      | depth + 1 => do
        let (items, rest) ← readItems (readValue depth) (rest.length + 1) true rest
        let rest ← closeArray rest
        .ok (.array items, rest)
    | '{' :: rest =>
      match depth with
      | 0 => .error .malformed
      | depth + 1 => do
        let (members, rest) ← readMembers (fun members key => .ok fun input => do
          let (value, rest) ← readValue depth input
          .ok (Table.insert key value members, rest)) (rest.length + 1) true [] rest
        let rest ← closeObject rest
        .ok (.object members, rest)
    | c :: rest =>
      if c.isDigit then do
        let (number, rest) ← readUnsigned true (c :: rest)
        .ok (.number number, rest)
      else .error .malformed
termination_by structural depth => depth

/-- Reads a whole text: nothing but space may follow. -/
def readWhole {α : Type} (reader : Reader α) (text : String) : Except Fault α := do
  let (value, rest) ← reader depthLimit text.toList
  match skipSpace rest with
  | [] => .ok value
  | _ => .error .malformed

/-- Reads a text as one value. -/
def parse (text : String) : Except Fault Value :=
  readWhole readValue text

end Lintel.Json
