import Lintel.Json.Reader

/-!
# Records that may hold more than is asked for

Members that a record does not ask for are passed over. Passing over a value is more lenient than
reading it: nesting is not limited, numbers may be of any size, and escapes need not make up characters.
-/

set_option autoImplicit false

namespace Lintel.Json

/-- Passes over the rest of a string, the opening quote already taken. -/
def skipString : List Char → Except Fault (List Char)
  | [] => .error .truncated
  | '"' :: rest => .ok rest
  | '\\' :: 'u' :: a :: b :: c :: d :: rest =>
    if [a, b, c, d].all fun digit => (hexValue? digit).isSome then skipString rest
    else .error .malformed
  | '\\' :: escaped :: rest =>
    if escaped = 'u' then .error .malformed
    else if ['"', '\\', '/', 'b', 'f', 'n', 'r', 't'].contains escaped then skipString rest
    else .error .malformed
  | ['\\'] => .error .truncated
  | c :: rest => if c.toNat < 0x20 then .error .malformed else skipString rest

/-- Passes over at least one digit. -/
def skipDigits (input : List Char) : Except Fault (List Char) :=
  match input with
  | [] => .error .truncated
  | c :: rest => if c.isDigit then .ok (rest.dropWhile Char.isDigit) else .error .malformed

/-- Passes over the exponent of a number, if there is one. -/
def skipExponent (input : List Char) : Except Fault (List Char) :=
  let digits : List Char → Except Fault (List Char)
    | '+' :: rest => skipDigits rest
    | '-' :: rest => skipDigits rest
    | rest => skipDigits rest
  match input with
  | 'e' :: rest => digits rest
  | 'E' :: rest => digits rest
  | rest => .ok rest

/-- Passes over a number behind its sign. -/
def skipNumber (input : List Char) : Except Fault (List Char) :=
  match input with
  | '0' :: c :: rest =>
    if c.isDigit then .error .malformed else fraction (c :: rest)
  | _ => do fraction (← skipDigits input)
where
  fraction : List Char → Except Fault (List Char)
    | '.' :: rest => do skipExponent (← skipDigits rest)
    | rest => skipExponent rest

/-- A container that is being passed over. -/
inductive Container where
  | array
  | object
deriving Repr, DecidableEq

def Container.closing : Container → Char
  | .array => ']'
  | .object => '}'

/-- What has to come next. -/
inductive Expected where
  | value
  | firstOrEnd
  | nextOrEnd
deriving Repr, DecidableEq

/-- Passes over the key of a member and its colon; items of an array have none. -/
def skipKey (container : Container) (input : List Char) : Except Fault (List Char) :=
  match container with
  | .array => .ok input
  | .object =>
    match skipSpace input with
    | [] => .error .truncated
    | '"' :: rest => do takeColon (← skipString rest)
    | _ => .error .malformed

/-- Passes over a value inside the given containers, innermost first; `fuel` bounds the steps. -/
def skipFrom : Nat → List Container → Expected → List Char → Except Fault (List Char)
  | 0, _, _, _ => .error .truncated
  | _ + 1, [], .nextOrEnd, input => .ok input
  | _ + 1, [], .firstOrEnd, input => .ok input
  | fuel + 1, container :: outer, .nextOrEnd, input =>
    match skipSpace input with
    | [] => .error .truncated
    | c :: rest =>
      if c = container.closing then skipFrom fuel outer .nextOrEnd rest
      else if c = ',' then do
        skipFrom fuel (container :: outer) .value (← skipKey container rest)
      else .error .malformed
  | fuel + 1, container :: outer, .firstOrEnd, input =>
    match skipSpace input with
    | [] => .error .truncated
    | c :: rest =>
      if c = container.closing then skipFrom fuel outer .nextOrEnd rest
      else do skipFrom fuel (container :: outer) .value (← skipKey container (c :: rest))
  | fuel + 1, containers, .value, input =>
    match skipSpace input with
    | [] => .error .truncated
    | '[' :: rest => skipFrom fuel (.array :: containers) .firstOrEnd rest
    | '{' :: rest => skipFrom fuel (.object :: containers) .firstOrEnd rest
    | '"' :: rest => do skipFrom fuel containers .nextOrEnd (← skipString rest)
    | 'n' :: rest => do skipFrom fuel containers .nextOrEnd (← readLiteral ['u', 'l', 'l'] rest)
    | 't' :: rest => do skipFrom fuel containers .nextOrEnd (← readLiteral ['r', 'u', 'e'] rest)
    | 'f' :: rest => do
      skipFrom fuel containers .nextOrEnd (← readLiteral ['a', 'l', 's', 'e'] rest)
    | '-' :: rest => do skipFrom fuel containers .nextOrEnd (← skipNumber rest)
    | c :: rest =>
      if c.isDigit then do skipFrom fuel containers .nextOrEnd (← skipNumber (c :: rest))
      else .error .malformed

/-- Passes over one value. -/
def skipValue (input : List Char) : Except Fault (List Char) :=
  skipFrom (2 * input.length + 2) [] .value input

/-- Reads a record like `readRecord`, but passes over members that are no fields. -/
def readOpenRecord {σ : Type} (expected : String) (fields : List (Field σ)) (unset : σ) : Reader σ :=
  fun depth input =>
  match skipSpace input with
  | '{' :: rest =>
    match depth with
    | 0 => .error .malformed
    | depth + 1 => do
      let (state, rest) ← readMembers (fun state key =>
        match fields.find? fun field => field.name = key with
        | none => .ok fun input => do .ok (state, ← skipValue input)
        | some field =>
          if field.isSet state then .error (.mismatch (.duplicateField key))
          else .ok (field.read state depth)) (rest.length + 1) true unset rest
      let rest ← closeObject rest
      .ok (state, rest)
  | other => readRecord expected fields unset depth other

/-- Insists on a field. -/
def require {α : Type} (name : String) (value : Option α) : Except Fault α :=
  match value with
  | some value => .ok value
  | none => .error (.mismatch (.missingField name))

/-- Reads a whole number that is not negative. -/
def readNatural : Reader Nat := fun _ input => do
  match skipSpace input with
  | c :: rest =>
    if c.isDigit then
      match ← readUnsigned true (c :: rest) with
      | (.natural value, rest) => .ok (value, rest)
      | (other, _) => .error (.mismatch (.type (.number other) "a natural number"))
    else mismatchAt "a natural number" (c :: rest)
  | [] => .error .truncated

/-- Reads one of several names, written as a string or as the only key of an object with `null` behind
it. -/
def readName {α : Type} (ofName? : String → Option α) : Reader α := fun depth input =>
  let known (name : String) : Except Fault α :=
    match ofName? name with
    | some value => .ok value
    | none => .error (.mismatch (.value name))
  match skipSpace input with
  | '"' :: rest => do
    let (name, rest) ← readStringBody rest
    .ok (← known name, rest)
  | '{' :: rest =>
    match depth with
    | 0 => .error .malformed
    | _ + 1 =>
      match skipSpace rest with
      | '"' :: rest => do
        let (name, rest) ← readStringBody rest
        let value ← known name
        let rest ← takeColon rest
        match skipSpace rest with
        | 'n' :: rest => do
          let rest ← readLiteral ['u', 'l', 'l'] rest
          .ok (value, ← closeObject rest)
        | _ => .error .malformed
      | _ => .error .malformed
  | other => mismatchAt "a name" other

end Lintel.Json
