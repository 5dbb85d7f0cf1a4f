import Lintel.Text.Blank

/-!
# Comments of a source

Finds the comments of a source line by line, without a full parse: a `#` inside a string literal is no
comment. A literal in single quotes ends at the end of its line at the latest, unless the line ends in a
backslash; a literal in triple quotes goes on until it is closed.

The scan also notes of each line what directives need to know: whether it holds code, how far it is
indented, and whether it begins inside a literal.
-/

set_option autoImplicit false

namespace Lintel.Suppression

/-- The lines of a text, without the line feed that ends each of them and a carriage return before it. A
line feed at the very end starts no further line. -/
def splitLines : List Char → List (List Char)
  | [] => []
  | c :: rest =>
    if c = '\n' then [] :: splitLines rest
    else match splitLines rest, rest with
      | line :: lines, '\n' :: _ => (if c = '\r' then line else c :: line) :: lines
      | line :: lines, _ => (c :: line) :: lines
      | [], _ => [[c]]

/-- A string literal that has been opened and not closed. -/
structure OpenLiteral where
  quote : Char
  isTriple : Bool
deriving Repr, DecidableEq

/-- What the scan notes of a line. -/
structure LineLayout where
  /-- There is something on the line that is neither blank nor a comment. -/
  hasCode : Bool
  /-- The number of blanks and tabs at its start. -/
  indent : Nat
  /-- The line begins inside a literal. -/
  inLiteral : Bool
deriving Repr, DecidableEq

/-- A comment: its line, its text behind the `#`, and whether code stands in front of it. -/
structure Comment where
  line : Nat
  text : List Char
  trailing : Bool
deriving Repr, DecidableEq

/-- The scan of one line: the literal that is open at its end, whether there is code on it, and the text
of its comment. -/
structure LineScan where
  literal : Option OpenLiteral
  hasCode : Bool
  comment : Option (List Char)
deriving Repr, DecidableEq

/-- Scans the rest of a line, given the literal that is open and whether code has been seen. -/
def scanLine (literal : Option OpenLiteral) (hasCode : Bool) : List Char → LineScan
  | [] => ⟨literal, hasCode, none⟩
  | c :: rest =>
    match literal with
    | some held =>
      if c = '\\' then
        match rest with
        | [] => ⟨literal, hasCode, none⟩
        | _ :: after => scanLine literal hasCode after
      else if c = held.quote then
        if !held.isTriple then scanLine none hasCode rest
        else match rest with
          | second :: third :: after =>
            if second = c ∧ third = c then scanLine none hasCode after
            else scanLine literal hasCode (second :: third :: after)
          | other => scanLine literal hasCode other
      else scanLine literal hasCode rest
    | none =>
      if c = '#' then ⟨none, hasCode, some rest⟩
      else if c = '"' ∨ c = '\'' then
        match rest with
        | second :: third :: after =>
          if second = c ∧ third = c then scanLine (some ⟨c, true⟩) true after
          else scanLine (some ⟨c, false⟩) true (second :: third :: after)
        | other => scanLine (some ⟨c, false⟩) true other
      else scanLine none (hasCode || !Text.isBlank c) rest

/-- The literal that is still open on the next line. -/
def carriedLiteral (line : List Char) (literal : Option OpenLiteral) : Option OpenLiteral :=
  match literal with
  | some held =>
    if held.isTriple || (Text.trimEnd line).getLast? = some '\\' then literal else none
  | none => none

/-- The number of blanks and tabs at the start of a line. -/
def indentOf (line : List Char) : Nat :=
  (line.takeWhile fun c => c = ' ' || c = '\t').length

/-- Scans lines one after another; `number` is the number of the first. -/
def scanLines (number : Nat) (literal : Option OpenLiteral) :
    List (List Char) → List LineLayout × List Comment
  | [] => ([], [])
  | line :: lines =>
    let scan := scanLine literal literal.isSome line
    let (layouts, comments) := scanLines (number + 1) (carriedLiteral line scan.literal) lines
    let layout : LineLayout := ⟨scan.hasCode, indentOf line, literal.isSome⟩
    match scan.comment with
    | some text => (layout :: layouts, ⟨number, text, scan.hasCode⟩ :: comments)
    | none => (layout :: layouts, comments)

/-- The layout of every line of a source, and its comments. -/
def scanComments (source : List Char) : List LineLayout × List Comment :=
  scanLines 1 none (splitLines source)

end Lintel.Suppression
