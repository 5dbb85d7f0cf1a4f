import Lintel.Python.Ast
import Lintel.Python.Token

/-!
# Reading tokens

A parser takes tokens from the front of a list. It either succeeds with a result or fails, and a
failure anywhere makes the whole source no Python: alternatives are told apart by the next token or
two, so nothing is read twice except the items of a `with` statement.
-/

set_option autoImplicit false

namespace Lintel.Python

/-- The tokens still to be read and the end of the last one taken. -/
structure Cursor where
  rest : List Token
  stop : Nat

/-- Takes tokens from the front and gives a result, or fails. -/
abbrev Parser := StateT Cursor Option

namespace Parser

variable {α : Type}

/-- The class of the next token, without taking it. -/
def peek : Parser TokenKind := do
  match (← get).rest with
  | [] => pure .endOfText
  | token :: _ => pure token.kind

/-- The class of the token after the next one. -/
def peekSecond : Parser TokenKind := do
  match (← get).rest with
  | _ :: token :: _ => pure token.kind
  | _ => pure .endOfText

/-- The offset at which the next token starts. -/
def startOffset : Parser Nat := do
  let cursor ← get
  match cursor.rest with
  | [] => pure cursor.stop
  | token :: _ => pure token.start

/-- Takes the next token. -/
def advance : Parser Token := do
  match (← get).rest with
  | [] => failure
  | token :: rest => do
    set (⟨rest, token.stop⟩ : Cursor)
    pure token

/-- The extent from an offset to the end of the last token taken. -/
def extentFrom (start : Nat) : Parser Extent := do
  return ⟨start, (← get).stop⟩

/-- Takes the next token if it is of the given class, and says whether it was. -/
def take (kind : TokenKind) : Parser Bool := do
  if (← peek) = kind then
    let _ ← advance
    pure true
  else pure false

/-- Takes a token of the given class or fails. -/
def expect (kind : TokenKind) : Parser Unit := do
  if ← take kind then pure () else failure

def takeSymbol (symbol : String) : Parser Bool := take (.symbol symbol)
def expectSymbol (symbol : String) : Parser Unit := expect (.symbol symbol)
def takeKeyword (word : String) : Parser Bool := take (.keyword word)
def expectKeyword (word : String) : Parser Unit := expect (.keyword word)

/-- Takes a name. -/
def identifier : Parser String := do
  match (← advance).kind with
  | .name text => pure text
  | _ => failure

def atSymbol (symbol : String) : Parser Bool := do return (← peek) = .symbol symbol
def atKeyword (word : String) : Parser Bool := do return (← peek) = .keyword word

/-- Reads items as long as the next token is the separator; `fuel` bounds their number. -/
def more (separator : String) (item : Parser α) : Nat → Parser (List α)
  | 0 => failure
  | fuel + 1 => do
    if ← takeSymbol separator then
      let first ← item
      let rest ← more separator item fuel
      pure (first :: rest)
    else pure []

/-- One or more items between separators, without one at the end. -/
def separated (separator : String) (fuel : Nat) (item : Parser α) : Parser (List α) := do
  let first ← item
  let rest ← more separator item fuel
  pure (first :: rest)

/-- Items after the first, each behind a comma; a comma that no item follows ends the list. Tells
whether there was one. -/
def moreOrComma (starts : TokenKind → Bool) (item : Parser α) : Nat → Parser (List α × Bool)
  | 0 => failure
  | fuel + 1 => do
    if ← takeSymbol "," then
      if starts (← peek) then
        let first ← item
        let (rest, trailing) ← moreOrComma starts item fuel
        pure (first :: rest, trailing)
      else pure ([], true)
    else pure ([], false)

/-- One or more items between commas, where a comma may end the list. Tells whether it did. -/
def commaList (starts : TokenKind → Bool) (fuel : Nat) (item : Parser α) :
    Parser (List α × Bool) := do
  let first ← item
  let (rest, trailing) ← moreOrComma starts item fuel
  pure (first :: rest, trailing)

/-- Items up to a closing sign, which is taken, with commas between them and perhaps one at the end. -/
def untilClosing (closing : String) (item : Parser α) : Nat → Parser (List α)
  | 0 => failure
  | fuel + 1 => do
    if ← takeSymbol closing then pure []
    else
      let first ← item
      if ← takeSymbol "," then
        let rest ← untilClosing closing item fuel
        pure (first :: rest)
      else
        expectSymbol closing
        pure [first]

end Parser

end Lintel.Python
