import Lintel.Text.LineIndex

/-!
# Tokens

The words of a Python source. A line break is written in three ways and seen as one, and each token
knows the bytes it came from.
-/

set_option autoImplicit false

namespace Lintel.Python

/-- A character as the scanner sees it, with the byte offset at which it starts. -/
structure Glyph where
  char : Char
  start : Nat
deriving Repr, DecidableEq

/-- The characters of a source. Carriage return, line feed, and the two together are each one line
break. -/
def glyphs (offset : Nat) : List Char → List Glyph
  | [] => []
  | '\r' :: '\n' :: rest => ⟨'\n', offset⟩ :: glyphs (offset + 2) rest
  | '\r' :: rest => ⟨'\n', offset⟩ :: glyphs (offset + 1) rest
  | c :: rest => ⟨c, offset⟩ :: glyphs (offset + c.utf8Size) rest

/-- What the letters before a quote say about a literal. -/
structure LiteralKind where
  isBytes : Bool
  isRaw : Bool
  isFormatted : Bool
deriving Repr, DecidableEq

/-- The class of a token with its content. -/
inductive TokenKind where
  | name (text : String)
  | integer (value : Nat)
  | decimal (written : List Char)
  | imaginary (written : List Char)
  | literal (kind : LiteralKind) (contentStart : Nat) (content : List Char)
  | keyword (text : String)
  | symbol (text : String)
  | newline
  | indent
  | dedent
  | endOfText
deriving Repr, DecidableEq

structure Token where
  kind : TokenKind
  start : Nat
  stop : Nat
deriving Repr, DecidableEq

/-- Words that are never names. -/
def keywords : List String :=
  ["False", "None", "True", "and", "as", "assert", "async", "await", "break", "class", "continue",
   "def", "del", "elif", "else", "except", "finally", "for", "from", "global", "if", "import", "in",
   "is", "lambda", "nonlocal", "not", "or", "pass", "raise", "return", "try", "while", "with", "yield"]

/-- Signs, the longer before the shorter. -/
def symbols : List String :=
  ["**=", "//=", "<<=", ">>=", "...", "==", "!=", "<=", ">=", "->", "+=", "-=", "*=", "/=", "%=", "|=",
   "^=", "&=", "@=", "**", "//", "<<", ">>", ":=", "+", "-", "*", "/", "%", "|", "^", "&", "~", "(",
   ")", "[", "]", "\x7b", "\x7d", ":", ";", ",", ".", "<", ">", "=", "@"]

/-- Signs that open a bracket pair. -/
def isOpening (symbol : String) : Bool :=
  symbol == "(" || symbol == "[" || symbol == "\x7b"

/-- Signs that close a bracket pair. -/
def isClosing (symbol : String) : Bool :=
  symbol == ")" || symbol == "]" || symbol == "\x7d"

end Lintel.Python
