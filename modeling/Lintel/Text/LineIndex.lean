import Lintel.Search

/-!
# Lines and columns of byte offsets

A source text is addressed by UTF-8 byte offsets. A line ends at a line feed and at nothing else, so
a lone carriage return stays inside its line. Columns count characters.
-/

set_option autoImplicit false

namespace Lintel.Text

/-- Number of UTF-8 bytes of a text. -/
def byteLength (text : List Char) : Nat :=
  text.foldl (fun length c => length + c.utf8Size) 0

/-- A position as a reader sees it; both numbers start at one. -/
structure LineColumn where
  line : Nat
  column : Nat
deriving Repr, DecidableEq

/-- A line of the source: its first byte and its characters, the closing line feed included. -/
structure Line where
  start : Nat
  chars : List Char
deriving Repr, DecidableEq

/-- The lines of a text whose first byte is at `start`. A text that ends in a line feed has an empty
last line, and the empty text has one line. -/
def linesFrom (start : Nat) : List Char → List Line
  | [] => [⟨start, []⟩]
  | c :: rest =>
    if c = '\n' then ⟨start, ['\n']⟩ :: linesFrom (start + 1) rest
    else match linesFrom (start + c.utf8Size) rest with
      | [] => [⟨start, [c]⟩]
      | line :: lines => ⟨start, c :: line.chars⟩ :: lines

/-- The number of characters that make up the first `size` bytes, or nothing when the cut falls
inside a character or past the end. -/
def charsInBytes : List Char → Nat → Option Nat
  | _, 0 => some 0
  | [], _ + 1 => none
  | c :: rest, size + 1 =>
    if c.utf8Size ≤ size + 1 then (charsInBytes rest (size + 1 - c.utf8Size)).map (· + 1) else none

/-- The lines of one source text, ready for look-ups by byte offset. -/
structure LineIndex where
  lines : List Line
  size : Nat
deriving Repr, DecidableEq

namespace LineIndex

def ofChars (source : List Char) : LineIndex :=
  ⟨linesFrom 0 source, byteLength source⟩

def ofString (source : String) : LineIndex :=
  ofChars source.toList

/-- Number of lines; at least one for an index made from a text. -/
def lineCount (index : LineIndex) : Nat :=
  index.lines.length

/-- The line that holds a byte offset: the one that starts there, or else the last one in front of the place
where such a line would have to be put. Offsets past the end belong to the last line. -/
def lineOf (index : LineIndex) (offset : Nat) : Nat :=
  match search index.lines fun line => compare line.start offset with
  | .ok place => place + 1
  | .error place => place

/-- Line and column of a byte offset. Offsets past the end are moved back to the end. An offset inside
a character has no character count, so its column counts bytes. -/
def lineColumn (index : LineIndex) (offset : Nat) : LineColumn :=
  let offset := min offset index.size
  let line := index.lineOf offset
  match index.lines[line - 1]? with
  | none => ⟨line, 1⟩
  | some held =>
    let distance := offset - held.start
    ⟨line, (charsInBytes held.chars distance).getD distance + 1⟩

end LineIndex

end Lintel.Text
