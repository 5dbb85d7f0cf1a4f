import Lintel.Glob
import Lintel.Text.Blank

/-!
# Ignore files

An ignore file lists patterns, one on a line, for the paths below its directory. `!` in front makes an
exception, a slash at the end restricts a pattern to directories, and a slash anywhere else ties it to
the directory of the file. Of all lines that match, the last one decides.
-/

set_option autoImplicit false

namespace Lintel

/-- One line of an ignore file. -/
structure IgnoreRule where
  tokens : List Glob.Token
  isException : Bool
  onlyDirectories : Bool
deriving Repr

/-- What ignore files say of an entry. -/
inductive Verdict where
  | ignored
  | kept
deriving Repr, DecidableEq

namespace IgnoreRule

def startsWith (start : String) (text : List Char) : Bool :=
  start.toList.isPrefixOf text

def endsWith (ending : String) (text : List Char) : Bool :=
  ending.toList.isSuffixOf text

/-- Drops the blanks at the end of a line, unless the last one is escaped. -/
def trimLine (line : List Char) : List Char :=
  if endsWith "\\ " line then line else Text.trimEnd line

/-- A line without the marks at its front: whether it is an exception, whether it is tied to the
directory of the file, and the pattern. -/
def readMarks (line : List Char) : Bool × Bool × List Char :=
  match line with
  | '\\' :: '!' :: rest => (false, false, '!' :: rest)
  | '\\' :: '#' :: rest => (false, false, '#' :: rest)
  | '!' :: '/' :: rest => (true, true, rest)
  | '!' :: rest => (true, false, rest)
  | '/' :: rest => (false, true, rest)
  | rest => (false, false, rest)

/-- A pattern without the slash at its end, and whether there was one. A backslash that escapes the
slash goes with it. -/
def takeFinalSlash (pattern : List Char) : Bool × List Char :=
  match pattern.reverse with
  | '/' :: '\\' :: rest => (true, rest.reverse)
  | '/' :: rest => (true, rest.reverse)
  | _ => (false, pattern)

/-- The glob that a pattern stands for. A pattern without a slash may match at any depth, and one that
ends in `/**` does not match the directory itself. -/
def globOf (isTied : Bool) (pattern : List Char) : List Char :=
  let anywhere :=
    if !isTied && !pattern.contains '/' && !startsWith "**/" pattern && pattern ≠ "**".toList then
      "**/".toList ++ pattern
    else pattern
  if endsWith "/**" anywhere then anywhere ++ "/*".toList else anywhere

/-- Reads a line. Comments, empty lines and lines whose pattern is no glob have no effect. -/
def ofLine? (line : List Char) : Option IgnoreRule :=
  if line.head? = some '#' then none
  else
    let line := trimLine line
    if line.isEmpty then none
    else
      let (isException, isTied, pattern) := readMarks line
      let (onlyDirectories, pattern) := takeFinalSlash pattern
      match Glob.readTokens .literal .start (globOf isTied pattern) with
      | .ok tokens => some ⟨tokens, isException, onlyDirectories⟩
      | .error _ => none

/-- Whether a line is about an entry; `path` leads to it from the directory of the file. -/
def isAbout (rule : IgnoreRule) (path : String) (isDirectory : Bool) : Bool :=
  (isDirectory || !rule.onlyDirectories) && Glob.takesAllInSet false rule.tokens (Glob.utf8 path)

/-- What the lines of a file say of an entry. -/
def verdict? (rules : List IgnoreRule) (path : String) (isDirectory : Bool) : Option Verdict :=
  (rules.reverse.find? fun rule => rule.isAbout path isDirectory).map fun rule =>
    if rule.isException then .kept else .ignored

/-- Cuts bytes at line feeds. -/
def splitBytes : List UInt8 → List (List UInt8)
  | [] => [[]]
  | byte :: rest =>
    if byte = 10 then [] :: splitBytes rest
    else match splitBytes rest with
      | [] => [[byte]]
      | line :: lines => (byte :: line) :: lines

/-- The lines of a file up to the first one that is no text. -/
def textLines : List (List UInt8) → List (List Char)
  | [] => []
  | line :: lines =>
    match String.fromUTF8? ⟨line.toArray⟩ with
    | some text => text.toList :: textLines lines
    | none => []

/-- A byte order mark at the front of a file says nothing. -/
def dropMark (lines : List (List Char)) : List (List Char) :=
  match lines with
  | ('\ufeff' :: line) :: rest => line :: rest
  | other => other

/-- Reads an ignore file. -/
def ofFile (content : ByteArray) : List IgnoreRule :=
  (dropMark (textLines (splitBytes content.toList))).filterMap ofLine?

end IgnoreRule

end Lintel
