/-!
# Glob tokens

What a glob pattern is made of, and what each part may take from the front of a path. A path is seen as
its UTF-8 bytes, so `?` takes one byte, and a class holds bytes.

Matching is told as the texts that may be left: a token turns one text into all texts that remain when
the token has taken its share, and a pattern matches when nothing may remain.
-/

set_option autoImplicit false

namespace Lintel.Glob

/-- One part of a pattern. The three forms of `**` differ in the slashes they stand for. -/
inductive Token where
  | literal (char : Char)
  | anyByte
  | anyText
  | directoriesBefore
  | everythingBelow
  | directoriesBetween
  | charClass (negated : Bool) (ranges : List (Char × Char))
  | oneOf (branches : List (List Token))
deriving Repr, Inhabited

/-- The UTF-8 bytes of a text. -/
def utf8 (text : String) : List UInt8 :=
  text.toUTF8.toList

def charBytes (c : Char) : List UInt8 :=
  utf8 (String.singleton c)

/-- The byte of a slash. -/
def slash : UInt8 := 47

/-- Whether a range of a class holds a byte. The range reaches from the last byte of its first
character to the first byte of its last character; their other bytes stand for themselves. -/
def rangeHolds (first last : Char) (byte : UInt8) : Bool :=
  let low := charBytes first
  let high := charBytes last
  if first = last then low.contains byte
  else low.dropLast.contains byte || high.tail.contains byte
    || (low.getLast?.getD 0 ≤ byte && byte ≤ high.head?.getD 0)

def classHolds (negated : Bool) (ranges : List (Char × Char)) (byte : UInt8) : Bool :=
  (ranges.any fun (first, last) => rangeHolds first last byte) != negated

/-- What remains of a text behind a fixed start. -/
def dropStart : List UInt8 → List UInt8 → Option (List UInt8)
  | [], text => some text
  | _ :: _, [] => none
  | expected :: more, byte :: rest => if byte = expected then dropStart more rest else none

/-- All texts that remain when any number of the bytes at the front are taken. -/
def suffixes : List UInt8 → List (List UInt8)
  | [] => [[]]
  | byte :: rest => (byte :: rest) :: suffixes rest

/-- All texts that remain when any number of bytes that are no slash are taken. -/
def suffixesInName : List UInt8 → List (List UInt8)
  | [] => [[]]
  | byte :: rest =>
    (byte :: rest) :: (if byte = slash then [] else suffixesInName rest)

/-- All texts that remain behind some slash. -/
def behindSlashes : List UInt8 → List (List UInt8)
  | [] => []
  | byte :: rest => if byte = slash then rest :: behindSlashes rest else behindSlashes rest

/-- Keeps one of several suffixes of the same length. -/
def distinctSuffixes : List (List UInt8) → List (List UInt8)
  | [] => []
  | text :: rest =>
    let kept := distinctSuffixes rest
    if kept.any fun other => other.length = text.length then kept else text :: kept

mutual

/-- Whether a pattern has nothing in it that could take a text: it is empty, or all its parts are
groups whose branches are. -/
def isVoid : List Token → Bool
  | [] => true
  | .oneOf branches :: rest => areVoid branches && isVoid rest
  | _ :: _ => false

def areVoid : List (List Token) → Bool
  | [] => true
  | branch :: rest => isVoid branch && areVoid rest

end

mutual

/-- The texts that may remain behind one token. `crossing` says whether `?` and `*` may take a slash. -/
def remaining (crossing : Bool) : Token → List UInt8 → List (List UInt8)
  | .literal char, text => (dropStart (charBytes char) text).toList
  | .anyByte, byte :: rest => if crossing || byte != slash then [rest] else []
  | .anyByte, [] => []
  | .anyText, text => if crossing then suffixes text else suffixesInName text
  | .directoriesBefore, text => text :: behindSlashes text
  | .everythingBelow, byte :: rest => if byte = slash then suffixes rest else []
  | .everythingBelow, [] => []
  | .directoriesBetween, byte :: rest => if byte = slash then rest :: behindSlashes rest else []
  | .directoriesBetween, [] => []
  | .charClass negated ranges, byte :: rest => if classHolds negated ranges byte then [rest] else []
  | .charClass _ _, [] => []
  | .oneOf branches, text =>
    if areVoid branches then [text] else remainingOfBranches crossing branches text

/-- The texts that may remain behind a sequence of tokens. -/
def remainingOfAll (crossing : Bool) : List Token → List (List UInt8) → List (List UInt8)
  | [], texts => texts
  | token :: rest, texts =>
    remainingOfAll crossing rest (distinctSuffixes (texts.flatMap (remaining crossing token)))

/-- The texts that may remain behind one of several branches. Branches with nothing in them do not
count. -/
def remainingOfBranches (crossing : Bool) : List (List Token) → List UInt8 → List (List UInt8)
  | [], _ => []
  | branch :: rest, text =>
    (if isVoid branch then [] else remainingOfAll crossing branch [text])
      ++ remainingOfBranches crossing rest text

end

/-- Whether a pattern takes the whole of a text. A pattern that is nothing but `**` takes every text. -/
def takesAll (crossing : Bool) (tokens : List Token) (text : List UInt8) : Bool :=
  match tokens with
  | [.directoriesBefore] => true
  | _ => (remainingOfAll crossing tokens [text]).any List.isEmpty

/-- The character that a token stands for, if it stands for one. -/
def Token.char? : Token → Option Char
  | .literal char => some char
  | _ => none

/-- The characters of a pattern that stand for themselves, if they all do. -/
def literalText? (tokens : List Token) : Option (List Char) :=
  tokens.mapM Token.char?

/-- Whether a pattern is known by its text: the whole text, or with `crossing` or behind `**` the end of
it. A lone name behind `**` is known by the name, and a lone extension behind a star by the extension. -/
def isKnownByText (crossing : Bool) : List Token → Bool
  | .directoriesBefore :: .anyText :: rest =>
    crossing && (literalText? rest).any fun text => text != ['.']
  | .directoriesBefore :: rest => (literalText? rest).any fun text => text.contains '/'
  | .anyText :: rest => crossing && (literalText? rest).any fun text => text != ['.']
  | rest => (literalText? rest).isSome

/-- Whether a pattern takes the whole of a text when it is one of a set. A set finds its patterns by the
file name or by the extension, unless they are known by their text. A path that ends in a dot has no file
name, so of the patterns that end in a dot only the latter count. -/
def takesAllInSet (crossing : Bool) (tokens : List Token) (text : List UInt8) : Bool :=
  ((tokens.getLast?.bind Token.char?) ≠ some '.' || isKnownByText crossing tokens)
    && takesAll crossing tokens text

end Lintel.Glob
