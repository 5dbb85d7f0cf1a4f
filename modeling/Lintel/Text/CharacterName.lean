import Lintel.Text.CharacterName.Alphabets
import Lintel.Text.CharacterName.Symbols
import Lintel.Text.CharacterName.EastAsia
import Lintel.Text.CharacterName.Ancient
import Lintel.Text.CharacterName.Pictographs

/-!
# Characters by name

The character that a name of Unicode 15 stands for. Upper and lower case are the same. Unified ideographs
and the syllables of Hangul have names made by rule, and the other names come from a table of runs. Aliases
are not among the names.
-/

set_option autoImplicit false

namespace Lintel.Text

/-- Ranges of code points that are unified ideographs. -/
def ideographRanges : List (Nat × Nat) :=
  [(0x3400, 0x4DBF), (0x4E00, 0x9FFF), (0x20000, 0x2A6DF), (0x2A700, 0x2B739), (0x2B740, 0x2B81D),
   (0x2B820, 0x2CEA1), (0x2CEB0, 0x2EBE0), (0x30000, 0x3134A), (0x31350, 0x323AF)]

/-- The value of a digit of a code point in a name. -/
def codeDigit? (c : Char) : Option Nat :=
  if '0' ≤ c ∧ c ≤ '9' then some (c.toNat - 48)
  else if 'A' ≤ c ∧ c ≤ 'F' then some (c.toNat - 55)
  else none

/-- The ideograph with the given code point, in at most five hexadecimal digits. -/
def ideograph? (digits : List Char) : Option Char := do
  if 5 < digits.length then none
  else
    let code ← digits.foldlM (fun value digit => (codeDigit? digit).map (value * 16 + ·)) 0
    if ideographRanges.any fun (first, last) => first ≤ code && code ≤ last then some (Char.ofNat code)
    else none

/-- The short names of the sounds that begin a syllable. -/
def initialSounds : List String :=
  ["G", "GG", "N", "D", "DD", "R", "M", "B", "BB", "S", "SS", "", "J", "JJ", "C", "K", "T", "P", "H"]

/-- The short names of the vowels of a syllable. -/
def vowelSounds : List String :=
  ["A", "AE", "YA", "YAE", "EO", "E", "YEO", "YE", "O", "WA", "WAE", "OE", "YO", "U", "WEO", "WE", "WI",
   "YU", "EU", "YI", "I"]

/-- The short names of the sounds that end a syllable. -/
def finalSounds : List String :=
  ["", "G", "GG", "GS", "N", "NJ", "NH", "D", "L", "LG", "LM", "LB", "LS", "LT", "LP", "LH", "M", "B",
   "BS", "S", "SS", "NG", "J", "C", "K", "T", "P", "H"]

/-- The longest of several sounds at the front of a text: its place, and what follows it. -/
def takeSound? (sounds : List String) (text : List Char) : Option (Nat × List Char) :=
  let fitting := (List.range sounds.length).filterMap fun place => do
    let sound ← sounds[place]?
    let rest ← behind? sound text
    some (place, rest)
  fitting.foldl (fun best found =>
    match best with
    | some (_, rest) => if found.2.length < rest.length then some found else best
    | none => some found) none

/-- The syllable that is spelled by the short names of its sounds. -/
def syllable? (name : List Char) : Option Char := do
  let (first, rest) ← takeSound? initialSounds name
  let (vowel, rest) ← takeSound? vowelSounds rest
  let (last, rest) ← takeSound? finalSounds rest
  if rest.isEmpty then some (Char.ofNat (0xAC00 + (first * 21 + vowel) * 28 + last)) else none

/-- Every run of named characters, in the order of code points. -/
def NamedRun.all : List NamedRun :=
  europeanScripts ++ southAsianScripts ++ otherScripts ++ symbols ++ eastAsianScripts ++ historicScripts
    ++ signScripts ++ pictographs

/-- The character with the given name. -/
def characterNamed? (name : List Char) : Option Char :=
  let name := name.map Char.toUpper
  match behind? "HANGUL SYLLABLE " name, behind? "CJK UNIFIED IDEOGRAPH-" name with
    | some sounds, _ => syllable? sounds
    | none, some digits => ideograph? digits
    | none, none => NamedRun.all.findSome? fun run => run.find? name

end Lintel.Text
