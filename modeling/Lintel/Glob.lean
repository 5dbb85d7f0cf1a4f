import Lintel.Glob.Token

/-!
# Globs

Reading of glob patterns: `?` for one byte, `*` for any text, `**` between slashes for any number of
directories, `[…]` for a class, `{…,…}` for alternatives, and a backslash in front of a character that
stands for itself.
-/

set_option autoImplicit false

namespace Lintel

namespace Glob

/-- Why a text is no glob. -/
inductive Fault where
  | unclosedClass
  | invalidRange (first last : Char)
  | unclosedGroup
  | unopenedGroup
  | danglingEscape
deriving Repr, DecidableEq

def Fault.message : Fault → String
  | .unclosedClass => "unclosed character class; missing ']'"
  | .invalidRange first last => s!"invalid range; '{first}' > '{last}'"
  | .unclosedGroup =>
    "unclosed alternate group; missing '\x7d' (maybe escape '\x7b' with '[\x7b]'?)"
  | .unopenedGroup =>
    "unopened alternate group; missing '\x7b' (maybe escape '\x7d' with '[\x7d]'?)"
  | .danglingEscape => "dangling '\\'"

/-- Reads the items of a class up to its closing bracket. A bracket or a dash in the first place stands
for itself, and so does a dash in the last one. Ranges are held last first. -/
def readClass (isFirst inRange : Bool) (ranges : List (Char × Char)) :
    List Char → Except Fault (List (Char × Char) × List Char)
  | [] => .error .unclosedClass
  | c :: rest =>
    if c = ']' ∧ !isFirst then
      .ok (if inRange then ('-', '-') :: ranges else ranges, rest)
    else if c = '-' ∧ !isFirst ∧ !inRange then readClass false true ranges rest
    else if inRange then
      match ranges with
      | (first, _) :: others =>
        if c.toNat < first.toNat then .error (.invalidRange first c)
        else readClass false false ((first, c) :: others) rest
      | [] => readClass false false [(c, c)] rest
    else readClass false false ((c, c) :: ranges) rest

theorem readClass_length {isFirst inRange : Bool} {ranges : List (Char × Char)} {input : List Char}
    {result : List (Char × Char) × List Char}
    (read : readClass isFirst inRange ranges input = .ok result) :
    result.2.length < input.length := by
  fun_induction readClass isFirst inRange ranges input <;> simp_all <;> try omega
  · subst read
    simp

/-- Reads a class, its opening bracket already taken. `!` or `^` in front turns it around. -/
def readCharClass (input : List Char) : Except Fault (Token × List Char) :=
  match input with
  | '!' :: items => (readClass true false [] items).map (close true)
  | '^' :: items => (readClass true false [] items).map (close true)
  | items => (readClass true false [] items).map (close false)
where
  close (negated : Bool) (result : List (Char × Char) × List Char) : Token × List Char :=
    (.charClass negated result.1.reverse, result.2)

theorem readCharClass_length {input : List Char} {result : Token × List Char}
    (read : readCharClass input = .ok result) : result.2.length < input.length := by
  have ofItems : ∀ {negated : Bool} {items : List Char},
      (readClass true false [] items).map (readCharClass.close negated) = .ok result →
        result.2.length < items.length := by
    intro negated items mapped
    cases reading : readClass true false [] items with
    | error fault => simp [reading, Except.map] at mapped
    | ok found =>
      have shorter := readClass_length reading
      simp only [reading, Except.map, Except.ok.injEq] at mapped
      simpa [← mapped, readCharClass.close] using shorter
  unfold readCharClass at read
  split at read
  · exact Nat.lt_succ_of_lt (ofItems read)
  · exact Nat.lt_succ_of_lt (ofItems read)
  · exact ofItems read

/-- A group that is still open: the tokens in front of it and its finished branches, last first. -/
structure OpenGroup where
  before : List Token
  branches : List (List Token)

/-- What a bracket that opens no class means. -/
inductive LoneBracket where
  | refused
  | literal
deriving Repr, DecidableEq

/-- What has been read: the tokens of the current branch, last first, the open groups, innermost first,
and the last character. Behind a bracket that was taken literally there are no classes any more. -/
structure Progress where
  tokens : List Token
  groups : List OpenGroup
  previous : Option Char
  withoutClasses : Bool

namespace Progress

def start : Progress := ⟨[], [], none, false⟩

def push (progress : Progress) (token : Token) (last : Char) : Progress :=
  { progress with tokens := token :: progress.tokens, previous := some last }

/-- Two stars that are no directory wildcard. -/
def pushTwoStars (progress : Progress) : Progress :=
  (progress.push .anyText '*').push .anyText '*'

/-- Puts a directory wildcard in place of the slash in front of it. One that follows another adds
nothing. -/
def replaceSlash (progress : Progress) (token : Token) (last : Char) : Progress :=
  let tokens := match progress.tokens with
    | .directoriesBefore :: rest => .directoriesBefore :: rest
    | .everythingBelow :: rest => .everythingBelow :: rest
    | _ :: rest => token :: rest
    | [] => [token]
  { progress with tokens, previous := some last }

/-- Whether `**` may stand here as a directory wildcard: behind a slash, or at the start of a branch. -/
def wildcardMayFollow (progress : Progress) : Bool :=
  progress.previous = some '/'
    || (!progress.groups.isEmpty && (progress.previous = some ',' || progress.previous = some '{'))

end Progress

/-- Reads what two stars stand for, given the text behind them. Between slashes they are a directory
wildcard, and the slash behind them belongs to it. -/
def readTwoStars (progress : Progress) (behind : List Char) : Progress × List Char :=
  if progress.tokens.isEmpty then
    match behind with
    | [] => (progress.push .directoriesBefore '*', [])
    | '/' :: after => (progress.push .directoriesBefore '/', after)
    | other => (progress.pushTwoStars, other)
  else if progress.wildcardMayFollow then
    match behind with
    | [] => (progress.replaceSlash .everythingBelow '*', [])
    | '/' :: after => (progress.replaceSlash .directoriesBetween '/', after)
    | c :: other =>
      if !progress.groups.isEmpty && (c = ',' || c = '}') then
        (progress.replaceSlash .everythingBelow '*', c :: other)
      else (progress.pushTwoStars, c :: other)
  else (progress.pushTwoStars, behind)

theorem readTwoStars_length (progress : Progress) (behind : List Char) :
    (readTwoStars progress behind).2.length ≤ behind.length := by
  unfold readTwoStars
  repeat' split
  all_goals simp

/-- Reads the rest of a pattern. -/
def readTokens (lone : LoneBracket) (progress : Progress) : List Char → Except Fault (List Token)
  | [] => if progress.groups.isEmpty then .ok progress.tokens.reverse else .error .unclosedGroup
  | '?' :: rest => readTokens lone (progress.push .anyByte '?') rest
  | '*' :: '*' :: rest =>
    readTokens lone (readTwoStars progress rest).1 (readTwoStars progress rest).2
  | '*' :: rest => readTokens lone (progress.push .anyText '*') rest
  | '[' :: rest =>
    if progress.withoutClasses then readTokens lone (progress.push (.literal '[') '[') rest
    else match _reading : readCharClass rest with
      | .error fault =>
        if fault = .unclosedClass ∧ lone = .literal then
          readTokens lone { progress.push (.literal '[') '[' with withoutClasses := true } rest
        else .error fault
      | .ok (token, after) => readTokens lone (progress.push token ']') after
  | '{' :: rest =>
    readTokens lone { progress with
      tokens := [], groups := ⟨progress.tokens, []⟩ :: progress.groups, previous := some '{' } rest
  | '}' :: rest =>
    match progress.groups with
    | [] => .error .unopenedGroup
    | group :: outer =>
      let branches := (progress.tokens.reverse :: group.branches).reverse
      readTokens lone { progress with
        tokens := .oneOf branches :: group.before, groups := outer, previous := some '}' } rest
  | ',' :: rest =>
    match progress.groups with
    | [] => readTokens lone (progress.push (.literal ',') ',') rest
    | group :: outer =>
      let group := { group with branches := progress.tokens.reverse :: group.branches }
      readTokens lone { progress with
        tokens := [], groups := group :: outer, previous := some ',' } rest
  | '\\' :: rest =>
    match rest with
    | [] => .error .danglingEscape
    | c :: after => readTokens lone (progress.push (.literal c) c) after
  | c :: rest => readTokens lone (progress.push (.literal c) c) rest
termination_by input => input.length
decreasing_by
  all_goals simp only [List.length_cons]
  all_goals try omega
  · have shorter := readTwoStars_length progress rest
    omega
  · have shorter := readCharClass_length _reading
    simp only at shorter
    omega

end Glob

/-- A pattern together with its reading. -/
structure Glob where
  pattern : String
  tokens : List Glob.Token
deriving Repr

namespace Glob

/-- Reads a pattern. -/
def parse (pattern : String) : Except Fault Glob := do
  let tokens ← readTokens .refused .start pattern.toList
  .ok ⟨pattern, tokens⟩

/-- Whether the glob matches a path, as it is spelled. `*` and `?` may take a slash. -/
def isMatch (glob : Glob) (path : String) : Bool :=
  takesAll true glob.tokens (utf8 path)

/-- Whether the glob matches a path when it is one of a set. -/
def isMatchInSet (glob : Glob) (path : String) : Bool :=
  takesAllInSet true glob.tokens (utf8 path)

end Glob

end Lintel
