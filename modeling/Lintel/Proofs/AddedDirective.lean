import Lintel.Proofs.Directives

/-!
# One more directive

A directive that disables one line, written behind a line without a comment, exempts the rules it lists on
that line and changes nothing else. The comment leaves the layout of every line as far as other directives
look at it, it is read back as it was written, and what it adds is closed from the start, so no directive
behind it can touch it.
-/

set_option autoImplicit false

namespace Lintel

namespace Suppression

/-! ## Reading what was written -/

/-- A name that a directive may list: it stands for all rules, or it has the form of an id and is known. -/
def IsListable (registry : Registry) (name : String) : Prop :=
  name = "all" ∨ isRuleId name.toList = true ∧ isKnownId registry name = true

def Selector.ofName (name : String) : Selector :=
  if name = "all" then .all else .rule name

theorem Selector.isAbout_ofName (name ruleId : String) :
    (ofName name).isAbout ruleId = true ↔ name = "all" ∨ name = ruleId := by
  by_cases isAll : name = "all"
  · simp [ofName, isAll, isAbout]
  · simp [ofName, isAll, isAbout]

/-- The text behind a `#` that disables its line for the rules with the given names. -/
def disableLineText (names : List String) : List Char :=
  " skylos: disable-line=".toList ++ [','].intercalate (names.map String.toList)

/-- What is written behind a line to disable it for these rules. -/
def lineDirective (names : List String) : List Char :=
  "  # skylos: disable-line=".toList ++ [','].intercalate (names.map String.toList)

def isNameChar (c : Char) : Bool :=
  isIdChar c || c = '-'

theorem isBlank_of_isNameChar {c : Char} (isName : isNameChar c = true) : Text.isBlank c = false := by
  simp only [isNameChar, isIdChar, isIdLetter, Bool.or_eq_true, Bool.and_eq_true, decide_eq_true_eq] at isName
  have code : 97 ≤ c.toNat ∧ c.toNat ≤ 122 ∨ 48 ≤ c.toNat ∧ c.toNat ≤ 57 ∨ c.toNat = 45 := by
    rcases isName with (⟨low, high⟩ | ⟨low, high⟩) | rfl
    · exact .inl ⟨low, high⟩
    · exact .inr (.inl ⟨low, high⟩)
    · exact .inr (.inr rfl)
  simp only [Text.isBlank, Bool.or_eq_false_iff, Bool.and_eq_false_iff, beq_eq_false_iff_ne,
    decide_eq_false_iff_not]
  omega

theorem isNameChar_of_isRuleId {text : List Char} (isId : isRuleId text = true) :
    text ≠ [] ∧ ∀ c ∈ text, isNameChar c = true := by
  simp only [isRuleId, Bool.and_eq_true, List.all_eq_true] at isId
  refine ⟨?_, fun c member => ?_⟩
  · rintro rfl
    cases isId.1
  · rcases @Text.mem_pieces_of_mem '-' c text member with rfl | ⟨word, listed, inside⟩
    · rfl
    · simp [isNameChar, (isId.2 word listed).2 c inside]

theorem IsListable.nameChars {registry : Registry} {name : String} (listable : IsListable registry name) :
    name.toList ≠ [] ∧ ∀ c ∈ name.toList, isNameChar c = true := by
  rcases listable with rfl | ⟨isId, -⟩
  · exact isNameChar_of_isRuleId (by decide +kernel)
  · exact isNameChar_of_isRuleId isId

section Written

variable {registry : Registry} {names : List String}

theorem readSelectors_names (listable : ∀ name ∈ names, IsListable registry name) :
    readSelectors registry (names.map String.toList) = (some (names.map Selector.ofName), []) := by
  induction names with
  | nil => rfl
  | cons name names ih =>
    have here := listable name List.mem_cons_self
    obtain ⟨nonempty, chars⟩ := here.nameChars
    have trimmed : Text.trim name.toList = name.toList := by
      refine @Text.trim_append [] name.toList ?_ nonempty fun c member => isBlank_of_isNameChar (chars c member)
      exact fun c isFirst => isBlank_of_isNameChar (chars c (List.mem_of_head? isFirst))
    rw [List.map_cons, readSelectors]
    simp only [trimmed, List.isEmpty_eq_false_iff.mpr nonempty, String.ofList_toList,
      ih fun other member => listable other (List.mem_cons_of_mem _ member)]
    rcases here with rfl | ⟨isId, isKnown⟩
    · simp [Selector.ofName]
    · by_cases isAll : name = "all"
      · simp [Selector.ofName, isAll]
      · simp [Selector.ofName, isAll, isId, isKnown]

theorem splitAll_joined (nonempty : names ≠ []) (listable : ∀ name ∈ names, IsListable registry name) :
    Text.splitAll ',' ([','].intercalate (names.map String.toList)) = names.map String.toList := by
  rw [Text.splitAll_eq_splitOn]
  refine List.splitOn_intercalate ',' ?_ (by simpa using nonempty)
  intro piece listed inside
  obtain ⟨name, member, rfl⟩ := List.mem_map.mp listed
  exact absurd ((listable name member).nameChars.2 ',' inside) (by decide)

theorem solid_joined (nonempty : names ≠ []) (listable : ∀ name ∈ names, IsListable registry name) :
    [','].intercalate (names.map String.toList) ≠ [] ∧
      ∀ c ∈ [','].intercalate (names.map String.toList), Text.isBlank c = false := by
  have pieces := splitAll_joined nonempty listable
  refine ⟨fun isNil => ?_, fun c member => ?_⟩
  · rw [isNil] at pieces
    obtain ⟨name, member, isNil⟩ : ∃ name ∈ names, name.toList = [] :=
      List.mem_map.mp (pieces ▸ List.mem_singleton_self [])
    exact (listable name member).nameChars.1 isNil
  · rcases @Text.mem_pieces_of_mem ',' c _ member with rfl | ⟨piece, listed, inside⟩
    · decide
    · rw [pieces] at listed
      obtain ⟨name, member, rfl⟩ := List.mem_map.mp listed
      exact isBlank_of_isNameChar ((listable name member).nameChars.2 c inside)

/-- A directive that disables its line is read back with the rules it was written with. -/
theorem readComment_disableLineText (nonempty : names ≠ [])
    (listable : ∀ name ∈ names, IsListable registry name) :
    readComment registry (disableLineText names) = (some ⟨.disableLine, names.map Selector.ofName⟩, []) := by
  have pieces := splitAll_joined nonempty listable
  obtain ⟨joinedNonempty, solid⟩ := solid_joined nonempty listable
  unfold disableLineText
  generalize [','].intercalate (names.map String.toList) = joined at pieces joinedNonempty solid ⊢
  have trimmed : Text.trim (" skylos: disable-line=".toList ++ joined) = "skylos: disable-line=".toList ++ joined := by
    rw [← @Text.trim_append "skylos: disable-line=".toList joined (by rintro c ⟨⟩; rfl) joinedNonempty solid]
    exact Text.trim_blank_cons rfl _
  have trimmedBody : Text.trim (" disable-line=".toList ++ joined) = "disable-line=".toList ++ joined := by
    rw [← @Text.trim_append "disable-line=".toList joined (by rintro c ⟨⟩; rfl) joinedNonempty solid]
    exact Text.trim_blank_cons rfl _
  -- the other way to disable a line has two blanks in it, and there is only one here
  have notPragma : Text.contains pragma ("skylos: disable-line=".toList ++ joined) = false := by
    rw [Bool.eq_false_iff]
    intro found
    have counted := (Text.contains_iff_isInfix.mp found).sublist.count_le ' '
    have none : joined.count ' ' = 0 := List.count_eq_zero.mpr fun inside => absurd (solid ' ' inside) (by decide)
    rw [List.count_append, none] at counted
    exact absurd counted (by decide)
  have isMarked : marker.isPrefixOf ("skylos: disable-line=".toList ++ joined) = true := rfl
  have body : ("skylos: disable-line=".toList ++ joined).drop marker.length = " disable-line=".toList ++ joined := rfl
  have split : Text.splitFirst '=' ("disable-line=".toList ++ joined) = some ("disable-line".toList, joined) := rfl
  have action : Action.ofName? (String.ofList (Text.trim "disable-line".toList)) = some .disableLine := by decide
  have named : (Text.trim "disable-line".toList).isEmpty = false := by decide
  simp only [readComment, trimmed, notPragma, isMarked, body, trimmedBody, readBody, split, action, named, pieces,
    readSelectors_names listable]
  simp [nonEmpty, nonempty]

/-- What is written behind a line stays on it. -/
theorem lineDirective_whole (nonempty : names ≠ []) (listable : ∀ name ∈ names, IsListable registry name) :
    '\n' ∉ lineDirective names ∧ '\r' ∉ lineDirective names := by
  obtain ⟨-, solid⟩ := solid_joined nonempty listable
  have absent : ∀ c, Text.isBlank c = true → c ∉ "  # skylos: disable-line=".toList → c ∉ lineDirective names := by
    intro c isBlank notFront inside
    rcases List.mem_append.mp inside with front | joined
    · exact notFront front
    · rw [solid c joined] at isBlank
      cases isBlank
  exact ⟨absent '\n' (by decide) (by decide), absent '\r' (by decide) (by decide)⟩

end Written

/-! ## The edited source -/

/-- The text with more characters behind its line in a place; lines are counted from zero. -/
def appendAt (added : List Char) : Nat → List Char → List Char
  | place, [] => if place = 0 then added else []
  | place, c :: rest =>
    if c ≠ '\n' then c :: appendAt added place rest
    else if place = 0 then added ++ c :: rest
    else c :: appendAt added (place - 1) rest

theorem appendAt_append {line : List Char} (whole : '\n' ∉ line) (added : List Char) (place : Nat)
    (rest : List Char) : appendAt added place (line ++ rest) = line ++ appendAt added place rest := by
  induction line with
  | nil => rfl
  | cons c line ih =>
    rw [List.mem_cons, not_or] at whole
    rw [List.cons_append, appendAt, if_pos (Ne.symm whole.1), ih whole.2, List.cons_append]

/-- The lines of the edited source are those of the source, with more behind one of them. -/
theorem splitLines_appendAt {added source : List Char} (noReturn : '\r' ∉ source) (noFeed : '\n' ∉ added)
    (addedNoReturn : '\r' ∉ added) {place : Nat}
    (inside : place < (splitLines source).length) :
    splitLines (appendAt added place source) = (splitLines source).modify place (· ++ added) := by
  induction source using byLines generalizing place with
  | empty => cases inside
  | last line isLine whole =>
    rw [splitLines_last isLine whole] at inside ⊢
    have isFirst : place = 0 := by simpa using inside
    subst isFirst
    have edited := appendAt_append whole added 0 []
    rw [List.append_nil] at edited
    rw [edited, appendAt, if_pos rfl, splitLines_last (by simp [isLine])]
    · rfl
    · simp [whole, noFeed]
  | more line rest whole ih =>
    rw [List.mem_append, not_or, List.mem_cons, not_or] at noReturn
    rw [splitLines_feed whole, dropReturn_of_notMem noReturn.1] at inside ⊢
    rw [appendAt_append whole]
    cases place with
    | zero =>
      have wholeEdited : '\n' ∉ line ++ added := by simp [whole, noFeed]
      have editedNoReturn : '\r' ∉ line ++ added := by simp [noReturn.1, addedNoReturn]
      rw [appendAt, if_neg (by simp), if_pos rfl, ← List.append_assoc, splitLines_feed wholeEdited,
        dropReturn_of_notMem editedNoReturn]
      rfl
    | succ place =>
      rw [appendAt, if_neg (by simp), if_neg (by simp), splitLines_feed whole, dropReturn_of_notMem noReturn.1,
        ih noReturn.2.2 (by simpa using inside)]
      rfl

/-- The scan of each line of a text, with the literal that the lines before it leave open. -/
def lineScans (literal : Option OpenLiteral) : List (List Char) → List LineScan
  | [] => []
  | line :: lines =>
    let scan := scanLine literal literal.isSome line
    scan :: lineScans (carriedLiteral line scan.literal) lines

theorem length_lineScans (literal : Option OpenLiteral) (lines : List (List Char)) :
    (lineScans literal lines).length = lines.length := by
  induction lines generalizing literal with
  | nil => rfl
  | cons line lines ih => simp [lineScans, ih]

/-- Too little is left of a line to close a literal in triple quotes. -/
theorem literal_scanLine_of_short {held : OpenLiteral} (triple : held.isTriple = true) (hasCode : Bool)
    {line : List Char} (short : ∀ first second rest, line = first :: second :: rest → False) :
    (scanLine (some held) hasCode line).literal = some held := by
  rcases line with _ | ⟨c, _ | ⟨second, rest⟩⟩
  · rfl
  · by_cases isSlash : c = '\\'
    · rw [isSlash]
      rfl
    · rw [scanLine_inside hasCode isSlash fun _ => ⟨triple, by simp⟩]
      rfl
  · exact (short c second rest rfl).elim

/-- A scan that ends outside any literal and has found no comment goes on behind the line. -/
theorem scanLine_append {literal : Option OpenLiteral} {hasCode found : Bool} {line : List Char}
    (clear : scanLine literal hasCode line = ⟨none, found, none⟩) (tail : List Char) :
    scanLine literal hasCode (line ++ ' ' :: tail) = scanLine none found (' ' :: tail) := by
  fun_induction scanLine literal hasCode line with
  | case1 literal hasCode =>
    cases clear
    rfl
  | case2 hasCode held => cases clear
  | case3 hasCode held c rest ih =>
    rw [List.cons_append, List.cons_append, scanLine_escape, ih clear]
  | case4 hasCode rest held single notSlash ih =>
    rw [List.cons_append, scanLine_close hasCode notSlash (by simpa using single), ih clear]
  | case5 hasCode held triple second third after notSlash closes ih =>
    obtain ⟨rfl, rfl⟩ := closes
    rw [List.cons_append, List.cons_append, List.cons_append,
      scanLine_close_triple hasCode notSlash (by simpa using triple), ih clear]
  | case6 hasCode held triple second third after notSlash goesOn ih =>
    rw [← ih clear]
    refine scanLine_inside hasCode notSlash fun _ => ⟨by simpa using triple, fun three => goesOn ?_⟩
    obtain ⟨isSecond, behind⟩ := List.cons_prefix_cons.mp three
    exact ⟨isSecond.symm, (List.cons_prefix_cons.mp behind).1.symm⟩
  | case7 hasCode held triple other short notSlash ih =>
    have isOpen := literal_scanLine_of_short (by simpa using triple) hasCode short
    rw [clear] at isOpen
    cases isOpen
  | case8 hasCode c rest held notSlash notQuote ih =>
    rw [List.cons_append, scanLine_inside hasCode notSlash fun isQuote => absurd isQuote notQuote, ih clear]
  | case9 hasCode rest => cases clear
  | case10 hasCode c notHash isQuote second third after isTriple ih =>
    obtain ⟨rfl, rfl⟩ := isTriple
    rw [List.cons_append, List.cons_append, List.cons_append, scanLine_open_triple hasCode isQuote, ih clear]
  | case11 hasCode c notHash isQuote second third after single ih =>
    rw [← ih clear]
    refine scanLine_open hasCode isQuote fun three => single ?_
    obtain ⟨isSecond, behind⟩ := List.cons_prefix_cons.mp three
    exact ⟨isSecond.symm, (List.cons_prefix_cons.mp behind).1.symm⟩
  | case12 hasCode c notHash isQuote other short ih =>
    rw [← ih clear]
    refine scanLine_open hasCode isQuote fun three => ?_
    -- with less than two characters left of the line, the blank behind it is among the next two
    have notBlank : c ≠ ' ' := by
      rcases isQuote with rfl | rfl <;> decide
    rcases other with _ | ⟨second, _ | ⟨third, after⟩⟩
    · exact notBlank (List.cons_prefix_cons.mp three).1
    · exact notBlank (List.cons_prefix_cons.mp (List.cons_prefix_cons.mp three).2).1
    · exact short second third after rfl
  | case13 hasCode c rest notHash notQuote ih =>
    rw [List.cons_append, scanLine_code hasCode notHash notQuote, ih clear]

/-- Two layouts are the same to whoever looks for lines of code and for their indents. -/
structure LineLayout.SameCode (first second : LineLayout) : Prop where
  hasCode : first.hasCode = second.hasCode
  inLiteral : first.inLiteral = second.inLiteral
  indent : first.hasCode = true → first.inLiteral = false → first.indent = second.indent

theorem scanLine_of_indent {line : List Char} (blank : ∀ c ∈ line, (c = ' ' || c = '\t') = true)
    (hasCode : Bool) : scanLine none hasCode line = ⟨none, hasCode, none⟩ := by
  induction line with
  | nil => rfl
  | cons c line ih =>
    have isIndent : c = ' ' ∨ c = '\t' := by simpa using blank c List.mem_cons_self
    have step : scanLine none hasCode (c :: line) = scanLine none hasCode line := by
      rcases isIndent with rfl | rfl
      · rw [scanLine_code hasCode (by decide) (by decide)]
        simp [Text.isBlank]
      · rw [scanLine_code hasCode (by decide) (by decide)]
        simp [Text.isBlank]
    rw [step, ih fun other member => blank other (List.mem_cons_of_mem _ member)]

theorem indentOf_append {line : List Char} (hasCode : (scanLine none false line).hasCode = true)
    (tail : List Char) : indentOf (line ++ tail) = indentOf line := by
  rw [indentOf, indentOf, List.takeWhile_append]
  split
  next allIndent =>
    have isWhole := (List.takeWhile_prefix fun c => c = ' ' || c = '\t').eq_of_length allIndent
    have blank : ∀ c ∈ line, (c = ' ' || c = '\t') = true := by
      rw [← isWhole]
      exact List.all_eq_true.mp List.all_takeWhile
    rw [scanLine_of_indent blank] at hasCode
    cases hasCode
  next => rfl

section Behind

variable {literal : Option OpenLiteral} {found : Bool} {line : List Char}

theorem scanLine_comment_behind {hasCode : Bool} (clear : scanLine literal hasCode line = ⟨none, found, none⟩)
    (text : List Char) :
    scanLine literal hasCode (line ++ ' ' :: ' ' :: '#' :: text) = ⟨none, found, some text⟩ := by
  rw [scanLine_append clear, scanLine_code found (by decide) (by decide), scanLine_code _ (by decide) (by decide),
    scanLine_comment]
  simp [Text.isBlank]

/-- The indent of a line can only change with what is written behind it if there is no code on the line. -/
theorem sameCode_behind (clear : scanLine literal literal.isSome line = ⟨none, found, none⟩) (tail : List Char) :
    LineLayout.SameCode ⟨found, indentOf line, literal.isSome⟩ ⟨found, indentOf (line ++ tail), literal.isSome⟩ := by
  refine ⟨rfl, rfl, fun hasCode outside => ?_⟩
  cases literal with
  | none =>
    have holdsCode : (scanLine none false line).hasCode = true := (congrArg LineScan.hasCode clear).trans hasCode
    exact (indentOf_append holdsCode tail).symm
  | some held => cases outside

end Behind

/-- A comment written behind one line of many is added to the comments, and of the layouts only that of its
line may change. -/
theorem scanLines_modify {lines : List (List Char)} {literal : Option OpenLiteral} {place : Nat} {found : Bool}
    (clear : (lineScans literal lines)[place]? = some ⟨none, found, none⟩) (number : Nat) (text : List Char) :
    ∃ front back here there earlier later,
      scanLines number literal lines = (front ++ here :: back, earlier ++ later) ∧
      scanLines number literal (lines.modify place (· ++ ' ' :: ' ' :: '#' :: text)) =
        (front ++ there :: back, earlier ++ ⟨number + place, text, found⟩ :: later) ∧
      front.length = place ∧ here.SameCode there ∧
      ∀ comment ∈ earlier ++ later, comment.line ≠ number + place := by
  induction lines generalizing literal number place with
  | nil => cases clear
  | cons line lines ih =>
    cases place with
    | zero =>
      have scanned : scanLine literal literal.isSome line = ⟨none, found, none⟩ := Option.some.inj clear
      refine ⟨[], (scanLines (number + 1) none lines).1, ⟨found, indentOf line, literal.isSome⟩,
        ⟨found, indentOf (line ++ ' ' :: ' ' :: '#' :: text), literal.isSome⟩, [],
        (scanLines (number + 1) none lines).2, ?_, ?_, rfl, sameCode_behind scanned _, ?_⟩
      · rw [scanLines_cons, scanned]
        rfl
      · rw [List.modify_zero_cons, scanLines_cons, scanLine_comment_behind scanned]
        rfl
      · intro comment member
        have numbers := scanLines_numbers _ _ member
        omega
    | succ place =>
      obtain ⟨front, back, here, there, earlier, later, original, edited, isPlace, sameCode, elsewhere⟩ :=
        ih clear (number + 1)
      let scan := scanLine literal literal.isSome line
      let comments : List Comment := (scan.comment.map fun text => ⟨number, text, scan.hasCode⟩).toList
      refine ⟨⟨scan.hasCode, indentOf line, literal.isSome⟩ :: front, back, here, there, comments ++ earlier, later,
        ?_, ?_, by simp [isPlace], sameCode, ?_⟩
      · simp only [scanLines_cons, original]
        simp [scan, comments]
      · simp only [List.modify_succ_cons, scanLines_cons, edited]
        simp [scan, comments, Nat.add_assoc, Nat.add_comm 1]
      · intro comment member
        rw [List.append_assoc] at member
        rcases List.mem_append.mp member with isHere | behind
        · obtain ⟨text, -, rfl⟩ := Option.map_eq_some_iff.mp (Option.mem_toList.mp isHere)
          exact Nat.ne_of_lt (by simp)
        · have notHere := elsewhere comment behind
          omega

/-! ## Obeying the other directives -/

section SameLayouts

variable {front back : List LineLayout} {here there : LineLayout}

theorem firstLineAfter_of_same {wanted : LineLayout → Bool} (same : wanted here = wanted there) (line : Nat) :
    firstLineAfter (front ++ here :: back) line wanted = firstLineAfter (front ++ there :: back) line wanted := by
  have searched : ∀ layouts : List LineLayout, firstLineAfter layouts line wanted =
      (((layouts.map wanted).drop line).findIdx? id).map fun skipped => line + skipped + 1 := by
    intro layouts
    rw [← List.map_drop, List.findIdx?_map]
    rfl
  rw [searched, searched, List.map_append, List.map_append, List.map_cons, List.map_cons, same]

theorem nextCodeLine_of_sameCode (sameCode : here.SameCode there) (line : Nat) :
    nextCodeLine (front ++ here :: back) line = nextCodeLine (front ++ there :: back) line := by
  rw [nextCodeLine, nextCodeLine, firstLineAfter_of_same sameCode.hasCode]

theorem naturalEnd_of_sameCode (sameCode : here.SameCode there) {line : Nat} (positive : 0 < line)
    (elsewhere : line ≠ front.length + 1) :
    naturalEnd (front ++ here :: back) line = naturalEnd (front ++ there :: back) line := by
  have sameIndent : (front ++ here :: back)[line - 1]? = (front ++ there :: back)[line - 1]? := by
    rw [List.getElem?_append, List.getElem?_append, List.getElem?_cons, List.getElem?_cons]
    split
    · rfl
    · rw [if_neg (by omega), if_neg (by omega)]
  have sameTest : ∀ indent : Nat, (here.hasCode && !here.inLiteral && here.indent < indent) =
      (there.hasCode && !there.inLiteral && there.indent < indent) := by
    intro indent
    cases hasCode : here.hasCode with
    | false => simp [← sameCode.hasCode, hasCode]
    | true =>
      cases inLiteral : here.inLiteral with
      | true => simp [← sameCode.inLiteral, inLiteral]
      | false => simp [← sameCode.hasCode, ← sameCode.inLiteral, hasCode, inLiteral, sameCode.indent hasCode inLiteral]
  have sameSearch : ∀ indent : Nat,
      (firstLineAfter (front ++ here :: back) line fun layout =>
        layout.hasCode && !layout.inLiteral && layout.indent < indent) =
      firstLineAfter (front ++ there :: back) line fun layout =>
        layout.hasCode && !layout.inLiteral && layout.indent < indent :=
    fun indent => firstLineAfter_of_same (sameTest indent) line
  simp only [naturalEnd, sameIndent, sameSearch, List.length_append, List.length_cons]

/-- A directive does the same on both sides of the edit, unless it is on the edited line. -/
theorem Progress.take_of_sameCode (sameCode : here.SameCode there) (registry : Registry)
    (statements : List (Nat × Nat)) (progress : Progress) {comment : Comment} (positive : 0 < comment.line)
    (elsewhere : comment.line ≠ front.length + 1) :
    progress.take registry (front ++ here :: back) statements comment =
      progress.take registry (front ++ there :: back) statements comment := by
  simp only [take, obey, nextCodeLine_of_sameCode sameCode, naturalEnd_of_sameCode sameCode positive elsewhere]

end SameLayouts

/-- One state of reading directives has exemptions more than another, and they are closed. -/
structure Progress.Extends (extra : List Tracked) (progress edited : Progress) : Prop where
  tracked : edited.tracked.Perm (progress.tracked ++ extra)
  faults : edited.faults = progress.faults
  closed : ∀ tracked ∈ extra, tracked.isOpen = false

namespace Progress.Extends

variable {extra : List Tracked} {progress edited : Progress}

theorem add (related : Extends extra progress edited) (selectors : List Selector) (startLine endLine line : Nat)
    (isOpen : Bool) :
    Extends extra (progress.add selectors startLine endLine line isOpen)
      (edited.add selectors startLine endLine line isOpen) where
  tracked := by
    refine (related.tracked.append_right _).trans ?_
    rw [List.append_assoc]
    exact (List.perm_append_comm.append_left _).trans (List.append_assoc _ _ _ ▸ .refl _)
  faults := related.faults
  closed := related.closed

theorem closeRegions (related : Extends extra progress edited) (line : Nat) (selector : Selector) :
    Extends extra (progress.closeRegions line selector) (edited.closeRegions line selector) where
  tracked := by
    have unchanged : extra.map (Tracked.close selector line) = extra := by
      refine (List.map_congr_left fun tracked member => ?_).trans (List.map_id extra)
      simp [Tracked.close, Tracked.isClosedBy_of_closed (related.closed tracked member)]
    have mapped := related.tracked.map (Tracked.close selector line)
    rw [List.map_append, unchanged] at mapped
    exact mapped
  faults := by
    have untouched : (extra.any fun tracked => tracked.isClosedBy selector line) = false := by
      rw [List.any_eq_false]
      intro tracked member
      simp [Tracked.isClosedBy_of_closed (related.closed tracked member)]
    simp only [Progress.closeRegions, related.tracked.any_eq, List.any_append, untouched, Bool.or_false,
      related.faults]
  closed := related.closed

theorem obey (related : Extends extra progress edited) (layouts : List LineLayout)
    (statements : List (Nat × Nat)) (comment : Comment) (directive : Directive) :
    Extends extra (progress.obey layouts statements comment directive)
      (edited.obey layouts statements comment directive) := by
  unfold Progress.obey
  cases directive.action with
  | disableLine | disableNextLine | disableStatement | disable => exact related.add _ _ _ _ _
  | enable =>
    generalize directive.selectors = selectors
    induction selectors generalizing progress edited with
    | nil => exact related
    | cons selector selectors ih => exact ih (related.closeRegions comment.line selector)

theorem take (related : Extends extra progress edited) (registry : Registry) (layouts : List LineLayout)
    (statements : List (Nat × Nat)) (comment : Comment) :
    Extends extra (progress.take registry layouts statements comment)
      (edited.take registry layouts statements comment) := by
  unfold Progress.take
  rcases readComment registry comment.text with ⟨directive, faults⟩
  have reported : Extends extra
      { progress with faults := progress.faults ++ faults.map fun fault => (comment.line, fault) }
      { edited with faults := edited.faults ++ faults.map fun fault => (comment.line, fault) } :=
    ⟨related.tracked, congrArg (· ++ _) related.faults, related.closed⟩
  cases directive with
  | none => exact reported
  | some directive => exact reported.obey layouts statements comment directive

/-- Reading the comments behind keeps what is added apart. -/
theorem foldl_take (related : Extends extra progress edited) (registry : Registry) (layouts : List LineLayout)
    (statements : List (Nat × Nat)) (comments : List Comment) :
    Extends extra (comments.foldl (Progress.take registry layouts statements) progress)
      (comments.foldl (Progress.take registry layouts statements) edited) := by
  induction comments generalizing progress edited with
  | nil => exact related
  | cons comment comments ih => exact ih (related.take registry layouts statements comment)

end Progress.Extends

/-- What a directive adds that disables one line. -/
def addedAt (line : Nat) (names : List String) : List Tracked :=
  names.map fun name => ⟨⟨Selector.ofName name, line, line, line⟩, false⟩

theorem any_addedAt (line : Nat) (names : List String) (ruleId : String) (other : Nat) :
    ((addedAt line names).any ((fun exemption => exemption.covers ruleId other) ∘ Tracked.exemption)) = true ↔
      other = line ∧ ∃ name ∈ names, name = "all" ∨ name = ruleId := by
  simp only [addedAt, List.any_map, List.any_eq_true, Function.comp_apply, Exemption.covers_ofLine,
    Selector.isAbout_ofName]
  constructor
  · rintro ⟨name, listed, isAbout, rfl⟩
    exact ⟨rfl, name, listed, isAbout⟩
  · rintro ⟨rfl, name, listed, isAbout⟩
    exact ⟨name, listed, isAbout, rfl⟩

section Edited

variable {registry : Registry} {source : List Char} {place : Nat} {scan : LineScan} {names : List String}

theorem extends_progressOf (noReturn : '\r' ∉ source)
    (isThere : (lineScans none (splitLines source))[place]? = some scan) (noComment : scan.comment = none)
    (outside : scan.literal = none) (nonempty : names ≠ []) (listable : ∀ name ∈ names, IsListable registry name)
    (statements : List (Nat × Nat)) :
    Progress.Extends (addedAt (place + 1) names) (progressOf registry statements source)
      (progressOf registry statements (appendAt (lineDirective names) place source)) := by
  obtain ⟨literal, found, comment⟩ := scan
  cases noComment
  cases outside
  have inside : place < (splitLines source).length := by
    rw [← length_lineScans none]
    exact (List.getElem?_eq_some_iff.mp isThere).1
  obtain ⟨noFeed, addedNoReturn⟩ := lineDirective_whole nonempty listable
  have editedLines := splitLines_appendAt noReturn noFeed addedNoReturn inside
  obtain ⟨front, back, here, there, earlier, later, original, edited, isPlace, sameCode, elsewhere⟩ :=
    scanLines_modify isThere 1 (disableLineText names)
  have scanned : scanComments source = (front ++ here :: back, earlier ++ later) := original
  have rescanned : scanComments (appendAt (lineDirective names) place source) =
      (front ++ there :: back, earlier ++ ⟨1 + place, disableLineText names, found⟩ :: later) := by
    rw [scanComments, editedLines]
    exact edited
  have unmoved : ∀ progress : Progress, ∀ comment ∈ earlier ++ later,
      progress.take registry (front ++ here :: back) statements comment =
        progress.take registry (front ++ there :: back) statements comment := by
    intro progress comment member
    have listed : comment ∈ (scanComments source).2 := by
      rw [scanned]
      exact member
    have positive := (scanComments_numbers listed).1
    have notHere := elsewhere comment member
    exact progress.take_of_sameCode sameCode registry statements positive (by omega)
  have originally : progressOf registry statements source =
      later.foldl (Progress.take registry (front ++ there :: back) statements)
        (earlier.foldl (Progress.take registry (front ++ there :: back) statements) ⟨[], []⟩) := by
    rw [progressOf, scanned, ← List.foldl_append]
    exact List.foldl_ext _ _ _ unmoved
  rw [originally, progressOf, rescanned, List.foldl_append, List.foldl_cons]
  refine Progress.Extends.foldl_take ?_ registry _ statements later
  -- the directive itself, read behind those above it
  generalize earlier.foldl (Progress.take registry (front ++ there :: back) statements) ⟨[], []⟩ = progress
  have taken : progress.take registry (front ++ there :: back) statements ⟨1 + place, disableLineText names, found⟩ =
      ⟨progress.tracked ++ addedAt (place + 1) names, progress.faults⟩ := by
    simp [Progress.take, readComment_disableLineText nonempty listable, Progress.obey, Progress.add, addedAt,
      Function.comp_def, Nat.add_comm 1 place]
  rw [taken]
  refine ⟨.refl _, rfl, fun tracked member => ?_⟩
  obtain ⟨name, -, rfl⟩ := List.mem_map.mp member
  rfl

end Edited

end Suppression

open Suppression in
/-- A directive that disables one line for some rules, written behind a line that ends outside any literal and
has no comment, suppresses what was suppressed without it and what it names on that line. The faults of the
other directives stay as they are. -/
theorem Suppressions.scan_with_added_directive {registry : Registry} {source : List Char} {place : Nat}
    {scan : LineScan} {names : List String} (noReturn : '\r' ∉ source)
    (isThere : (lineScans none (splitLines source))[place]? = some scan) (noComment : scan.comment = none)
    (outside : scan.literal = none) (nonempty : names ≠ []) (listable : ∀ name ∈ names, IsListable registry name)
    (statements : List (Nat × Nat)) :
    let original := Suppressions.scan registry statements source
    let edited := Suppressions.scan registry statements (appendAt (lineDirective names) place source)
    (∀ ruleId line, edited.isSuppressed ruleId line = true ↔
      original.isSuppressed ruleId line = true ∨
        line = place + 1 ∧ ruleId ≠ invalidSuppressionId ∧ ∃ name ∈ names, name = "all" ∨ name = ruleId) ∧
      edited.faults = original.faults := by
  intro original edited
  have related := extends_progressOf noReturn isThere noComment outside nonempty listable statements
  have isOriginal : original = _ := scan_eq registry statements source
  have isEdited : edited = _ := scan_eq registry statements (appendAt (lineDirective names) place source)
  refine ⟨fun ruleId line => ?_, ?_⟩
  · have covered : (edited.exemptions.any fun exemption => exemption.covers ruleId line) = true ↔
        (original.exemptions.any fun exemption => exemption.covers ruleId line) = true ∨
          line = place + 1 ∧ ∃ name ∈ names, name = "all" ∨ name = ruleId := by
      rw [isOriginal, isEdited, List.any_map, List.any_map, related.tracked.any_eq, List.any_append, Bool.or_eq_true,
        any_addedAt]
    rw [isSuppressed, isSuppressed, Bool.and_eq_true, Bool.and_eq_true, covered, decide_eq_true_eq, and_or_left,
      and_left_comm]
  · rw [isOriginal, isEdited]
    exact related.faults

open Suppression in
/-- A source without directives, with a `#` inside a literal on the line that gets one. -/
theorem Suppressions.scan_with_added_directive_eval :
    let source := "eval('#')\neval(x)\n".toList
    let edited := Suppressions.scan .builtin [] (appendAt (lineDirective ["no-eval"]) 0 source)
    edited.isSuppressed "no-eval" 1 = true ∧ ¬ edited.isSuppressed "no-eval" 2 = true ∧ edited.faults = [] := by
  intro source edited
  have unsuppressed : Suppressions.scan .builtin [] source = ⟨[], []⟩ := by
    have absent : Text.contains keyword source = false := by decide +kernel
    simp [Suppressions.scan, absent]
  have isThere : (lineScans none (splitLines source))[0]? = some ⟨none, true, none⟩ := by decide +kernel
  have listable : ∀ name ∈ ["no-eval"], IsListable .builtin name := by
    intro name listed
    rw [List.mem_singleton.mp listed]
    exact .inr (by decide +kernel)
  obtain ⟨suppresses, faults⟩ :=
    scan_with_added_directive (by decide +kernel) isThere rfl rfl (List.cons_ne_nil _ _) listable []
  refine ⟨?_, ?_, ?_⟩
  · exact (suppresses "no-eval" 1).mpr (.inr ⟨rfl, by decide +kernel, "no-eval", List.mem_cons_self, .inr rfl⟩)
  · intro isSuppressed
    rcases (suppresses "no-eval" 2).mp isSuppressed with before | ⟨isLine, -⟩
    · simp [unsuppressed, Suppressions.isSuppressed] at before
    · cases isLine
  · exact faults.trans (congrArg Suppressions.faults unsuppressed)

end Lintel
