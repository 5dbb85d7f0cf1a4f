import Lintel.Proofs.Directives
import Mathlib.Order.Bounds.Basic

/-!
# Regions of suppression

A region goes from its `disable` to the first `enable` that is in time and names it, or else to where it
ends by itself: before the next line of code that is indented less, or with the source. No exemption begins
above its directive.
-/

set_option autoImplicit false

namespace Lintel.Suppression

/-! ## Where a region ends by itself -/

/-- A later line at which a region has to end: it holds code, does not begin inside a literal, and is
indented less than the line of the region. -/
def Outdents (layouts : List LineLayout) (line later : Nat) : Prop :=
  line < later ∧ ∃ here there, layouts[line - 1]? = some here ∧ layouts[later - 1]? = some there ∧
    there.hasCode = true ∧ there.inLiteral = false ∧ there.indent < here.indent

/-- A region goes on until the line before the first that outdents, or to the last line. -/
def IsNaturalEnd (layouts : List LineLayout) (line last : Nat) : Prop :=
  IsLeast {later | Outdents layouts line later} (last + 1) ∨
    (∀ later, ¬ Outdents layouts line later) ∧ last = layouts.length

section NaturalEnd

variable {layouts : List LineLayout} {line : Nat} {wanted : LineLayout → Bool}

theorem getElem?_drop_of_lt {other : Nat} (later : line < other) :
    (layouts.drop line)[other - 1 - line]? = layouts[other - 1]? := by
  rw [List.getElem?_drop]
  congr 1
  omega

theorem firstLineAfter_eq_some {found : Nat} (isFound : firstLineAfter layouts line wanted = some found) :
    line < found ∧ (∃ layout, layouts[found - 1]? = some layout ∧ wanted layout = true) ∧
      ∀ other layout, line < other → other < found → layouts[other - 1]? = some layout →
        wanted layout = false := by
  obtain ⟨skipped, index, rfl⟩ := Option.map_eq_some_iff.mp isFound
  obtain ⟨inside, fits, before⟩ := List.findIdx?_eq_some_iff_getElem.mp index
  refine ⟨by omega, ⟨(layouts.drop line)[skipped], ?_, fits⟩, ?_⟩
  · rw [List.getElem_drop, Nat.add_sub_cancel]
    exact List.getElem?_eq_getElem _
  · intro other layout later earlier held
    rw [← getElem?_drop_of_lt later] at held
    obtain ⟨_, rfl⟩ := List.getElem?_eq_some_iff.mp held
    exact Bool.eq_false_iff.mpr (before (other - 1 - line) (by omega))

theorem firstLineAfter_eq_none (isNone : firstLineAfter layouts line wanted = none) {other : Nat}
    {layout : LineLayout} (later : line < other) (held : layouts[other - 1]? = some layout) :
    wanted layout = false := by
  rw [← getElem?_drop_of_lt later] at held
  exact List.findIdx?_eq_none_iff.mp (Option.map_eq_none_iff.mp isNone) layout (List.mem_of_getElem? held)

theorem lt_nextCodeLine (layouts : List LineLayout) (line : Nat) : line < nextCodeLine layouts line := by
  unfold nextCodeLine
  cases isFound : firstLineAfter layouts line LineLayout.hasCode with
  | none => exact Nat.lt_succ_self line
  | some found => exact (firstLineAfter_eq_some isFound).1

theorem isNaturalEnd_naturalEnd (positive : 0 < line) (inside : line ≤ layouts.length) :
    IsNaturalEnd layouts line (naturalEnd layouts line) := by
  have held : layouts[line - 1]? = some layouts[line - 1] := List.getElem?_eq_getElem (by omega)
  -- the test of the search says of a line what outdenting says
  have outdents_iff : ∀ later, Outdents layouts line later ↔ line < later ∧
      ∃ layout, layouts[later - 1]? = some layout ∧
        (layout.hasCode && !layout.inLiteral && decide (layout.indent < layouts[line - 1].indent)) = true := by
    intro later
    simp only [Outdents, held, Option.some.injEq, Bool.and_eq_true, Bool.not_eq_true', decide_eq_true_eq]
    constructor
    · rintro ⟨isLater, here, there, rfl, isThere, hasCode, outside, less⟩
      exact ⟨isLater, there, isThere, ⟨hasCode, outside⟩, less⟩
    · rintro ⟨isLater, there, isThere, ⟨hasCode, outside⟩, less⟩
      exact ⟨isLater, _, there, rfl, isThere, hasCode, outside, less⟩
  unfold naturalEnd
  simp only [held, Option.map_some, Option.getD_some]
  split
  next next isFound =>
    obtain ⟨isLater, fits, first⟩ := firstLineAfter_eq_some isFound
    left
    rw [Nat.sub_add_cancel (by omega)]
    refine ⟨(outdents_iff next).mpr ⟨isLater, fits⟩, ?_⟩
    intro other outdents
    obtain ⟨otherLater, layout, isThere, wanted⟩ := (outdents_iff other).mp outdents
    by_contra earlier
    rw [first other layout otherLater (by omega) isThere] at wanted
    cases wanted
  next isNone =>
    right
    refine ⟨?_, by omega⟩
    intro other outdents
    obtain ⟨otherLater, layout, isThere, wanted⟩ := (outdents_iff other).mp outdents
    rw [firstLineAfter_eq_none isNone otherLater isThere] at wanted
    cases wanted

theorem le_naturalEnd (positive : 0 < line) (inside : line ≤ layouts.length) :
    line ≤ naturalEnd layouts line := by
  rcases isNaturalEnd_naturalEnd positive inside with ⟨outdents, -⟩ | ⟨-, isLast⟩
  · have isLater := outdents.1
    omega
  · omega

theorem le_statementEnd (statements : List (Nat × Nat)) (line : Nat) : line ≤ statementEnd statements line := by
  unfold statementEnd
  generalize (statements.filter fun lines => lines.1 = line).map Prod.snd = ends
  induction ends generalizing line with
  | nil => exact Nat.le_refl line
  | cons last ends ih => exact Nat.le_trans (Nat.le_max_left line last) (ih (max line last))

end NaturalEnd

/-! ## Where regions end -/

/-- A region ends with the first directive that closes it, or else by itself. -/
def Region.EndsAt (layouts : List LineLayout) (directives : List PlacedDirective) (region : Region)
    (last : Nat) : Prop :=
  IsLeast {line | ∃ placed ∈ directives, region.isClosedBy layouts placed = true ∧ placed.line = line} last ∨
    (∀ placed ∈ directives, region.isClosedBy layouts placed = false) ∧
      last = naturalEnd layouts region.line

section Ends

variable {layouts : List LineLayout} {statements : List (Nat × Nat)} {directives : List PlacedDirective}

theorem Region.endsAt_endLine
    (ascending : directives.Pairwise fun first second => first.line < second.line) (region : Region) :
    region.EndsAt layouts directives (region.endLine layouts directives) := by
  cases isFound : directives.find? (region.isClosedBy layouts) with
  | none =>
    right
    refine ⟨fun placed member => ?_, by simp [endLine, isFound]⟩
    exact Bool.eq_false_iff.mpr (List.find?_eq_none.mp isFound placed member)
  | some placed =>
    obtain ⟨closes, earlier, later, split, notEarlier⟩ := List.find?_eq_some_iff_append.mp isFound
    have isEnd : region.endLine layouts directives = placed.line := by simp [endLine, isFound]
    left
    rw [isEnd]
    refine ⟨⟨placed, List.mem_of_find?_eq_some isFound, closes, rfl⟩, ?_⟩
    rintro line ⟨other, member, otherCloses, rfl⟩
    -- no directive in front of the first one closes the region, and those behind it are on later lines
    rw [split] at member ascending
    rcases List.mem_append.mp member with early | here
    · have notClosed := notEarlier other early
      rw [otherCloses] at notClosed
      cases notClosed
    · rcases List.mem_cons.mp here with rfl | late
      · exact Nat.le_refl _
      · have behind := (List.pairwise_append.mp ascending).2.1
        exact Nat.le_of_lt ((List.pairwise_cons.mp behind).1 other late)

theorem Region.le_endLine {region : Region} (positive : 0 < region.line) (inside : region.line ≤ layouts.length) :
    region.line ≤ region.endLine layouts directives := by
  cases isFound : directives.find? (region.isClosedBy layouts) with
  | none =>
    have isEnd : region.endLine layouts directives = naturalEnd layouts region.line := by simp [endLine, isFound]
    rw [isEnd]
    exact le_naturalEnd positive inside
  | some placed =>
    have isEnd : region.endLine layouts directives = placed.line := by simp [endLine, isFound]
    rw [isEnd]
    exact Nat.le_of_lt (lt_of_isClosedBy (List.find?_some isFound))

theorem PlacedDirective.line_le_firstLine (layouts : List LineLayout) (placed : PlacedDirective) :
    placed.line ≤ placed.firstLine layouts := by
  unfold firstLine
  split
  · exact Nat.le_of_lt (lt_nextCodeLine layouts placed.line)
  · split
    · exact Nat.le_refl _
    · exact Nat.le_of_lt (lt_nextCodeLine layouts placed.line)
  · exact Nat.le_refl _
  · exact Nat.le_refl _
  · exact Nat.le_refl _

theorem PlacedDirective.firstLine_le_lastLine {placed : PlacedDirective} (positive : 0 < placed.line)
    (inside : placed.line ≤ layouts.length) (selector : Selector) :
    placed.firstLine layouts ≤ placed.lastLine layouts statements directives selector := by
  unfold lastLine
  cases action : placed.directive.action with
  | disableStatement => exact le_statementEnd statements _
  | disable =>
    have isFirst : placed.firstLine layouts = placed.line := by simp [firstLine, action]
    rw [isFirst]
    exact @Region.le_endLine layouts directives ⟨placed.line, selector⟩ positive inside
  | disableLine | disableNextLine | enable => exact Nat.le_refl _

theorem PlacedDirective.eq_exemption_of_mem {placed : PlacedDirective} {exemption : Exemption}
    (member : exemption ∈ placed.exemptions layouts statements directives) :
    ∃ selector, exemption = placed.exemption layouts statements directives selector := by
  unfold exemptions at member
  split at member
  · cases member
  · obtain ⟨selector, -, rfl⟩ := List.mem_map.mp member
    exact ⟨selector, rfl⟩

end Ends

theorem unmatchedEnable_not_mem_readSelectors (registry : Registry) (items : List (List Char)) (name : String) :
    .unmatchedEnable name ∉ (readSelectors registry items).2 := by
  induction items with
  | nil => simp [readSelectors]
  | cons item items ih =>
    simp only [readSelectors]
    split
    · simp
    · split
      · exact ih
      · split
        · simp
        · split
          · exact ih
          · simpa using ih

theorem unmatchedEnable_not_mem_readBody (registry : Registry) (body : List Char) (name : String) :
    .unmatchedEnable name ∉ (readBody registry body).2 := by
  simp only [readBody]
  split
  next before items _ =>
    split
    · simp
    · cases Action.ofName? _ with
      | none => simp
      | some action => exact unmatchedEnable_not_mem_readSelectors registry _ name
  next =>
    split
    · simp
    · cases Action.ofName? _ with
      | none => simp
      | some action => simp

/-- Reading a comment never finds an `enable` unmatched: that is for the directives around it to say. -/
theorem unmatchedEnable_not_mem_readComment (registry : Registry) (text : List Char) (name : String) :
    .unmatchedEnable name ∉ (readComment registry text).2 := by
  simp only [readComment]
  split
  · simp
  · split
    · exact unmatchedEnable_not_mem_readBody registry _ name
    · simp

end Lintel.Suppression

namespace Lintel.Suppressions

open Suppression

theorem ascending_placedDirectives (registry : Registry) (source : List Char) :
    (placedDirectives registry (scanComments source).2).Pairwise fun first second => first.line < second.line := by
  refine List.Pairwise.filterMap _ ?_ (ascending_scanComments source)
  intro first second ascending placedFirst isFirst placedSecond isSecond
  obtain ⟨_, -, rfl⟩ := Option.map_eq_some_iff.mp isFirst
  obtain ⟨_, -, rfl⟩ := Option.map_eq_some_iff.mp isSecond
  exact ascending

/-- What a source exempts and what is wrong with its directives. No exemption begins above its directive. A
region goes from its `disable` to the first `enable` that is in time and names it, and else to its natural
end. An `enable` is at fault for each selector for which no region is waiting, and one that names a rule
closes no region for all rules. -/
theorem regions_of_directives (registry : Registry) (statements : List (Nat × Nat)) (source : List Char) :
    let layouts := (scanComments source).1
    let comments := (scanComments source).2
    let directives := placedDirectives registry comments
    let suppressions := scan registry statements source
    (∀ exemption ∈ suppressions.exemptions,
      exemption.line ≤ exemption.startLine ∧ exemption.startLine ≤ exemption.endLine) ∧
    suppressions.exemptions = directives.flatMap (PlacedDirective.exemptions layouts statements directives) ∧
    (∀ placed ∈ directives, placed.directive.action = .disable →
      IsNaturalEnd layouts placed.line (naturalEnd layouts placed.line) ∧
      ∀ selector ∈ placed.directive.selectors, ∃ last,
        Region.EndsAt layouts directives ⟨placed.line, selector⟩ last ∧
        placed.exemption layouts statements directives selector = ⟨selector, placed.line, last, placed.line⟩) ∧
    suppressions.faults = comments.flatMap (faultsOf registry layouts directives) ∧
    (∀ text name, .unmatchedEnable name ∉ (readComment registry text).2) ∧
    ∀ (region : Region) (placed : PlacedDirective), region.isClosedBy layouts placed = true →
      region.selector = .all → .all ∈ placed.directive.selectors := by
  intro layouts comments directives suppressions
  have numbers : ∀ placed ∈ directives, 0 < placed.line ∧ placed.line ≤ layouts.length :=
    fun placed member => scanComments_numbers (mem_placedDirectives.mp member).1
  have listed : suppressions.exemptions = _ := exemptions_scan registry statements source
  refine ⟨?_, listed, ?_, faults_scan registry statements source, unmatchedEnable_not_mem_readComment registry, ?_⟩
  · intro exemption member
    rw [listed] at member
    obtain ⟨placed, placedMember, inside⟩ := List.mem_flatMap.mp member
    obtain ⟨positive, inFile⟩ := numbers placed placedMember
    obtain ⟨selector, rfl⟩ := PlacedDirective.eq_exemption_of_mem inside
    exact ⟨placed.line_le_firstLine layouts, PlacedDirective.firstLine_le_lastLine positive inFile selector⟩
  · intro placed member isDisable
    obtain ⟨positive, inFile⟩ := numbers placed member
    refine ⟨isNaturalEnd_naturalEnd positive inFile, fun selector _ => ?_⟩
    exact ⟨_, Region.endsAt_endLine (ascending_placedDirectives registry source) _,
      exemption_of_disable isDisable selector⟩
  · intro region placed closed isAll
    simp only [Region.isClosedBy, Bool.and_eq_true, List.any_eq_true] at closed
    obtain ⟨-, closing, named, closes⟩ := closed
    simp only [Selector.closes, isAll, Bool.or_eq_true, decide_eq_true_eq] at closes
    rcases closes with rfl | same
    · exact named
    · rw [same]
      exact named

/-- An `enable` of one rule inside a region for all rules leaves the region as it is, and is at fault. -/
theorem regions_of_directives_all :
    let source := "# skylos: disable\n# skylos: enable=no-eval\n".toList
    let directives := placedDirectives .builtin (scanComments source).2
    let suppressions := scan .builtin [] source
    Region.EndsAt (scanComments source).1 directives ⟨1, .all⟩ 2 ∧
      suppressions.exemptions = [⟨.all, 1, 2, 1⟩] ∧ suppressions.faults = [(2, .unmatchedEnable "no-eval")] := by
  intro source directives suppressions
  obtain ⟨-, listed, regions, faulty, -⟩ := regions_of_directives .builtin [] source
  let disable : PlacedDirective := ⟨⟨1, " skylos: disable".toList, false⟩, ⟨.disable, [.all]⟩⟩
  obtain ⟨member, isExempted, isListed, isFaulty⟩ : disable ∈ directives ∧
      disable.exemption (scanComments source).1 [] directives .all = ⟨.all, 1, 2, 1⟩ ∧
      directives.flatMap (PlacedDirective.exemptions (scanComments source).1 [] directives) = [⟨.all, 1, 2, 1⟩] ∧
      (scanComments source).2.flatMap (faultsOf .builtin (scanComments source).1 directives) =
        [(2, .unmatchedEnable "no-eval")] := by
    decide +kernel
  obtain ⟨last, ends, isLast⟩ := (regions disable member rfl).2 .all List.mem_cons_self
  have isTwo : 2 = last := congrArg Exemption.endLine (isExempted.symm.trans isLast)
  exact ⟨isTwo ▸ ends, listed.trans isListed, faulty.trans isFaulty⟩

end Lintel.Suppressions
