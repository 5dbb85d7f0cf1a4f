import Lintel.Proofs.CommentScan
import Mathlib.Data.List.Induction

/-!
# Directives of a source

What the directives of a source amount to, told by the directives alone and without the list of regions
that an `enable` can still close. Each directive has its exemptions among all the others, and an `enable` is
at fault for each of its selectors that finds no region waiting. Obeying the directives one after another
comes to the same.
-/

set_option autoImplicit false

namespace Lintel.Suppression

/-! ## Directives in their places -/

/-- A directive, and the comment that holds it. -/
structure PlacedDirective where
  comment : Comment
  directive : Directive
deriving Repr, DecidableEq

namespace PlacedDirective

def line (placed : PlacedDirective) : Nat := placed.comment.line

end PlacedDirective

/-- The directives among comments. -/
def placedDirectives (registry : Registry) (comments : List Comment) : List PlacedDirective :=
  comments.filterMap fun comment =>
    (readComment registry comment.text).1.map fun directive => ⟨comment, directive⟩

/-- Whether an `enable` of one selector is about regions of another. -/
def Selector.closes (closing opened : Selector) : Bool :=
  closing = .all || opened = closing

/-- What one selector of a `disable` opens. -/
structure Region where
  line : Nat
  selector : Selector
deriving Repr, DecidableEq

/-- The regions that directives open. -/
def regionsOf (directives : List PlacedDirective) : List Region :=
  directives.flatMap fun placed =>
    if placed.directive.action = .disable then placed.directive.selectors.map fun selector => ⟨placed.line, selector⟩
    else []

namespace Region

variable (layouts : List LineLayout)

/-- Whether a line is in a region, behind its `disable` and not behind its natural end. -/
def includes (region : Region) (line : Nat) : Bool :=
  region.line < line && line ≤ naturalEnd layouts region.line

/-- Whether a directive is an `enable` that is in time for a region and names it. -/
def isClosedBy (region : Region) (placed : PlacedDirective) : Bool :=
  placed.directive.action = .enable && region.includes layouts placed.line
    && placed.directive.selectors.any fun closing => closing.closes region.selector

/-- Whether a region is still open on a line when some selectors of the `enable` there have had their
turn: no earlier `enable` has closed it, and none of these selectors does. -/
def awaits (directives : List PlacedDirective) (line : Nat) (earlier : List Selector) (region : Region) :
    Bool :=
  region.includes layouts line
    && !(directives.any fun placed => placed.line < line && region.isClosedBy layouts placed)
    && !(earlier.any fun closing => closing.closes region.selector)

end Region

/-- The selectors of an `enable` that find no region waiting, each after the ones before it. -/
def unmatched (layouts : List LineLayout) (directives : List PlacedDirective) (line : Nat)
    (earlier : List Selector) : List Selector → List Selector
  | [] => []
  | closing :: later =>
    let found := (regionsOf directives).any fun region =>
      region.awaits layouts directives line earlier && closing.closes region.selector
    (if found then [] else [closing]) ++ unmatched layouts directives line (earlier ++ [closing]) later

/-- What is wrong with the directive of a comment, among all directives. -/
def faultsOf (registry : Registry) (layouts : List LineLayout) (directives : List PlacedDirective)
    (comment : Comment) : List (Nat × Fault) :=
  let read := readComment registry comment.text
  (read.2.map fun fault => (comment.line, fault)) ++
    match read.1 with
    | some ⟨.enable, selectors⟩ => (unmatched layouts directives comment.line [] selectors).map fun closing =>
        (comment.line, .unmatchedEnable closing.name)
    | _ => []

/-! ## Obeying directives one after another -/

/-- The last line of a region. -/
def Region.endLine (layouts : List LineLayout) (directives : List PlacedDirective) (region : Region) : Nat :=
  ((directives.find? (region.isClosedBy layouts)).map PlacedDirective.line).getD
    (naturalEnd layouts region.line)

namespace PlacedDirective

/-- The first line that a directive is about. -/
def firstLine (layouts : List LineLayout) (placed : PlacedDirective) : Nat :=
  match placed.directive.action with
  | .disableNextLine => nextCodeLine layouts placed.line
  | .disableStatement => if placed.comment.trailing then placed.line else nextCodeLine layouts placed.line
  | .disableLine | .disable | .enable => placed.line

section Among

variable (layouts : List LineLayout) (statements : List (Nat × Nat)) (directives : List PlacedDirective)

/-- The last line on which a directive exempts a selector, among the given directives. -/
def lastLine (placed : PlacedDirective) (selector : Selector) : Nat :=
  match placed.directive.action with
  | .disableStatement => statementEnd statements (placed.firstLine layouts)
  | .disable => Region.endLine layouts directives ⟨placed.line, selector⟩
  | .disableLine | .disableNextLine | .enable => placed.firstLine layouts

def exemption (placed : PlacedDirective) (selector : Selector) : Exemption :=
  ⟨selector, placed.firstLine layouts, placed.lastLine layouts statements directives selector, placed.line⟩

/-- The exemptions of a directive among the given directives: one for each of its selectors, unless it is
an `enable`. -/
def exemptions (placed : PlacedDirective) : List Exemption :=
  if placed.directive.action = .enable then []
  else placed.directive.selectors.map (placed.exemption layouts statements directives)

/-- The exemption of one selector, and whether it is a region that is open behind the given directives. -/
def trackedFor (placed : PlacedDirective) (selector : Selector) : Tracked :=
  ⟨placed.exemption layouts statements directives selector, placed.directive.action = .disable &&
    !(directives.any (Region.isClosedBy layouts ⟨placed.line, selector⟩))⟩

def tracked (placed : PlacedDirective) : List Tracked :=
  if placed.directive.action = .enable then []
  else placed.directive.selectors.map (placed.trackedFor layouts statements directives)

theorem map_exemption_tracked (placed : PlacedDirective) :
    (placed.tracked layouts statements directives).map Tracked.exemption =
      placed.exemptions layouts statements directives := by
  unfold tracked exemptions
  split
  · rfl
  · rw [List.map_map]
    rfl

end Among

end PlacedDirective

theorem Exemption.covers_ofLine (selector : Selector) (line : Nat) (ruleId : String) (other : Nat) :
    (Exemption.mk selector line line line).covers ruleId other = true ↔
      selector.isAbout ruleId = true ∧ line = other := by
  simp only [covers, Bool.and_eq_true, decide_eq_true_eq]
  constructor
  · rintro ⟨isAbout, above, below⟩
    exact ⟨isAbout, by omega⟩
  · rintro ⟨isAbout, rfl⟩
    exact ⟨isAbout, by omega⟩

/-- Closes a region on a line, if one of the selectors allows it. -/
def Tracked.closeAny (selectors : List Selector) (line : Nat) (tracked : Tracked) : Tracked :=
  if selectors.any fun closing => tracked.isClosedBy closing line then
    ⟨{ tracked.exemption with endLine := line }, false⟩
  else tracked

namespace Tracked

variable {tracked : Tracked} {line : Nat}

theorem isClosedBy_eq (closing : Selector) : tracked.isClosedBy closing line =
    (tracked.isOpen && closing.closes tracked.exemption.selector && line ≤ tracked.exemption.endLine) := rfl

theorem isClosedBy_of_closed (isClosed : tracked.isOpen = false) (closing : Selector) :
    tracked.isClosedBy closing line = false := by
  simp [isClosedBy_eq, isClosed]

theorem closeAny_nil : closeAny [] line = id := rfl

theorem closeAny_of_closed (isClosed : tracked.isOpen = false) (selectors : List Selector) :
    tracked.closeAny selectors line = tracked := by
  rw [closeAny, if_neg]
  simp [isClosedBy_of_closed isClosed]

theorem closeAny_append (earlier : List Selector) (closing : Selector) :
    tracked.closeAny (earlier ++ [closing]) line = (tracked.closeAny earlier line).close closing line := by
  by_cases done : (earlier.any fun selector => tracked.isClosedBy selector line) = true
  · have first : tracked.closeAny earlier line = ⟨{ tracked.exemption with endLine := line }, false⟩ :=
      if_pos done
    rw [first, close, isClosedBy_of_closed rfl]
    simp [closeAny, List.any_append, done]
  · have first : tracked.closeAny earlier line = tracked := if_neg done
    rw [first, closeAny, List.any_append, Bool.eq_false_iff.mpr done]
    simp [close]

theorem isClosedBy_closeAny (earlier : List Selector) (closing : Selector) :
    (tracked.closeAny earlier line).isClosedBy closing line =
      (tracked.isClosedBy closing line && !(earlier.any fun selector => tracked.isClosedBy selector line)) := by
  by_cases done : (earlier.any fun selector => tracked.isClosedBy selector line) = true
  · rw [closeAny, if_pos done, isClosedBy_of_closed rfl, done]
    simp
  · rw [closeAny, if_neg done, Bool.eq_false_iff.mpr done]
    simp

end Tracked

theorem tracked_closeRegions (line : Nat) (selectors : List Selector) {progress : Progress}
    {tracked : List Tracked} {earlier : List Selector}
    (isMapped : progress.tracked = tracked.map (Tracked.closeAny earlier line)) :
    (selectors.foldl (Progress.closeRegions line) progress).tracked =
      tracked.map (Tracked.closeAny (earlier ++ selectors) line) := by
  induction selectors generalizing progress earlier with
  | nil => simpa using isMapped
  | cons closing later ih =>
    rw [List.foldl_cons, List.append_cons]
    apply ih
    simp [Progress.closeRegions, isMapped, Tracked.closeAny_append]

/-- The faults of an `enable` are those of the selectors that find no region waiting, if the regions
waiting are those that are tracked as open. -/
theorem faults_closeRegions {layouts : List LineLayout} {directives : List PlacedDirective} {line : Nat}
    {tracked : List Tracked}
    (agrees : ∀ earlier closing,
      (tracked.any fun item => (item.closeAny earlier line).isClosedBy closing line) =
        (regionsOf directives).any fun region =>
          region.awaits layouts directives line earlier && closing.closes region.selector)
    (selectors : List Selector) {progress : Progress} {earlier : List Selector}
    (isMapped : progress.tracked = tracked.map (Tracked.closeAny earlier line)) :
    (selectors.foldl (Progress.closeRegions line) progress).faults =
      progress.faults ++ (unmatched layouts directives line earlier selectors).map fun closing =>
        (line, .unmatchedEnable closing.name) := by
  induction selectors generalizing progress earlier with
  | nil => simp [unmatched]
  | cons closing later ih =>
    have mapped : (progress.closeRegions line closing).tracked =
        tracked.map (Tracked.closeAny (earlier ++ [closing]) line) := by
      simp [Progress.closeRegions, isMapped, Tracked.closeAny_append]
    rw [List.foldl_cons, ih mapped, unmatched, ← agrees]
    simp only [Progress.closeRegions, isMapped, List.any_map, Function.comp_def]
    split <;> simp

theorem mem_regionsOf {directives : List PlacedDirective} {region : Region} :
    region ∈ regionsOf directives ↔ ∃ placed ∈ directives, placed.directive.action = .disable ∧
      placed.line = region.line ∧ region.selector ∈ placed.directive.selectors := by
  simp only [regionsOf, List.mem_flatMap]
  constructor
  · rintro ⟨placed, member, inside⟩
    split at inside
    next isDisable =>
      obtain ⟨selector, listed, rfl⟩ := List.mem_map.mp inside
      exact ⟨placed, member, isDisable, rfl, listed⟩
    next => cases inside
  · rintro ⟨placed, member, isDisable, isLine, listed⟩
    refine ⟨placed, member, ?_⟩
    rw [if_pos isDisable, isLine]
    exact List.mem_map.mpr ⟨region.selector, listed, rfl⟩

theorem mem_placedDirectives {registry : Registry} {comments : List Comment} {placed : PlacedDirective} :
    placed ∈ placedDirectives registry comments ↔
      placed.comment ∈ comments ∧ (readComment registry placed.comment.text).1 = some placed.directive := by
  simp only [placedDirectives, List.mem_filterMap, Option.map_eq_some_iff]
  constructor
  · rintro ⟨comment, member, directive, read, rfl⟩
    exact ⟨member, read⟩
  · rintro ⟨member, read⟩
    exact ⟨placed.comment, member, placed.directive, read, rfl⟩

namespace Region

variable {layouts : List LineLayout} {region : Region} {placed : PlacedDirective}

theorem isClosedBy_of_ne_enable (notEnable : placed.directive.action ≠ .enable) :
    region.isClosedBy layouts placed = false := by
  simp [isClosedBy, notEnable]

theorem lt_of_isClosedBy (closed : region.isClosedBy layouts placed = true) : region.line < placed.line := by
  simp only [isClosedBy, includes, Bool.and_eq_true, decide_eq_true_eq] at closed
  exact closed.1.2.1

theorem endLine_of_open {directives : List PlacedDirective}
    (isOpen : directives.any (region.isClosedBy layouts) = false) :
    region.endLine layouts directives = naturalEnd layouts region.line := by
  have none : directives.find? (region.isClosedBy layouts) = none := by
    rw [List.find?_eq_none]
    intro placed member closed
    exact List.any_eq_false.mp isOpen placed member closed
  simp [endLine, none]

theorem endLine_append_of_closed {directives : List PlacedDirective}
    (isClosed : directives.any (region.isClosedBy layouts) = true) :
    region.endLine layouts (directives ++ [placed]) = region.endLine layouts directives := by
  obtain ⟨found, isFound⟩ := Option.isSome_iff_exists.mp (List.find?_isSome.mpr (List.any_eq_true.mp isClosed))
  simp [endLine, List.find?_append, isFound]

theorem endLine_append_of_open {directives : List PlacedDirective}
    (isOpen : directives.any (region.isClosedBy layouts) = false)
    (closes : region.isClosedBy layouts placed = true) :
    region.endLine layouts (directives ++ [placed]) = placed.line := by
  have none : directives.find? (region.isClosedBy layouts) = none := by
    rw [List.find?_eq_none]
    intro other member closed
    exact List.any_eq_false.mp isOpen other member closed
  simp [endLine, List.find?_append, none, closes]

/-- A region as it is tracked until it is closed. -/
def waiting (layouts : List LineLayout) (region : Region) : Tracked :=
  ⟨⟨region.selector, region.line, naturalEnd layouts region.line, region.line⟩, true⟩

theorem isClosedBy_waiting (closing : Selector) (line : Nat) :
    (region.waiting layouts).isClosedBy closing line =
      (closing.closes region.selector && line ≤ naturalEnd layouts region.line) := by
  simp [Tracked.isClosedBy_eq, waiting]

theorem isClosedBy_eq_any (isEnable : placed.directive.action = .enable)
    (isOlder : region.line < placed.line) :
    region.isClosedBy layouts placed = placed.directive.selectors.any fun closing =>
      (region.waiting layouts).isClosedBy closing placed.line := by
  by_cases inTime : placed.line ≤ naturalEnd layouts region.line
  · simp [isClosedBy, includes, isEnable, isOlder, isClosedBy_waiting, inTime]
  · simp [isClosedBy, includes, isClosedBy_waiting, inTime]

end Region

section Obeying

variable {layouts : List LineLayout} {statements : List (Nat × Nat)} {directives : List PlacedDirective}
variable {placed older : PlacedDirective}

theorem exemption_of_disable (isDisable : placed.directive.action = .disable) (selector : Selector) :
    placed.exemption layouts statements directives selector =
      ⟨selector, placed.line, Region.endLine layouts directives ⟨placed.line, selector⟩, placed.line⟩ := by
  simp [PlacedDirective.exemption, PlacedDirective.firstLine, PlacedDirective.lastLine, isDisable]

theorem trackedFor_of_open (isDisable : placed.directive.action = .disable) {selector : Selector}
    (isOpen : directives.any (Region.isClosedBy layouts ⟨placed.line, selector⟩) = false) :
    placed.trackedFor layouts statements directives selector =
      Region.waiting layouts ⟨placed.line, selector⟩ := by
  rw [PlacedDirective.trackedFor, exemption_of_disable isDisable, Region.endLine_of_open isOpen, isDisable, isOpen]
  rfl

theorem tracked_append_of_ne_enable (notEnable : placed.directive.action ≠ .enable) :
    older.tracked layouts statements (directives ++ [placed]) = older.tracked layouts statements directives := by
  have same : ∀ region : Region, region.isClosedBy layouts placed = false :=
    fun region => Region.isClosedBy_of_ne_enable notEnable
  have sameItem : older.trackedFor layouts statements (directives ++ [placed]) =
      older.trackedFor layouts statements directives := by
    funext selector
    simp [PlacedDirective.trackedFor, PlacedDirective.exemption, PlacedDirective.lastLine, Region.endLine,
      List.find?_append, same]
  rw [PlacedDirective.tracked, PlacedDirective.tracked, sameItem]

/-- A directive that has just been read has met no `enable` yet. -/
theorem tracked_of_last (latest : ∀ other ∈ directives, other.line ≤ placed.line)
    (isDisable : placed.directive.action = .disable) :
    placed.tracked layouts statements directives = placed.directive.selectors.map fun selector =>
      Region.waiting layouts ⟨placed.line, selector⟩ := by
  rw [PlacedDirective.tracked, if_neg (by simp [isDisable])]
  refine List.map_congr_left fun selector _ => trackedFor_of_open isDisable ?_
  rw [List.any_eq_false]
  intro other member closed
  have behind := Region.lt_of_isClosedBy closed
  exact absurd (latest other member) (Nat.not_le.mpr behind)

theorem trackedFor_append_of_enable (isEnable : placed.directive.action = .enable)
    (isOlder : older.line < placed.line) (selector : Selector) :
    older.trackedFor layouts statements (directives ++ [placed]) selector =
      (older.trackedFor layouts statements directives selector).closeAny placed.directive.selectors
        placed.line := by
  by_cases isDisable : older.directive.action = .disable
  · cases closed : directives.any (Region.isClosedBy layouts ⟨older.line, selector⟩) with
    | true =>
      rw [Tracked.closeAny_of_closed (by simp [PlacedDirective.trackedFor, closed])]
      simp [PlacedDirective.trackedFor, exemption_of_disable isDisable, Region.endLine_append_of_closed closed,
        closed]
    | false =>
      have closes : Region.isClosedBy layouts ⟨older.line, selector⟩ placed = _ :=
        Region.isClosedBy_eq_any isEnable isOlder
      rw [trackedFor_of_open isDisable closed]
      cases now : Region.isClosedBy layouts ⟨older.line, selector⟩ placed with
      | true =>
        rw [Tracked.closeAny, if_pos (closes.symm.trans now), PlacedDirective.trackedFor,
          exemption_of_disable isDisable, Region.endLine_append_of_open closed now]
        simp [Region.waiting, now]
      | false =>
        rw [Tracked.closeAny, if_neg (Bool.eq_false_iff.mp (closes.symm.trans now))]
        exact trackedFor_of_open isDisable (by simp [closed, now])
  · rw [Tracked.closeAny_of_closed (by simp [PlacedDirective.trackedFor, isDisable])]
    have sameLast : older.lastLine layouts statements (directives ++ [placed]) selector =
        older.lastLine layouts statements directives selector := by
      unfold PlacedDirective.lastLine
      cases action : older.directive.action with
      | disable => exact absurd action isDisable
      | disableLine | disableNextLine | disableStatement | enable => rfl
    simp [PlacedDirective.trackedFor, PlacedDirective.exemption, sameLast, isDisable]

theorem tracked_append_of_enable (isEnable : placed.directive.action = .enable)
    (isOlder : older.line < placed.line) :
    older.tracked layouts statements (directives ++ [placed]) =
      (older.tracked layouts statements directives).map
        (Tracked.closeAny placed.directive.selectors placed.line) := by
  unfold PlacedDirective.tracked
  split
  · rfl
  · rw [List.map_map]
    exact List.map_congr_left fun selector _ => trackedFor_append_of_enable isEnable isOlder selector

/-- What is tracked as open are the regions that no `enable` has closed. -/
theorem mem_tracked_open {item : Tracked} :
    (∃ placed ∈ directives, item ∈ placed.tracked layouts statements directives) ∧ item.isOpen = true ↔
      ∃ region ∈ regionsOf directives, directives.any (region.isClosedBy layouts) = false ∧
        item = region.waiting layouts := by
  constructor
  · rintro ⟨⟨placed, member, inside⟩, isOpen⟩
    unfold PlacedDirective.tracked at inside
    split at inside
    next => cases inside
    next =>
      obtain ⟨selector, listed, rfl⟩ := List.mem_map.mp inside
      simp only [PlacedDirective.trackedFor, Bool.and_eq_true, decide_eq_true_eq, Bool.not_eq_true'] at isOpen
      obtain ⟨isDisable, notClosed⟩ := isOpen
      exact ⟨⟨placed.line, selector⟩, mem_regionsOf.mpr ⟨placed, member, isDisable, rfl, listed⟩, notClosed,
        trackedFor_of_open isDisable notClosed⟩
  · rintro ⟨⟨line, selector⟩, opened, notClosed, rfl⟩
    obtain ⟨placed, member, isDisable, rfl, listed⟩ := mem_regionsOf.mp opened
    refine ⟨⟨placed, member, ?_⟩, rfl⟩
    rw [PlacedDirective.tracked, if_neg (by simp [isDisable]), List.mem_map]
    exact ⟨selector, listed, trackedFor_of_open isDisable notClosed⟩

section Around

variable {line : Nat} {behind : List PlacedDirective}

/-- Of the directives around a line, only those in front of it count as earlier. -/
theorem any_isClosedBy_before (before : ∀ other ∈ directives, other.line < line)
    (after : ∀ other ∈ behind, line ≤ other.line) (region : Region) :
    ((directives ++ behind).any fun other => other.line < line && region.isClosedBy layouts other) =
      directives.any (region.isClosedBy layouts) := by
  rw [Bool.eq_iff_iff, List.any_eq_true, List.any_eq_true]
  constructor
  · rintro ⟨other, member, closed⟩
    simp only [Bool.and_eq_true, decide_eq_true_eq] at closed
    rcases List.mem_append.mp member with early | late
    · exact ⟨other, early, closed.2⟩
    · exact absurd closed.1 (Nat.not_lt.mpr (after other late))
  · rintro ⟨other, member, closed⟩
    exact ⟨other, List.mem_append_left _ member, by simp [before other member, closed]⟩

theorem lt_of_mem_regionsOf (before : ∀ other ∈ directives, other.line < line) {region : Region}
    (opened : region ∈ regionsOf directives) : region.line < line := by
  obtain ⟨placed, member, -, isLine, -⟩ := mem_regionsOf.mp opened
  exact isLine ▸ before placed member

theorem mem_regionsOf_before (after : ∀ other ∈ behind, line ≤ other.line) {region : Region}
    (isBefore : region.line < line) :
    region ∈ regionsOf (directives ++ behind) ↔ region ∈ regionsOf directives := by
  have split : regionsOf (directives ++ behind) = regionsOf directives ++ regionsOf behind := List.flatMap_append
  rw [split, List.mem_append, or_iff_left]
  intro opened
  obtain ⟨placed, late, -, isLine, -⟩ := mem_regionsOf.mp opened
  have isLater := after placed late
  omega

/-- The regions that an `enable` on a line can close are told alike by what is tracked and by all
directives, those behind it included. -/
theorem any_tracked_eq_any_awaits (before : ∀ other ∈ directives, other.line < line)
    (after : ∀ other ∈ behind, line ≤ other.line) (earlier : List Selector) (closing : Selector) :
    ((directives.flatMap (PlacedDirective.tracked layouts statements directives)).any fun item =>
      (item.closeAny earlier line).isClosedBy closing line) =
      (regionsOf (directives ++ behind)).any fun region =>
        region.awaits layouts (directives ++ behind) line earlier && closing.closes region.selector := by
  rw [Bool.eq_iff_iff, List.any_eq_true, List.any_eq_true]
  simp only [Tracked.isClosedBy_closeAny, Region.awaits, any_isClosedBy_before before after]
  constructor
  · rintro ⟨item, member, closes⟩
    have isOpen : item.isOpen = true := by
      simp only [Tracked.isClosedBy_eq, Bool.and_eq_true] at closes
      exact closes.1.1.1
    obtain ⟨region, opened, notClosed, rfl⟩ := mem_tracked_open.mp ⟨List.mem_flatMap.mp member, isOpen⟩
    have isBefore := lt_of_mem_regionsOf before opened
    refine ⟨region, (mem_regionsOf_before after isBefore).mpr opened, ?_⟩
    simp only [Region.isClosedBy_waiting, Bool.and_eq_true, decide_eq_true_eq] at closes
    obtain ⟨⟨named, inTime⟩, notEarlier⟩ := closes
    simp only [inTime, decide_true, Bool.and_true] at notEarlier
    simp [Region.includes, isBefore, inTime, notClosed, notEarlier, named]
  · rintro ⟨region, opened, closes⟩
    simp only [Region.includes, Bool.and_eq_true, decide_eq_true_eq, Bool.not_eq_true'] at closes
    obtain ⟨⟨⟨⟨isBefore, inTime⟩, notClosed⟩, notEarlier⟩, named⟩ := closes
    have openedBefore := (mem_regionsOf_before after isBefore).mp opened
    obtain ⟨inside, -⟩ := mem_tracked_open.mpr ⟨region, openedBefore, notClosed, rfl⟩
    refine ⟨region.waiting layouts, List.mem_flatMap.mpr inside, ?_⟩
    simp [Region.isClosedBy_waiting, inTime, named, notEarlier]

end Around

end Obeying

section Reading

variable {registry : Registry} {layouts : List LineLayout} {statements : List (Nat × Nat)}
variable {done behind : List Comment} {comment : Comment} {progress : Progress}

/-- What the directives among comments have added when all of them have been obeyed. -/
def trackedOf (registry : Registry) (layouts : List LineLayout) (statements : List (Nat × Nat))
    (comments : List Comment) : List Tracked :=
  (placedDirectives registry comments).flatMap
    (PlacedDirective.tracked layouts statements (placedDirectives registry comments))

theorem placedDirectives_append (first second : List Comment) :
    placedDirectives registry (first ++ second) =
      placedDirectives registry first ++ placedDirectives registry second :=
  List.filterMap_append

theorem placedDirectives_of_read {directive : Directive}
    (read : (readComment registry comment.text).1 = some directive) :
    placedDirectives registry [comment] = [⟨comment, directive⟩] := by
  simp [placedDirectives, read]

theorem placedDirectives_of_none (read : (readComment registry comment.text).1 = none) :
    placedDirectives registry [comment] = [] := by
  simp [placedDirectives, read]

theorem trackedOf_append_of_enable {selectors : List Selector}
    (before : ∀ other ∈ done, other.line < comment.line)
    (read : (readComment registry comment.text).1 = some ⟨.enable, selectors⟩) :
    trackedOf registry layouts statements (done ++ [comment]) =
      (trackedOf registry layouts statements done).map (Tracked.closeAny selectors comment.line) := by
  unfold trackedOf
  rw [placedDirectives_append, placedDirectives_of_read read, List.flatMap_append, List.map_flatMap]
  have nothing : List.flatMap (PlacedDirective.tracked layouts statements
      (placedDirectives registry done ++ [⟨comment, ⟨.enable, selectors⟩⟩]))
      [⟨comment, ⟨.enable, selectors⟩⟩] = [] := rfl
  rw [nothing, List.append_nil]
  refine List.flatMap_congr fun older member => ?_
  have isOlder : older.line < comment.line := before _ (mem_placedDirectives.mp member).1
  exact tracked_append_of_enable rfl isOlder

theorem trackedOf_append_of_ne_enable {directive : Directive} (notEnable : directive.action ≠ .enable)
    (read : (readComment registry comment.text).1 = some directive) :
    trackedOf registry layouts statements (done ++ [comment]) =
      trackedOf registry layouts statements done ++
        PlacedDirective.tracked layouts statements (placedDirectives registry (done ++ [comment]))
          ⟨comment, directive⟩ := by
  unfold trackedOf
  rw [placedDirectives_append, placedDirectives_of_read read, List.flatMap_append, List.flatMap_singleton]
  congr 1
  refine List.flatMap_congr fun older member => ?_
  exact tracked_append_of_ne_enable notEnable

theorem obey_of_ne_enable {directive : Directive} (notEnable : directive.action ≠ .enable)
    {directives : List PlacedDirective} (latest : ∀ other ∈ directives, other.line ≤ comment.line) :
    progress.obey layouts statements comment directive =
      { progress with
        tracked := progress.tracked ++
          PlacedDirective.tracked layouts statements directives ⟨comment, directive⟩ } := by
  unfold Progress.obey
  cases action : directive.action with
  | enable => exact absurd action notEnable
  | disable =>
    rw [tracked_of_last latest action]
    rfl
  | disableLine | disableNextLine | disableStatement =>
    simp [Progress.add, PlacedDirective.tracked, PlacedDirective.trackedFor, PlacedDirective.exemption,
      PlacedDirective.firstLine, PlacedDirective.lastLine, PlacedDirective.line, action]

/-- A comment with any other directive than an `enable` is at fault for what reading it finds. -/
theorem faultsOf_of_ne_enable {directive : Directive} {faults : List Fault} (notEnable : directive.action ≠ .enable)
    (read : readComment registry comment.text = (some directive, faults)) (directives : List PlacedDirective) :
    faultsOf registry layouts directives comment = faults.map fun fault => (comment.line, fault) := by
  simp only [faultsOf, read]
  split
  next selectors isThere =>
    cases isThere
    exact absurd rfl notEnable
  next => exact List.append_nil _

theorem take_enable {selectors : List Selector} {faults : List Fault}
    (before : ∀ other ∈ done, other.line < comment.line) (after : ∀ other ∈ behind, comment.line < other.line)
    (isTracked : progress.tracked = trackedOf registry layouts statements done)
    (read : readComment registry comment.text = (some ⟨.enable, selectors⟩, faults)) :
    (progress.take registry layouts statements comment).tracked =
        trackedOf registry layouts statements (done ++ [comment]) ∧
      (progress.take registry layouts statements comment).faults = progress.faults ++
        faultsOf registry layouts (placedDirectives registry (done ++ comment :: behind)) comment := by
  have earlier : ∀ other ∈ placedDirectives registry done, other.line < comment.line :=
    fun other member => before _ (mem_placedDirectives.mp member).1
  have later : ∀ other ∈ placedDirectives registry (comment :: behind), comment.line ≤ other.line := by
    intro other member
    rcases List.mem_cons.mp (mem_placedDirectives.mp member).1 with same | late
    · exact Nat.le_of_eq (congrArg Comment.line same.symm)
    · exact Nat.le_of_lt (after _ late)
  have isRead : (readComment registry comment.text).1 = some ⟨.enable, selectors⟩ := congrArg Prod.fst read
  obtain ⟨reported, taken, sameTracked, isReported⟩ : ∃ reported : Progress,
      progress.take registry layouts statements comment =
        selectors.foldl (Progress.closeRegions comment.line) reported ∧
      reported.tracked = progress.tracked ∧
      reported.faults = progress.faults ++ faults.map fun fault => (comment.line, fault) := by
    refine ⟨⟨progress.tracked, progress.faults ++ faults.map fun fault => (comment.line, fault)⟩, ?_, rfl, rfl⟩
    simp only [Progress.take, read, Progress.obey]
  have mapped : reported.tracked =
      (trackedOf registry layouts statements done).map (Tracked.closeAny [] comment.line) := by
    rw [sameTracked, isTracked, Tracked.closeAny_nil, List.map_id]
  rw [taken, trackedOf_append_of_enable before isRead, placedDirectives_append]
  refine ⟨tracked_closeRegions comment.line selectors mapped, ?_⟩
  rw [faults_closeRegions (any_tracked_eq_any_awaits earlier later) selectors mapped, isReported]
  simp [faultsOf, read]

/-- One comment more: what is tracked, and what is wrong. -/
theorem take_step
    (before : ∀ other ∈ done, other.line < comment.line) (after : ∀ other ∈ behind, comment.line < other.line)
    (isTracked : progress.tracked = trackedOf registry layouts statements done) :
    (progress.take registry layouts statements comment).tracked =
        trackedOf registry layouts statements (done ++ [comment]) ∧
      (progress.take registry layouts statements comment).faults = progress.faults ++
        faultsOf registry layouts (placedDirectives registry (done ++ comment :: behind)) comment := by
  rcases read : readComment registry comment.text with ⟨directive, faults⟩
  cases directive with
  | none =>
    have noMore := placedDirectives_of_none (congrArg Prod.fst read)
    simp [Progress.take, read, faultsOf, trackedOf, placedDirectives_append, noMore, isTracked]
  | some directive =>
    by_cases isEnable : directive.action = .enable
    · obtain ⟨action, selectors⟩ := directive
      cases isEnable
      exact take_enable before after isTracked read
    · have isRead : (readComment registry comment.text).1 = some directive := congrArg Prod.fst read
      have latest : ∀ other ∈ placedDirectives registry (done ++ [comment]), other.line ≤ comment.line := by
        intro other member
        rcases List.mem_append.mp (mem_placedDirectives.mp member).1 with early | here
        · exact Nat.le_of_lt (before _ early)
        · exact Nat.le_of_eq (congrArg Comment.line (List.mem_singleton.mp here))
      rw [trackedOf_append_of_ne_enable isEnable isRead, faultsOf_of_ne_enable isEnable read]
      simp [Progress.take, read, obey_of_ne_enable isEnable latest, isTracked]

/-- The directives of comments in ascending order, all obeyed. -/
theorem foldl_take {comments : List Comment}
    (ascending : comments.Pairwise fun first second => first.line < second.line) :
    (comments.foldl (Progress.take registry layouts statements) ⟨[], []⟩).tracked =
        trackedOf registry layouts statements comments ∧
      (comments.foldl (Progress.take registry layouts statements) ⟨[], []⟩).faults =
        comments.flatMap (faultsOf registry layouts (placedDirectives registry comments)) := by
  -- the comments read so far grow at their end, among all the comments
  suffices reading : ∀ done behind, comments = done ++ behind →
      (done.foldl (Progress.take registry layouts statements) ⟨[], []⟩).tracked =
          trackedOf registry layouts statements done ∧
        (done.foldl (Progress.take registry layouts statements) ⟨[], []⟩).faults =
          done.flatMap (faultsOf registry layouts (placedDirectives registry comments)) from
    reading comments [] (List.append_nil comments).symm
  intro done
  induction done using List.reverseRecOn with
  | nil => exact fun _ _ => ⟨rfl, rfl⟩
  | append_singleton done comment ih =>
    intro behind split
    rw [List.append_assoc, List.singleton_append] at split
    obtain ⟨isTracked, isFaulty⟩ := ih _ split
    have order := List.pairwise_append.mp (split ▸ ascending)
    have step := take_step (fun other early => order.2.2 other early comment List.mem_cons_self)
      (List.pairwise_cons.mp order.2.1).1 isTracked
    rw [List.foldl_append, List.foldl_cons, List.foldl_nil, List.flatMap_append, List.flatMap_singleton,
      ← isFaulty]
    exact split ▸ step

end Reading

end Lintel.Suppression

namespace Lintel.Suppressions

open Suppression

section Scan

variable (registry : Registry) (statements : List (Nat × Nat)) (source : List Char)

theorem exemptions_scan :
    (scan registry statements source).exemptions =
      (placedDirectives registry (scanComments source).2).flatMap (PlacedDirective.exemptions
        (scanComments source).1 statements (placedDirectives registry (scanComments source).2)) := by
  rw [scan_eq, progressOf, (foldl_take (ascending_scanComments source)).1, trackedOf, List.map_flatMap]
  refine List.flatMap_congr fun placed _ => ?_
  exact PlacedDirective.map_exemption_tracked _ statements _ placed

theorem faults_scan :
    (scan registry statements source).faults = (scanComments source).2.flatMap
      (faultsOf registry (scanComments source).1 (placedDirectives registry (scanComments source).2)) := by
  rw [scan_eq, progressOf]
  exact (foldl_take (ascending_scanComments source)).2

end Scan

end Lintel.Suppressions
