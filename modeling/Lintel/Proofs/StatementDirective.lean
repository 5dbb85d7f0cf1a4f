import Lintel.Proofs.DispatchOutput
import Lintel.Proofs.LineNumbers
import Lintel.Proofs.SuppressionRegions
import Mathlib.Data.List.Nodup

/-!
# Directives for a statement

A directive for a statement is about the statements that start on one line: its own if it stands behind code,
and else the next line of code. It covers whatever is found at a node that starts inside one of them, on
whichever line, and it reaches no further than the last line of these statements.
-/

set_option autoImplicit false

namespace Lintel

namespace Suppression

/-! ## The line of the statements -/

def HoldsCode (layouts : List LineLayout) (line : Nat) : Prop :=
  ∃ layout, layouts[line - 1]? = some layout ∧ layout.hasCode = true

/-- The line that a directive for a statement is about: its own behind code, and else the next one that holds
code, or the one that follows if none does. -/
inductive IsAnchor (layouts : List LineLayout) (comment : Comment) : Nat → Prop where
  | own : comment.trailing = true → IsAnchor layouts comment comment.line
  | next {line : Nat} : comment.trailing = false →
      IsLeast {later | comment.line < later ∧ HoldsCode layouts later} line → IsAnchor layouts comment line
  | none : comment.trailing = false → (∀ later, comment.line < later → ¬ HoldsCode layouts later) →
      IsAnchor layouts comment (comment.line + 1)

theorem isAnchor_firstLine (layouts : List LineLayout) (comment : Comment) (selectors : List Selector) :
    IsAnchor layouts comment (PlacedDirective.firstLine layouts ⟨comment, ⟨.disableStatement, selectors⟩⟩) := by
  have isFirst : PlacedDirective.firstLine layouts ⟨comment, ⟨.disableStatement, selectors⟩⟩ =
      if comment.trailing then comment.line else nextCodeLine layouts comment.line := rfl
  rw [isFirst]
  cases trails : comment.trailing with
  | true => exact .own trails
  | false =>
    rw [if_neg (by simp), nextCodeLine]
    cases isFound : firstLineAfter layouts comment.line LineLayout.hasCode with
    | none =>
      apply IsAnchor.none trails
      rintro later isLater ⟨layout, isThere, hasCode⟩
      rw [firstLineAfter_eq_none isFound isLater isThere] at hasCode
      cases hasCode
    | some found =>
      obtain ⟨isLater, ⟨layout, isThere, hasCode⟩, first⟩ := firstLineAfter_eq_some isFound
      refine .next trails ⟨⟨isLater, layout, isThere, hasCode⟩, ?_⟩
      rintro other ⟨otherLater, otherLayout, otherThere, otherCode⟩
      by_contra notBelow
      have earlier : other < found := Nat.lt_of_not_le notBelow
      rw [first other otherLayout otherLater earlier otherThere] at otherCode
      cases otherCode

/-! ## The last line of the statements -/

theorem isGreatest_foldl_max (ends : List Nat) (start : Nat) :
    IsGreatest {line | line = start ∨ line ∈ ends} (ends.foldl max start) := by
  induction ends generalizing start with
  | nil => exact ⟨.inl rfl, fun line isHere => (isHere.resolve_right List.not_mem_nil).le⟩
  | cons last ends ih =>
    obtain ⟨isHere, isUpper⟩ := ih (max start last)
    rw [List.foldl_cons]
    constructor
    · rcases isHere with isMax | later
      · rcases Nat.le_total start last with ordered | ordered
        · right
          rw [isMax, Nat.max_eq_right ordered]
          exact List.mem_cons_self
        · left
          rw [isMax, Nat.max_eq_left ordered]
      · exact .inr (List.mem_cons_of_mem _ later)
    · have reached : max start last ≤ ends.foldl max (max start last) := isUpper (.inl rfl)
      rintro line (rfl | listed)
      · exact Nat.le_trans (Nat.le_max_left _ _) reached
      · cases listed with
        | head => exact Nat.le_trans (Nat.le_max_right _ _) reached
        | tail _ later => exact isUpper (.inr later)

theorem isGreatest_statementEnd (statements : List (Nat × Nat)) (line : Nat) :
    IsGreatest {last | last = line ∨ (line, last) ∈ statements} (statementEnd statements line) := by
  have same : {last | last = line ∨ (line, last) ∈ statements} =
      {last | last = line ∨ last ∈ (statements.filter fun lines => lines.1 = line).map Prod.snd} := by
    ext last
    simp [and_comm]
  rw [same]
  exact isGreatest_foldl_max _ line

end Suppression

namespace Dispatch

theorem mem_statements_of_run {routing : Routing} {source : SourceContext} {body : List Python.Stmt}
    {token : CancelToken} {output : WalkOutput} (walked : (run routing source body token).1 = some output)
    {first last : Nat} :
    (first, last) ∈ output.statements ↔ ∃ statement, .stmt statement ∈ walkBody body ∧
      source.lines.lineOf statement.extent.start = first ∧ source.lines.lineOf statement.extent.stop = last := by
  have isFull : output = fullOutput routing source body := by
    rcases run_cases routing source body token with ⟨after, isRun⟩ | ⟨after, isRun, -⟩
    · rw [isRun] at walked
      exact (Option.some.inj walked).symm
    · rw [isRun] at walked
      cases walked
  rw [isFull, (accounts_fullOutput routing source body).statements, List.mem_flatMap]
  constructor
  · rintro ⟨node, visited, listed⟩
    cases node with
    | stmt statement =>
      obtain ⟨rfl, rfl⟩ := Prod.mk.inj (List.mem_singleton.mp listed)
      exact ⟨statement, visited, rfl, rfl⟩
    | expr expression => cases listed
    | handler clause => cases listed
  · rintro ⟨statement, visited, rfl, rfl⟩
    exact ⟨.stmt statement, visited, List.mem_singleton_self _⟩

end Dispatch

/-- A statement that the walk over a module visits, and that starts on a line. -/
structure StartsOn (lines : Text.LineIndex) (body : List Python.Stmt) (line : Nat) (statement : Python.Stmt) :
    Prop where
  visited : .stmt statement ∈ walkBody body
  line_eq : lines.lineOf statement.extent.start = line

/-- The last line of the statements that start on a line, and that line itself if none does. -/
def IsLastLine (lines : Text.LineIndex) (body : List Python.Stmt) (line last : Nat) : Prop :=
  IsGreatest {stop | ∃ statement, StartsOn lines body line statement ∧ lines.lineOf statement.extent.stop = stop}
      last ∨
    (∀ statement, ¬ StartsOn lines body line statement) ∧ last = line

open Suppression in
theorem Dispatch.isLastLine_statementEnd {routing : Routing} {path : String} {source : List Char}
    {body : List Python.Stmt} {token : CancelToken} {output : WalkOutput}
    (walked : (run routing ⟨path, .ofChars source⟩ body token).1 = some output)
    (ordered : ∀ statement, .stmt statement ∈ walkBody body → statement.extent.start ≤ statement.extent.stop)
    (line : Nat) :
    IsLastLine (.ofChars source) body line (statementEnd output.statements line) := by
  have listed_iff : ∀ last, (line, last) ∈ output.statements ↔ ∃ statement,
      StartsOn (.ofChars source) body line statement ∧
        (Text.LineIndex.ofChars source).lineOf statement.extent.stop = last := by
    intro last
    rw [mem_statements_of_run walked]
    constructor
    · rintro ⟨statement, visited, starts, ends⟩
      exact ⟨statement, ⟨visited, starts⟩, ends⟩
    · rintro ⟨statement, ⟨visited, starts⟩, ends⟩
      exact ⟨statement, visited, starts, ends⟩
  obtain ⟨reached, isUpper⟩ := isGreatest_statementEnd output.statements line
  by_cases none : ∀ statement, ¬ StartsOn (.ofChars source) body line statement
  · right
    refine ⟨none, ?_⟩
    rcases reached with isLine | listed
    · exact isLine
    · obtain ⟨statement, starts, -⟩ := (listed_iff _).mp listed
      exact absurd starts (none statement)
  · left
    obtain ⟨statement, starts⟩ := not_forall_not.mp none
    constructor
    · rcases reached with isLine | listed
      -- the statement ends on its line at the earliest, so the greatest end is that line
      · refine ⟨statement, starts, Nat.le_antisymm ?_ ?_⟩
        · exact isUpper (.inr ((listed_iff _).mpr ⟨statement, starts, rfl⟩))
        · rw [isLine]
          exact starts.line_eq.ge.trans (Text.LineIndex.lineOf_mono source (ordered statement starts.visited))
      · exact (listed_iff _).mp listed
    · intro stop ends
      exact isUpper (.inr ((listed_iff stop).mpr ends))

namespace Suppressions

open Suppression

/-- The directive on a line exempts findings of a rule on another line. -/
def Exempts (suppressions : Suppressions) (directiveLine : Nat) (ruleId : String) (line : Nat) : Prop :=
  ∃ exemption ∈ suppressions.exemptions, exemption.line = directiveLine ∧ exemption.covers ruleId line = true

section Placed

variable {registry : Registry} {statements : List (Nat × Nat)} {source : List Char} {comment : Comment}

/-- There is at most one comment on a line, so a line tells which directive an exemption is of. -/
theorem mem_exemptions_iff_of_line (member : comment ∈ (scanComments source).2) {directive : Directive}
    (read : (readComment registry comment.text).1 = some directive) {exemption : Exemption} :
    exemption ∈ (scan registry statements source).exemptions ∧ exemption.line = comment.line ↔
      exemption ∈ PlacedDirective.exemptions (scanComments source).1 statements
        (placedDirectives registry (scanComments source).2) ⟨comment, directive⟩ := by
  have placed : (⟨comment, directive⟩ : PlacedDirective) ∈ placedDirectives registry (scanComments source).2 :=
    mem_placedDirectives.mpr ⟨member, read⟩
  rw [exemptions_scan, List.mem_flatMap]
  constructor
  · rintro ⟨⟨other, otherPlaced, inside⟩, sameLine⟩
    obtain ⟨selector, isExemption⟩ := PlacedDirective.eq_exemption_of_mem inside
    have lineOther : other.line = comment.line := by
      rw [isExemption] at sameLine
      exact sameLine
    have distinct : ((placedDirectives registry (scanComments source).2).map PlacedDirective.line).Nodup :=
      List.pairwise_map.mpr ((ascending_placedDirectives registry source).imp Nat.ne_of_lt)
    have same : other = ⟨comment, directive⟩ := List.inj_on_of_nodup_map distinct otherPlaced placed lineOther
    rw [← same]
    exact inside
  · intro inside
    obtain ⟨selector, rfl⟩ := PlacedDirective.eq_exemption_of_mem inside
    exact ⟨⟨_, placed, inside⟩, rfl⟩

theorem exempts_disableStatement_iff (member : comment ∈ (scanComments source).2) {selectors : List Selector}
    (read : (readComment registry comment.text).1 = some ⟨.disableStatement, selectors⟩) (ruleId : String)
    (line : Nat) :
    let first := PlacedDirective.firstLine (scanComments source).1 ⟨comment, ⟨.disableStatement, selectors⟩⟩
    (scan registry statements source).Exempts comment.line ruleId line ↔
      (∃ selector ∈ selectors, selector.isAbout ruleId = true) ∧ first ≤ line ∧
        line ≤ statementEnd statements first := by
  intro first
  have listed_iff : ∀ exemption : Exemption,
      exemption ∈ (scan registry statements source).exemptions ∧ exemption.line = comment.line ↔
        ∃ selector ∈ selectors, ⟨selector, first, statementEnd statements first, comment.line⟩ = exemption := by
    intro exemption
    rw [mem_exemptions_iff_of_line member read]
    exact List.mem_map
  constructor
  · rintro ⟨exemption, listed, sameLine, covers⟩
    obtain ⟨selector, named, rfl⟩ := (listed_iff exemption).mp ⟨listed, sameLine⟩
    simp only [Exemption.covers, Bool.and_eq_true, decide_eq_true_eq] at covers
    exact ⟨⟨selector, named, covers.1⟩, covers.2⟩
  · rintro ⟨⟨selector, named, isAbout⟩, inside⟩
    obtain ⟨listed, sameLine⟩ := (listed_iff _).mpr ⟨selector, named, rfl⟩
    refine ⟨_, listed, sameLine, ?_⟩
    simp only [Exemption.covers, Bool.and_eq_true, decide_eq_true_eq]
    exact ⟨isAbout, inside⟩

end Placed

theorem isSuppressed_of_exempts {suppressions : Suppressions} {directiveLine : Nat} {ruleId : String} {line : Nat}
    (exempts : suppressions.Exempts directiveLine ruleId line) :
    suppressions.isSuppressed ruleId line = true ↔ ruleId ≠ invalidSuppressionId := by
  obtain ⟨exemption, listed, -, covers⟩ := exempts
  have covered : (suppressions.exemptions.any fun exemption => exemption.covers ruleId line) = true :=
    List.any_eq_true.mpr ⟨exemption, listed, covers⟩
  rw [isSuppressed, covered, Bool.and_true, decide_eq_true_eq]

end Suppressions

open Suppression in
/-- A directive for a statement exempts its rules exactly from its anchor to the last line of the statements that
start there. So whatever is found at an extent that starts within such a statement does not count, unless it
tells what is wrong with a directive. -/
theorem disableStatement_covers_statements {registry : Registry} {source : List Char} {comment : Comment}
    (member : comment ∈ (scanComments source).2) {selectors : List Selector}
    (read : (readComment registry comment.text).1 = some ⟨.disableStatement, selectors⟩) {routing : Routing}
    {path : String} {body : List Python.Stmt} {token : CancelToken} {output : WalkOutput}
    (walked : (Dispatch.run routing ⟨path, .ofChars source⟩ body token).1 = some output)
    (ordered : ∀ statement, .stmt statement ∈ walkBody body → statement.extent.start ≤ statement.extent.stop) :
    let lines := Text.LineIndex.ofChars source
    let suppressions := Suppressions.scan registry output.statements source
    ∃ anchor last, IsAnchor (scanComments source).1 comment anchor ∧ IsLastLine lines body anchor last ∧
      (∀ ruleId line, suppressions.Exempts comment.line ruleId line ↔
        (∃ selector ∈ selectors, selector.isAbout ruleId = true) ∧ anchor ≤ line ∧ line ≤ last) ∧
      ∀ statement, StartsOn lines body anchor statement → ∀ node ∈ walkBody body,
        statement.extent.start ≤ node.extent.start → node.extent.start ≤ statement.extent.stop →
        ∀ finding : Finding, finding.span = Span.ofExtent lines node.extent →
        ∀ selector ∈ selectors, selector.isAbout finding.ruleId = true →
          suppressions.Exempts comment.line finding.ruleId finding.span.startLine ∧
            (suppressions.isSuppressed finding.ruleId finding.span.startLine = true ↔
              finding.ruleId ≠ invalidSuppressionId) := by
  intro lines suppressions
  let anchor := PlacedDirective.firstLine (scanComments source).1 ⟨comment, ⟨.disableStatement, selectors⟩⟩
  have exempts_iff := @Suppressions.exempts_disableStatement_iff registry output.statements source comment member
    selectors read
  refine ⟨anchor, statementEnd output.statements anchor, isAnchor_firstLine _ comment selectors,
    Dispatch.isLastLine_statementEnd walked ordered anchor, exempts_iff, ?_⟩
  intro statement starts node _ above below finding located selector named isAbout
  have startLine : finding.span.startLine = lines.lineOf node.extent.start := by
    rw [located]
    exact Text.LineIndex.line_lineColumn source node.extent.start
  have isEnd : (anchor, lines.lineOf statement.extent.stop) ∈ output.statements :=
    (Dispatch.mem_statements_of_run walked).mpr ⟨statement, starts.visited, starts.line_eq, rfl⟩
  have exempts : suppressions.Exempts comment.line finding.ruleId finding.span.startLine := by
    refine (exempts_iff _ _).mpr ⟨⟨selector, named, isAbout⟩, ?_, ?_⟩
    · rw [startLine]
      exact starts.line_eq.ge.trans (Text.LineIndex.lineOf_mono source above)
    · rw [startLine]
      exact (Text.LineIndex.lineOf_mono source below).trans
        ((isGreatest_statementEnd output.statements anchor).2 (.inr isEnd))
  exact ⟨exempts, Suppressions.isSuppressed_of_exempts exempts⟩

open Suppression in
/-- The comment stands above a loop, so the `pass` on the second line of the loop does not count, and the one
behind the loop does. -/
theorem disableStatement_covers_statements_loop :
    let source := "# skylos: disable-statement\nwhile x:\n    pass\npass\n".toList
    let lines := Text.LineIndex.ofChars source
    let body : List Python.Stmt :=
      [.whileLoop ⟨28, 45⟩ (.name ⟨34, 35⟩ "x") [.pass ⟨41, 45⟩] [], .pass ⟨46, 50⟩]
    ∃ output, (Dispatch.run ⟨[]⟩ ⟨"a.py", lines⟩ body .fresh).1 = some output ∧
      let suppressions := Suppressions.scan .builtin output.statements source
      suppressions.isSuppressed "no-pass" (Span.ofExtent lines ⟨41, 45⟩).startLine = true ∧
        ¬ suppressions.Exempts 1 "no-pass" (Span.ofExtent lines ⟨46, 50⟩).startLine := by
  intro source lines body
  let comment : Comment := ⟨1, " skylos: disable-statement".toList, false⟩
  have member : comment ∈ (scanComments source).2 := by decide +kernel
  have read : (readComment .builtin comment.text).1 = some ⟨.disableStatement, [.all]⟩ := by decide +kernel
  obtain ⟨output, walked⟩ := Option.isSome_iff_exists.mp
    (show (Dispatch.run ⟨[]⟩ ⟨"a.py", lines⟩ body .fresh).1.isSome = true by decide +kernel)
  have extents : ∀ node ∈ walkBody body, node.extent.start ≤ node.extent.stop ∧
      (lines.lineOf node.extent.start = 2 → lines.lineOf node.extent.stop ≤ 3) := by
    decide +kernel
  obtain ⟨anchor, last, isAnchor, isLast, exempts_iff, covers⟩ := disableStatement_covers_statements member read
    walked fun statement visited => (extents _ visited).1
  have isSecond : anchor = 2 := by
    have holdsCode : HoldsCode (scanComments source).1 2 := ⟨⟨true, 0, false⟩, by decide +kernel, rfl⟩
    cases isAnchor with
    | own trails => cases trails
    | next _ isLeast =>
      have isLater : 1 < anchor := isLeast.1.1
      have reached : anchor ≤ 2 := isLeast.2 ⟨by decide, holdsCode⟩
      omega
    | none _ never => exact absurd holdsCode (never 2 (by decide))
  subst isSecond
  refine ⟨output, walked, ?_, ?_⟩
  · have loop : StartsOn lines body 2 (.whileLoop ⟨28, 45⟩ (.name ⟨34, 35⟩ "x") [.pass ⟨41, 45⟩] []) :=
      ⟨by rw [walkBody, List.flatMap_cons, Node.walk]; exact List.mem_cons_self, by decide +kernel⟩
    have inside : (⟨41, 45⟩ : Python.Extent) ∈ (walkBody body).map Node.extent := by decide +kernel
    obtain ⟨node, visited, located⟩ := List.mem_map.mp inside
    have found := covers _ loop node visited (by rw [located]; decide) (by rw [located]; decide)
      ⟨"no-pass", Span.ofExtent lines ⟨41, 45⟩, "pass", .warning⟩ (by rw [located]) .all List.mem_cons_self rfl
    exact found.2.mpr (by decide)
  · intro exempts
    have below := ((exempts_iff _ _).mp exempts).2.2
    have isFourth : (Span.ofExtent lines ⟨46, 50⟩).startLine = 4 := by decide +kernel
    rcases isLast with ⟨⟨statement, starts, rfl⟩, -⟩ | ⟨-, rfl⟩
    · have ends := (extents _ starts.visited).2 starts.line_eq
      exact absurd (isFourth.ge.trans (below.trans ends)) (by decide)
    · exact absurd (isFourth.ge.trans below) (by decide)

end Lintel
