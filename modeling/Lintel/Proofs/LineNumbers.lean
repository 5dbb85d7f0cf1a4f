import Lintel.Proofs.Directives
import Lintel.Proofs.LineIndex
import Lintel.Proofs.Walk

/-!
# Line numbers

Lines are numbered twice: findings get theirs from the byte offsets of line feeds, and comments get theirs
from counting the lines of the source. Both are one more than the number of line feeds in front. So a
directive about its own line covers a finding if and only if no line feed stands between the two.
-/

set_option autoImplicit false

namespace Lintel

namespace Text

/-! ## The line of an offset -/

namespace LineIndex

/-- Later offsets are on the same line or on later ones. -/
theorem lineOf_mono (text : List Char) {first second : Nat} (ordered : first ≤ second) :
    (ofChars text).lineOf first ≤ (ofChars text).lineOf second := by
  rw [lineOf_eq, lineOf_eq]
  apply Nat.succ_le_succ
  apply List.countP_mono_left
  intro place _ isBefore
  simp only [decide_eq_true_eq] at isBefore ⊢
  omega

theorem lineOf_byteLength (before after : List Char) :
    (ofChars (before ++ after)).lineOf (byteLength before) = before.count '\n' + 1 := by
  rw [lineOf_eq, feedsFrom_append, List.countP_append, Nat.zero_add]
  have all : (feedsFrom 0 before).countP (fun place => place < byteLength before) = before.count '\n' := by
    rw [← length_feedsFrom 0, List.countP_eq_length]
    intro place member
    have bounds := bounds_of_mem_feedsFrom member
    simp only [decide_eq_true_eq]
    omega
  have none : (feedsFrom (byteLength before) after).countP (fun place => place < byteLength before) = 0 := by
    rw [List.countP_eq_zero]
    intro place member
    have bounds := bounds_of_mem_feedsFrom member
    simp only [decide_eq_true_eq]
    omega
  rw [all, none]

end LineIndex

/-- A line feed stands between two byte offsets: at the lower one or behind it, and before the upper one. -/
def FeedBetween (text : List Char) (first second : Nat) : Prop :=
  ∃ before after, text = before ++ '\n' :: after ∧ min first second ≤ byteLength before ∧
    byteLength before < max first second

namespace LineIndex

theorem lineOf_eq_iff (text : List Char) (first second : Nat) :
    (ofChars text).lineOf first = (ofChars text).lineOf second ↔ ¬ FeedBetween text first second := by
  -- the upper offset has as many line feeds more in front of it as there are between the two
  have counted : ∀ {lower upper : Nat}, lower ≤ upper →
      (feedsFrom 0 text).countP (fun place => place < upper) =
        (feedsFrom 0 text).countP (fun place => place < lower) +
          (feedsFrom 0 text).countP (fun place => lower ≤ place && place < upper) := by
    intro lower upper ordered
    induction feedsFrom 0 text with
    | nil => rfl
    | cons place places ih =>
      simp only [List.countP_cons, ih, decide_eq_true_eq, Bool.and_eq_true]
      split <;> split <;> split <;> omega
  have between : ∀ {lower upper : Nat},
      (feedsFrom 0 text).countP (fun place => lower ≤ place && place < upper) = 0 ↔
        ¬ ∃ before after, text = before ++ '\n' :: after ∧ lower ≤ byteLength before ∧
          byteLength before < upper := by
    intro lower upper
    rw [List.countP_eq_zero]
    constructor
    · rintro none ⟨before, after, split, above, below⟩
      refine none (byteLength before) (mem_feedsFrom.mpr ⟨before, after, split, by omega⟩) ?_
      simp [above, below]
    · rintro none place member inside
      obtain ⟨before, after, split, rfl⟩ := mem_feedsFrom.mp member
      simp only [Nat.zero_add, Bool.and_eq_true, decide_eq_true_eq] at inside
      exact none ⟨before, after, split, inside⟩
  rw [lineOf_eq, lineOf_eq, FeedBetween]
  rcases Nat.le_total first second with ordered | ordered
  · rw [Nat.min_eq_left ordered, Nat.max_eq_right ordered, ← between, counted ordered]
    omega
  · rw [Nat.min_eq_right ordered, Nat.max_eq_left ordered, ← between, counted ordered]
    omega

/-- Moving an offset back to the end of the text keeps its line. -/
theorem lineOf_min_size (text : List Char) (offset : Nat) :
    (ofChars text).lineOf (min offset (ofChars text).size) = (ofChars text).lineOf offset := by
  rw [lineOf_eq_iff]
  rintro ⟨before, after, split, above, below⟩
  have size : (ofChars text).size = byteLength text := rfl
  have positive : 0 < '\n'.utf8Size := '\n'.utf8Size_pos
  rw [size, split, byteLength_append, byteLength_cons] at above below
  omega

theorem line_lineColumn (text : List Char) (offset : Nat) :
    ((ofChars text).lineColumn offset).line = (ofChars text).lineOf offset := by
  rw [lineColumn]
  split
  · exact lineOf_min_size text offset
  · exact lineOf_min_size text offset

end LineIndex

end Text

/-! ## Comments and findings -/

namespace Suppression

/-- A text goes on to the end of its line: to the line feed that ends it, with the carriage return in front
of that left out, or to the end of the source. -/
def EndsLine (text after : List Char) : Prop :=
  '\n' ∉ text ∧ (after = text ∨ (∃ rest, after = text ++ '\n' :: rest ∧ text.getLast? ≠ some '\r') ∨
    ∃ rest, after = text ++ '\r' :: '\n' :: rest)

/-- A comment stands in the source behind its `#`, on the line with its number, and goes on to the end of that
line. -/
theorem exists_of_mem_scanComments {source : List Char} {comment : Comment}
    (member : comment ∈ (scanComments source).2) :
    ∃ before after, source = before ++ '#' :: after ∧
      (Text.LineIndex.ofChars source).lineOf (Text.byteLength before) = comment.line ∧
      EndsLine comment.text after := by
  obtain ⟨earlier, line, later, split, numbered, front, rfl⟩ := exists_of_mem_scanLines 1 none member
  obtain ⟨before, after, rfl, counted, whole, ends⟩ := exists_of_mem_splitLines split
  refine ⟨before ++ front, comment.text ++ after, by simp, ?_, ?_, ?_⟩
  · have noFeed : front.count '\n' = 0 :=
      List.count_eq_zero.mpr fun inside => whole (List.mem_append_left _ inside)
    have place : before ++ (front ++ '#' :: comment.text) ++ after =
        (before ++ front) ++ ('#' :: comment.text ++ after) := by simp
    rw [place, Text.LineIndex.lineOf_byteLength, List.count_append, counted, noFeed, numbered]
    omega
  · intro inside
    exact whole (List.mem_append_right _ (List.mem_cons_of_mem _ inside))
  · rcases ends with rfl | ⟨rest, rfl, notReturn⟩ | ⟨rest, rfl⟩
    · left
      exact List.append_nil _
    · right
      left
      refine ⟨rest, rfl, fun isReturn => notReturn ?_⟩
      rw [List.getLast?_append, List.getLast?_cons, isReturn]
      rfl
    · right
      right
      exact ⟨rest, rfl⟩

theorem mem_exemptions_of_disableLine {registry : Registry} {source : List Char} {comment : Comment}
    (member : comment ∈ (scanComments source).2) {selectors : List Selector}
    (read : (readComment registry comment.text).1 = some ⟨.disableLine, selectors⟩) {selector : Selector}
    (listed : selector ∈ selectors) (statements : List (Nat × Nat)) :
    ⟨selector, comment.line, comment.line, comment.line⟩ ∈
      (Suppressions.scan registry statements source).exemptions := by
  rw [Suppressions.exemptions_scan]
  let placed : PlacedDirective := ⟨comment, ⟨.disableLine, selectors⟩⟩
  have isPlaced : placed ∈ placedDirectives registry (scanComments source).2 :=
    mem_placedDirectives.mpr ⟨member, read⟩
  exact List.mem_flatMap.mpr ⟨placed, isPlaced, List.mem_map.mpr ⟨selector, listed, rfl⟩⟩

end Suppression

namespace Dispatch

theorem mem_visitsOf_of_mem {body : List Python.Stmt} {statement : Python.Stmt} (member : statement ∈ body) :
    (.stmt statement, .top) ∈ visitsOf body := by
  refine List.mem_flatMap.mpr ⟨statement, member, ?_⟩
  rw [visits]
  exact List.mem_cons_self

/-- A rule that is routed to a node of a module finds something at the extent of that node. -/
def FindsAt (routing : Routing) (source : SourceContext) (body : List Python.Stmt) (node : Node)
    (finding : Finding) : Prop :=
  ∃ position, (node, position) ∈ visitsOf body ∧ ∃ route ∈ routing.routes node.kind, ∃ found,
    (evaluate source node position route).outcome = .findings found ∧ finding ∈ found ∧
    ∃ ruleId severity message,
      finding = RuleContext.findingAt ⟨source, position, route.parameters⟩ ruleId severity node.extent message

section FindsAt

variable {routing : Routing} {source : SourceContext} {body : List Python.Stmt} {node : Node} {finding : Finding}

theorem FindsAt.mem_findings (finds : FindsAt routing source body node finding) {token : CancelToken}
    {output : WalkOutput} (completed : (run routing source body token).1 = some output) :
    finding ∈ output.findings := by
  obtain ⟨position, visited, route, routed, found, outcome, listed, -⟩ := finds
  rcases run_cases routing source body token with ⟨after, walked⟩ | ⟨after, walked, -⟩
  · rw [walked] at completed
    cases completed
    exact (mem_findings_outputOf routing source).mpr ⟨(node, position), visited, route, routed, found, outcome, listed⟩
  · rw [walked] at completed
    cases completed

theorem FindsAt.span_eq (finds : FindsAt routing source body node finding) :
    finding.span = Span.ofExtent source.lines node.extent := by
  obtain ⟨position, -, route, -, found, -, -, ruleId, severity, message, rfl⟩ := finds
  rfl

end FindsAt

end Dispatch

open Suppression in
/-- A comment stands behind a `#` on the line that an offset look-up gives for that `#`, and goes on to the
end of that line. So if it disables its line for a selector, that covers what a walk finds at a node if and
only if the selector is about the rule and there is no line feed between the `#` and the start of the node. -/
theorem line_numbers_agree {source : List Char} {comment : Comment}
    (member : comment ∈ (scanComments source).2) :
    ∃ before after, source = before ++ '#' :: after ∧
      (Text.LineIndex.ofChars source).lineOf (Text.byteLength before) = comment.line ∧
      EndsLine comment.text after ∧
      ∀ (registry : Registry) (statements : List (Nat × Nat)) (selectors : List Selector),
        (readComment registry comment.text).1 = some ⟨.disableLine, selectors⟩ →
        ∀ selector ∈ selectors, ∃ exemption ∈ (Suppressions.scan registry statements source).exemptions,
          exemption.selector = selector ∧ exemption.line = comment.line ∧
          ∀ (routing : Routing) (path : String) (body : List Python.Stmt) (node : Node) (finding : Finding),
            Dispatch.FindsAt routing ⟨path, Text.LineIndex.ofChars source⟩ body node finding →
            (∀ token output, (Dispatch.run routing ⟨path, Text.LineIndex.ofChars source⟩ body token).1 = some output →
              finding ∈ output.findings) ∧
            (exemption.covers finding.ruleId finding.span.startLine = true ↔
              selector.isAbout finding.ruleId = true ∧
                ¬ Text.FeedBetween source (Text.byteLength before) node.extent.start) := by
  obtain ⟨before, after, split, numbered, ends⟩ := exists_of_mem_scanComments member
  refine ⟨before, after, split, numbered, ends, ?_⟩
  intro registry statements selectors read selector listed
  refine ⟨_, mem_exemptions_of_disableLine member read listed statements, rfl, rfl, ?_⟩
  intro routing path body node finding finds
  refine ⟨fun token output completed => finds.mem_findings completed, ?_⟩
  have startLine : finding.span.startLine = (Text.LineIndex.ofChars source).lineOf node.extent.start := by
    rw [finds.span_eq]
    exact Text.LineIndex.line_lineColumn source node.extent.start
  rw [Exemption.covers_ofLine, startLine, ← numbered, Text.LineIndex.lineOf_eq_iff]

section Instance

/-- A rule that finds every `pass`. -/
def passFinder : Rule :=
  ⟨"pass-finder", "Finds pass", .warning, true, [.pass], [], fun node context =>
    .found [context.findingAt "pass-finder" .warning node.extent "pass"]⟩

theorem findsAt_passFinder {body : List Python.Stmt} {extent : Python.Extent}
    (member : .pass extent ∈ body) (source : SourceContext) :
    Dispatch.FindsAt ⟨[⟨passFinder, []⟩]⟩ source body (.stmt (.pass extent))
      ⟨"pass-finder", Span.ofExtent source.lines extent, "pass", .warning⟩ :=
  ⟨.top, Dispatch.mem_visitsOf_of_mem member, ⟨passFinder, []⟩, List.mem_singleton_self _, _, rfl,
    List.mem_singleton_self _, _, _, _, rfl⟩

end Instance

open Suppression in
/-- Two statements with carriage returns in front of their line feeds, and a comment behind the first. -/
theorem line_numbers_agree_return :
    let source := "pass  # é pragma: no skylos\r\npass\r\n".toList
    let context : SourceContext := ⟨"a.py", .ofChars source⟩
    let body : List Python.Stmt := [.pass ⟨0, 4⟩, .pass ⟨30, 34⟩]
    ∃ exemption ∈ (Suppressions.scan .builtin [] source).exemptions, ∃ first second,
      Dispatch.FindsAt ⟨[⟨passFinder, []⟩]⟩ context body (.stmt (.pass ⟨0, 4⟩)) first ∧
      Dispatch.FindsAt ⟨[⟨passFinder, []⟩]⟩ context body (.stmt (.pass ⟨30, 34⟩)) second ∧
      exemption.covers first.ruleId first.span.startLine = true ∧
      ¬ exemption.covers second.ruleId second.span.startLine = true := by
  intro source context body
  let comment : Comment := ⟨1, " é pragma: no skylos".toList, true⟩
  have member : comment ∈ (scanComments source).2 := by decide +kernel
  obtain ⟨before, after, -, numbered, -, covers⟩ := line_numbers_agree member
  have read : (readComment .builtin comment.text).1 = some ⟨.disableLine, [.all]⟩ := by decide +kernel
  obtain ⟨exemption, exempted, -, -, covered⟩ := covers .builtin [] [.all] read .all List.mem_cons_self
  obtain ⟨sameLine, otherLine⟩ : (Text.LineIndex.ofChars source).lineOf 0 = 1 ∧
      (Text.LineIndex.ofChars source).lineOf 30 = 2 := by decide +kernel
  have first := @findsAt_passFinder body ⟨0, 4⟩ List.mem_cons_self context
  have second := @findsAt_passFinder body ⟨30, 34⟩ (List.mem_cons_of_mem _ List.mem_cons_self) context
  refine ⟨exemption, exempted, _, _, first, second, ?_, ?_⟩
  · exact (covered _ _ _ _ _ first).2.mpr
      ⟨rfl, (Text.LineIndex.lineOf_eq_iff source _ 0).mp (numbered.trans sameLine.symm)⟩
  · intro isCovered
    have same := (Text.LineIndex.lineOf_eq_iff source _ 30).mpr ((covered _ _ _ _ _ second).2.mp isCovered).2
    rw [numbered, otherLine] at same
    cases same

end Lintel
