import Lintel.Suppression.Comment
import Lintel.Suppression.Directive

/-!
# Suppression

The directives of a source, resolved to stretches of lines on which findings do not count. A `disable`
opens a region that ends with an `enable` for the same rules, before the next line of code that is
indented less, or with the source. An `enable` for one rule does not close a region for all rules.
-/

set_option autoImplicit false

namespace Lintel

namespace Suppression

/-- Findings of some rules do not count on a stretch of lines. -/
structure Exemption where
  selector : Selector
  startLine : Nat
  endLine : Nat
  /-- The line of the directive. -/
  line : Nat
deriving Repr, DecidableEq

/-- Whether an exemption covers a finding of a rule that starts on a line. -/
def Exemption.covers (exemption : Exemption) (ruleId : String) (line : Nat) : Bool :=
  exemption.selector.isAbout ruleId && (exemption.startLine ≤ line && line ≤ exemption.endLine)

/-- An exemption, and whether it is a region that an `enable` can still close. -/
structure Tracked where
  exemption : Exemption
  isOpen : Bool
deriving Repr, DecidableEq

/-- Whether an `enable` of a selector on a line closes a region. -/
def Tracked.isClosedBy (tracked : Tracked) (selector : Selector) (line : Nat) : Bool :=
  tracked.isOpen && (selector = .all || tracked.exemption.selector = selector)
    && line ≤ tracked.exemption.endLine

/-- Closes a region on a line, if the selector allows it. -/
def Tracked.close (selector : Selector) (line : Nat) (tracked : Tracked) : Tracked :=
  if tracked.isClosedBy selector line then
    ⟨{ tracked.exemption with endLine := line }, false⟩
  else tracked

/-- What the directives read so far amount to. -/
structure Progress where
  tracked : List Tracked
  faults : List (Nat × Fault)

/-- The first line behind a line with some property. -/
def firstLineAfter (layouts : List LineLayout) (line : Nat) (wanted : LineLayout → Bool) : Option Nat :=
  ((layouts.drop line).findIdx? wanted).map fun skipped => line + skipped + 1

/-- The line that a directive about what follows is about: the next line of code, or the next line. -/
def nextCodeLine (layouts : List LineLayout) (line : Nat) : Nat :=
  (firstLineAfter layouts line LineLayout.hasCode).getD (line + 1)

/-- Where a region that starts on a line ends by itself. -/
def naturalEnd (layouts : List LineLayout) (line : Nat) : Nat :=
  let indent := ((layouts[line - 1]?).map LineLayout.indent).getD 0
  match firstLineAfter layouts line fun layout =>
      layout.hasCode && !layout.inLiteral && layout.indent < indent with
  | some next => next - 1
  | none => max layouts.length 1

/-- The last line of the statements that start on a line. -/
def statementEnd (statements : List (Nat × Nat)) (line : Nat) : Nat :=
  ((statements.filter fun lines => lines.1 = line).map Prod.snd).foldl max line

/-- Adds an exemption for each selector. -/
def Progress.add (progress : Progress) (selectors : List Selector) (startLine endLine line : Nat)
    (isOpen : Bool) : Progress :=
  { progress with
    tracked := progress.tracked ++
      selectors.map fun selector => ⟨⟨selector, startLine, endLine, line⟩, isOpen⟩ }

/-- Obeys one selector of an `enable`. -/
def Progress.closeRegions (line : Nat) (progress : Progress) (selector : Selector) : Progress where
  tracked := progress.tracked.map (Tracked.close selector line)
  faults :=
    if progress.tracked.any fun tracked => tracked.isClosedBy selector line then progress.faults
    else progress.faults ++ [(line, .unmatchedEnable selector.name)]

/-- Obeys a directive. -/
def Progress.obey (layouts : List LineLayout) (statements : List (Nat × Nat)) (progress : Progress)
    (comment : Comment) (directive : Directive) : Progress :=
  let line := comment.line
  match directive.action with
  | .disableLine => progress.add directive.selectors line line line false
  | .disableNextLine =>
    let target := nextCodeLine layouts line
    progress.add directive.selectors target target line false
  | .disableStatement =>
    let target := if comment.trailing then line else nextCodeLine layouts line
    progress.add directive.selectors target (statementEnd statements target) line false
  | .disable => progress.add directive.selectors line (naturalEnd layouts line) line true
  | .enable => directive.selectors.foldl (Progress.closeRegions line) progress

/-- Reads and obeys one comment. -/
def Progress.take (registry : Registry) (layouts : List LineLayout) (statements : List (Nat × Nat))
    (progress : Progress) (comment : Comment) : Progress :=
  let (directive, faults) := readComment registry comment.text
  let progress :=
    { progress with faults := progress.faults ++ faults.map fun fault => (comment.line, fault) }
  match directive with
  | some directive => progress.obey layouts statements comment directive
  | none => progress

/-- The word without which a source has no directives. -/
def keyword : List Char := "skylos".toList

end Suppression

/-- The exemptions of a source, and the faults of its directives with their lines. -/
structure Suppressions where
  exemptions : List Suppression.Exemption
  faults : List (Nat × Suppression.Fault)
deriving Repr, DecidableEq

namespace Suppressions

open Suppression

/-- The suppressions of a source whose statements have the given first and last lines. -/
def scan (registry : Registry) (statements : List (Nat × Nat)) (source : List Char) : Suppressions :=
  if !Text.contains keyword source then ⟨[], []⟩
  else
    let (layouts, comments) := scanComments source
    let progress := comments.foldl (Progress.take registry layouts statements) ⟨[], []⟩
    ⟨progress.tracked.map Tracked.exemption, progress.faults⟩

def isEmpty (suppressions : Suppressions) : Bool :=
  suppressions.exemptions.isEmpty && suppressions.faults.isEmpty

/-- Whether a finding of a rule that starts on a line does not count. What is wrong with directives
always counts. -/
def isSuppressed (suppressions : Suppressions) (ruleId : String) (line : Nat) : Bool :=
  ruleId ≠ invalidSuppressionId
    && suppressions.exemptions.any fun exemption => exemption.covers ruleId line

/-- The diagnostics that count. -/
def keep (suppressions : Suppressions) (diagnostics : List Diagnostic) : List Diagnostic :=
  diagnostics.filter fun diagnostic =>
    !suppressions.isSuppressed diagnostic.ruleId diagnostic.span.startLine

/-- What is wrong with the directives of a file. -/
def faultDiagnostics (suppressions : Suppressions) (file : String) : List Diagnostic :=
  suppressions.faults.map fun (line, fault) =>
    ⟨invalidSuppressionId, file, Span.ofLine line, fault.message, .information⟩

end Suppressions

end Lintel
