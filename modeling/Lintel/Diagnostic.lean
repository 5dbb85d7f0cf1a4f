import Lintel.Json.Value
import Lintel.Path
import Lintel.Python.Ast
import Lintel.Severity
import Lintel.Text.LineIndex

/-!
# Findings and diagnostics

A finding is what a rule says about a place in a source; a diagnostic is what is reported about a file.
Diagnostics are kept in one order, and of those that differ in severity only the most severe stays.
-/

set_option autoImplicit false

namespace Lintel

/-- The id of diagnostics about rules that fail. -/
def ruleFailureId : String := "rule-failure"

/-- The id of diagnostics about directives that cannot be obeyed. -/
def invalidSuppressionId : String := "invalid-suppression"

/-- A stretch of source text; lines and columns start at one. -/
structure Span where
  startLine : Nat
  startColumn : Nat
  endLine : Nat
  endColumn : Nat
deriving Repr, DecidableEq

namespace Span

/-- The span that stands for a whole line. -/
def ofLine (line : Nat) : Span := ⟨line, 1, line, 1⟩

/-- The span between two byte offsets. -/
def between (index : Text.LineIndex) (start stop : Nat) : Span :=
  let first := index.lineColumn start
  let last := index.lineColumn stop
  ⟨first.line, first.column, last.line, last.column⟩

/-- The span of a node's extent. -/
def ofExtent (index : Text.LineIndex) (extent : Python.Extent) : Span :=
  between index extent.start extent.stop

/-- By start, then by end. -/
def order (first second : Span) : Ordering :=
  (compare first.startLine second.startLine).then <|
    (compare first.startColumn second.startColumn).then <|
      (compare first.endLine second.endLine).then <|
        compare first.endColumn second.endColumn

end Span

/-- What a rule says, before configuration and directives apply. -/
structure Finding where
  ruleId : String
  span : Span
  message : String
  severity : Severity
deriving Repr, DecidableEq

/-- What is reported about a file. -/
structure Diagnostic where
  ruleId : String
  file : String
  span : Span
  message : String
  severity : Severity
deriving Repr, DecidableEq

/-- Compares texts by code points. -/
def orderText (first second : String) : Ordering :=
  if first = second then .eq else if Table.keyPrecedes first second then .lt else .gt

namespace Diagnostic

/-- By file, rule, span and message: everything but the severity. -/
def orderIdentity (first second : Diagnostic) : Ordering :=
  (Path.order first.file second.file).then <|
    (orderText first.ruleId second.ruleId).then <|
      (first.span.order second.span).then <|
        orderText first.message second.message

/-- By identity, then by severity. -/
def order (first second : Diagnostic) : Ordering :=
  (first.orderIdentity second).then (compare first.severity.rank second.severity.rank)

/-- Whether two diagnostics say the same of the same place. -/
def sameIdentity (first second : Diagnostic) : Bool :=
  first.ruleId = second.ruleId && Path.same first.file second.file && first.span = second.span
    && first.message = second.message

/-- The diagnostic as a JSON object. -/
def toJson (diagnostic : Diagnostic) : Json.Value :=
  .object [("rule_id", .string diagnostic.ruleId), ("file", .string diagnostic.file),
    ("span", .object [("start_line", .ofNat diagnostic.span.startLine),
      ("start_column", .ofNat diagnostic.span.startColumn),
      ("end_line", .ofNat diagnostic.span.endLine),
      ("end_column", .ofNat diagnostic.span.endColumn)]),
    ("message", .string diagnostic.message), ("severity", .string diagnostic.severity.name)]

/-- Keeps the last of each run of diagnostics with the same identity. -/
def keepLast : List Diagnostic → List Diagnostic
  | [] => []
  | [single] => [single]
  | first :: second :: rest =>
    if first.sameIdentity second then keepLast (second :: rest)
    else first :: keepLast (second :: rest)

/-- Sorts diagnostics and keeps one of each identity: the most severe, and of those the last. -/
def normalize (diagnostics : List Diagnostic) : List Diagnostic :=
  keepLast (diagnostics.mergeSort fun first second => first.order second != .gt)

/-- All diagnostics of a run in their final order. -/
def aggregate (units : List (List Diagnostic)) : List Diagnostic :=
  normalize units.flatten

end Diagnostic

end Lintel
