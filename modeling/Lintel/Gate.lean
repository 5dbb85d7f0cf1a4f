import Lintel.Diagnostic

/-!
# The gate

Reduces the diagnostics of a run to one decision. A run that was cancelled is incomplete, whatever it
found; otherwise it fails when a diagnostic reaches the threshold.
-/

set_option autoImplicit false

namespace Lintel

/-- The decision about a run. -/
inductive GateOutcome where
  | pass
  | fail
  | incomplete
deriving Repr, DecidableEq

namespace GateOutcome

def name : GateOutcome → String
  | pass => "PASS"
  | fail => "FAIL"
  | incomplete => "INCOMPLETE"

/-- The exit code that tells the decision to the caller of the program. -/
def exitCode : GateOutcome → Nat
  | pass => 0
  | fail => 1
  | incomplete => 3

end GateOutcome

/-- How many diagnostics there are of each level. -/
structure SeverityCounts where
  error : Nat
  warning : Nat
  information : Nat
deriving Repr, DecidableEq

namespace SeverityCounts

def ofDiagnostics (diagnostics : List Diagnostic) : SeverityCounts where
  error := diagnostics.countP fun diagnostic => diagnostic.severity = .error
  warning := diagnostics.countP fun diagnostic => diagnostic.severity = .warning
  information := diagnostics.countP fun diagnostic => diagnostic.severity = .information

def get (counts : SeverityCounts) : Severity → Nat
  | .error => counts.error
  | .warning => counts.warning
  | .information => counts.information

/-- How many diagnostics reach a level. -/
def atOrAbove (counts : SeverityCounts) (level : Severity) : Nat :=
  (Severity.all.filter fun reached => level ≤ reached).foldl (fun sum reached => sum + counts.get reached) 0

def total (counts : SeverityCounts) : Nat :=
  counts.error + counts.warning + counts.information

def toJson (counts : SeverityCounts) : Json.Value :=
  .object [("error", .ofNat counts.error), ("warning", .ofNat counts.warning),
    ("information", .ofNat counts.information)]

end SeverityCounts

/-- The decision about a run, with what it rests on. -/
structure GateReport where
  outcome : GateOutcome
  failThreshold : Severity
  counts : SeverityCounts
deriving Repr, DecidableEq

namespace GateReport

/-- Decides about a run. -/
def evaluate (diagnostics : List Diagnostic) (failThreshold : Severity) (completed : Bool) :
    GateReport :=
  let counts := SeverityCounts.ofDiagnostics diagnostics
  let outcome : GateOutcome :=
    if !completed then .incomplete
    else if 0 < counts.atOrAbove failThreshold then .fail
    else .pass
  { outcome, failThreshold, counts }

def toJson (gate : GateReport) : Json.Value :=
  .object [("outcome", .string gate.outcome.name), ("fail_threshold", .string gate.failThreshold.name),
    ("counts", gate.counts.toJson)]

end GateReport

end Lintel
