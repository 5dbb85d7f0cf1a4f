import Lintel.Gate

/-!
# Reports

What a run tells its caller, and its JSON form.
-/

set_option autoImplicit false

namespace Lintel

/-- How many sources went which way. -/
structure RunStats where
  discovered : Nat := 0
  analyzed : Nat := 0
  excluded : Nat := 0
  cached : Nat := 0
  dispatched : Nat := 0
  loadFailed : Nat := 0
  abandoned : Nat := 0
deriving Repr, DecidableEq

def RunStats.toJson (stats : RunStats) : Json.Value :=
  .object [("discovered", .ofNat stats.discovered), ("analyzed", .ofNat stats.analyzed),
    ("excluded", .ofNat stats.excluded), ("cached", .ofNat stats.cached),
    ("dispatched", .ofNat stats.dispatched), ("load_failed", .ofNat stats.loadFailed),
    ("abandoned", .ofNat stats.abandoned)]

/-- The report of a run. -/
structure RunReport where
  diagnostics : List Diagnostic
  gate : GateReport
  stats : RunStats
  /-- Problems that did not stop the run. -/
  warnings : List String
  completed : Bool
deriving Repr, DecidableEq

def RunReport.toJson (report : RunReport) : Json.Value :=
  .object [("diagnostics", .array (report.diagnostics.map Diagnostic.toJson)),
    ("gate", report.gate.toJson), ("stats", report.stats.toJson),
    ("warnings", .array (report.warnings.map .string)), ("completed", .bool report.completed)]

end Lintel
