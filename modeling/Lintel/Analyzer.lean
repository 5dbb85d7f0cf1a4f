import Lintel.Cache
import Lintel.Dispatch
import Lintel.Report
import Lintel.Source
import Lintel.Suppression

/-!
# The analyzer

Takes each source through one pipeline: exclusion, cache, walk, severities of the configuration,
suppression, report threshold, final order. A source whose walk is cut short by a cancellation leaves no
trace in the report or in the cache.
-/

set_option autoImplicit false

namespace Lintel

/-- The rules of a run and its configuration. -/
structure Analyzer where
  registry : Registry
  config : Config

/-- What a run works on besides its sources. -/
structure RunState where
  cache : Cache
  token : CancelToken
  tree : FileTree

/-- What happened to one source. -/
inductive UnitResult where
  | excluded
  | loadFailed (message : String)
  | abandoned
  | cached (diagnostics : List Diagnostic)
  | dispatched (diagnostics : List Diagnostic)
deriving Repr, DecidableEq

/-- Why there is no report. -/
inductive AnalyzerError where
  | workers (complaint : String)
  | target (path : String) (cause : FileError)
deriving Repr, DecidableEq

namespace AnalyzerError

def message : AnalyzerError → String
  | workers complaint => s!"failed to build worker pool: {complaint}"
  | target path cause => s!"cannot read target {path}: {cause.message}"

/-- The message of the error behind an error. -/
def causeMessage : AnalyzerError → String
  | workers complaint => complaint
  | target _ cause => cause.message

end AnalyzerError

namespace Analyzer

/-- The diagnostic for a finding: its severity is that of the configuration. -/
def diagnosticOf (config : Config) (path : String) (finding : Finding) : Diagnostic :=
  let settings := Table.find? finding.ruleId config.rules
  ⟨finding.ruleId, path, finding.span, finding.message,
    (settings.map RuleSettings.severity).getD finding.severity⟩

/-- The diagnostic for a rule that failed. -/
def failureDiagnostic (path : String) (failure : RuleFailure) : Diagnostic :=
  ⟨ruleFailureId, path, failure.span, s!"Rule '{failure.ruleId}' failed: {failure.reason}", .warning⟩

/-- What is reported about a source after its walk. -/
def conclude (analyzer : Analyzer) (source : Source) (output : WalkOutput) : List Diagnostic :=
  let suppressions := Suppressions.scan analyzer.registry output.statements source.text.toList
  let raw := output.findings.map (diagnosticOf analyzer.config source.path)
    ++ output.failures.map (failureDiagnostic source.path)
  let kept := suppressions.keep raw ++ suppressions.faultDiagnostics source.path
  Diagnostic.normalize (kept.filter fun diagnostic => analyzer.config.reports diagnostic.severity)

/-- The routes of a source: those of the configuration without the rules that are off at its path. -/
def routingFor (analyzer : Analyzer) (path : String) : Routing :=
  (Routing.ofConfig analyzer.registry analyzer.config).without (analyzer.config.ignoredRules path)

/-- What the result for a source is filed under. -/
def keyOf (analyzer : Analyzer) (source : Source) : CacheKey :=
  ⟨source.path, source.fingerprint, analyzer.config.fingerprint, analyzer.registry.version⟩

/-- Walks a source that the cache does not know. -/
def analyze (analyzer : Analyzer) (source : Source) (state : RunState) : UnitResult × RunState :=
  match source.parse with
  | .error cause => (.loadFailed cause.message, state)
  | .ok parsed =>
    match Dispatch.run (analyzer.routingFor source.path) ⟨source.path, parsed.lines⟩ parsed.body
        state.token with
    | (none, token) => (.abandoned, { state with token })
    | (some output, token) =>
      let diagnostics := analyzer.conclude source output
      let (cache, tree) := state.cache.put state.tree (analyzer.keyOf source) diagnostics
      (.dispatched diagnostics, { cache, token, tree })

/-- Takes one source through the pipeline. -/
def processUnit (analyzer : Analyzer) (input : SourceInput) (state : RunState) :
    UnitResult × RunState :=
  match state.token.look with
  | (true, token) => (.abandoned, { state with token })
  | (false, token) =>
    let state := { state with token }
    if analyzer.config.isExcluded input.path then (.excluded, state)
    else match input.load state.tree with
      | .error cause => (.loadFailed cause.message, state)
      | .ok source =>
        match state.cache.lookup state.tree (analyzer.keyOf source) with
        | (some diagnostics, cache) => (.cached diagnostics, { state with cache })
        | (none, cache) => analyzer.analyze source { state with cache }

/-- Takes sources through the pipeline, one after another. -/
def processAll (analyzer : Analyzer) : List SourceInput → RunState → List UnitResult × RunState
  | [], state => ([], state)
  | input :: inputs, state =>
    let (result, state) := analyzer.processUnit input state
    let (results, state) := analyzer.processAll inputs state
    (result :: results, state)

end Analyzer

namespace UnitResult

def isExcluded : UnitResult → Bool
  | excluded => true
  | _ => false

def isLoadFailed : UnitResult → Bool
  | loadFailed _ => true
  | _ => false

def isAbandoned : UnitResult → Bool
  | abandoned => true
  | _ => false

def isCached : UnitResult → Bool
  | cached _ => true
  | _ => false

def isDispatched : UnitResult → Bool
  | dispatched _ => true
  | _ => false

/-- The message of a source that could not be loaded. -/
def warning? : UnitResult → Option String
  | loadFailed message => some message
  | _ => none

/-- The result of a source that was analyzed. -/
def diagnostics? : UnitResult → Option (List Diagnostic)
  | cached diagnostics => some diagnostics
  | dispatched diagnostics => some diagnostics
  | _ => none

end UnitResult

namespace RunReport

/-- The report of a run whose sources fared as given. -/
def ofResults (failThreshold : Severity) (results : List UnitResult) (completed : Bool) : RunReport :=
  let units := results.filterMap UnitResult.diagnostics?
  let warnings := results.filterMap UnitResult.warning?
  let diagnostics := Diagnostic.aggregate units
  let stats : RunStats :=
    { discovered := results.length
      analyzed := units.length
      excluded := results.countP UnitResult.isExcluded
      cached := results.countP UnitResult.isCached
      dispatched := results.countP UnitResult.isDispatched
      loadFailed := results.countP UnitResult.isLoadFailed
      abandoned := results.countP UnitResult.isAbandoned }
  { diagnostics, gate := .evaluate diagnostics failThreshold completed, stats, warnings, completed }

end RunReport

namespace Analyzer

/-- Runs the analyzer over sources, with its workers at hand. The run is complete unless it is found cancelled at
its end. -/
def run (analyzer : Analyzer) (inputs : List SourceInput) (state : RunState) : RunReport × RunState :=
  let (results, state) := analyzer.processAll inputs state
  let (cancelled, token) := state.token.look
  (.ofResults analyzer.config.failThreshold results (!cancelled), { state with token })

/-- Runs the analyzer over the sources of a target, unless there is something wrong with the workers. -/
def runTarget (analyzer : Analyzer) (target : String) (state : RunState) (workerFault : Option String := none) :
    Except AnalyzerError (RunReport × RunState) :=
  match Discovery.discover state.tree target with
  | .error cause => .error (.target target cause)
  | .ok files =>
    match workerFault with
    | some complaint => .error (.workers complaint)
    | none => .ok (analyzer.run (files.map .file) state)

end Analyzer

end Lintel
