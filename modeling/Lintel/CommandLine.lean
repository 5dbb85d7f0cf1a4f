import Lintel.Analyzer
import Lintel.CommandLine.Arguments
import Lintel.Profile.File
import Lintel.Report.Text

/-!
# The command line

What the program does with its arguments: it finds a profile, resolves the configuration, and lists the
rules or analyzes the target and reports. Everything it reads and writes is the file tree it is given.
-/

set_option autoImplicit false

namespace Lintel.CommandLine

/-- What a run of the program is given besides its arguments. -/
structure Environment where
  coloured : Bool
  processId : Nat
  /-- What cancels the run from outside. -/
  token : CancelToken := .fresh
  tree : FileTree
  /-- What keeps a number of workers from being started. -/
  workerFault : Nat → Option String := fun _ => none
  /-- What keeps a report from being written as JSON: a path in it that is no text. The names in the tree are text,
  so there is nothing wrong with a report unless the environment says so. -/
  reportFault : RunReport → Option String := fun _ => none

/-- The exit code of everything that goes wrong outside of the gate. -/
def errorExitCode : Nat := 2

/-- The message of an error, followed by that of the error behind it. -/
def chain (message : String) (cause : Option String) : String :=
  match cause with
  | some cause => s!"{message}: {cause}"
  | none => message

/-- What ends a run without a decision of the gate. -/
inductive Failure where
  | usage (cause : UsageError)
  | config (cause : ConfigError)
  | analyzer (cause : AnalyzerError)
  | report (complaint : String)
deriving Repr, DecidableEq

def Failure.message : Failure → String
  | usage cause => cause.message
  | config cause => chain cause.message cause.causeMessage?
  | analyzer cause => chain cause.message (some cause.causeMessage)
  | report complaint => complaint

/-- What a run of the program does. -/
structure Outcome where
  /-- The exit code, unless the run fails. -/
  result : Except Failure Nat
  output : String
  tree : FileTree

namespace Outcome

def exitCode (outcome : Outcome) : Nat :=
  match outcome.result with
  | .ok code => code
  | .error _ => errorExitCode

/-- The complaint about the arguments, or the error that ended the run. -/
def error (outcome : Outcome) : Option String :=
  match outcome.result with
  | .ok _ => none
  | .error failure => some failure.message

end Outcome

/-- The name of the directory for the cache next to the sources. -/
def defaultCacheDirectory : String := ".skylos_cache"

/-- The directory of a target: the target itself, or the one that holds it. -/
def targetDirectory (tree : FileTree) (path : String) : String :=
  if tree.isDirectory path then path
  else match Path.parent? path with
    | some above => if above.isEmpty then "." else above
    | none => "."

/-- The profile that an invocation names, or the one that is found from the target upward. -/
def loadProfile (tree : FileTree) (invocation : Invocation) : Except ConfigError (Option Profile) :=
  match invocation.config with
  | some path => do .ok (some (← Profile.ofFile tree path))
  | none => do
    let found ← Profile.find tree (targetDirectory tree invocation.path)
    .ok (found.map Prod.snd)

/-- The configuration of an invocation. -/
def resolveConfig (tree : FileTree) (registry : Registry) (invocation : Invocation) :
    Except ConfigError Config := do
  let profile ← loadProfile tree invocation
  Config.resolve registry (profile.getD {})
    ⟨invocation.exclude, invocation.severity, invocation.failOn⟩

/-- The directory for the cache. -/
def cacheDirectory (tree : FileTree) (invocation : Invocation) : String :=
  invocation.cacheDir.getD (Path.join (targetDirectory tree invocation.path) defaultCacheDirectory)

/-- Empties the cache if asked to, and opens it unless asked not to. -/
def openCache (tree : FileTree) (invocation : Invocation) (processId : Nat) : Cache × FileTree :=
  let directory := cacheDirectory tree invocation
  let tree := if invocation.clearCache then (DiskCache.clear tree directory).2 else tree
  if invocation.noCache then (Cache.disabled, tree) else Cache.disk tree directory processId

/-- The report of a run in the format that was asked for. -/
def render (environment : Environment) (format : Format) (report : RunReport) : Except Failure String :=
  match format with
  | .text => .ok (report.text environment.coloured)
  | .json =>
    match environment.reportFault report with
    | some complaint => .error (.report complaint)
    | none => .ok (report.toJson.indentedText ++ "\n")

/-- Analyzes the target of an invocation. -/
def analyze (environment : Environment) (registry : Registry) (config : Config)
    (invocation : Invocation) : Outcome :=
  let (cache, tree) := openCache environment.tree invocation environment.processId
  let heading := match invocation.format with
    | .text => s!"Analyzing path: {invocation.path}\n"
    | .json => ""
  match Analyzer.runTarget ⟨registry, config⟩ invocation.path ⟨cache, environment.token, tree⟩
      (environment.workerFault invocation.jobs) with
  | .error cause => ⟨.error (.analyzer cause), heading, tree⟩
  | .ok (report, state) =>
    match render environment invocation.format report with
    | .error failure => ⟨.error failure, heading, state.tree⟩
    | .ok text => ⟨.ok report.gate.outcome.exitCode, heading ++ text, state.tree⟩

/-- Does what an invocation asks for. -/
def execute (environment : Environment) (registry : Registry) (invocation : Invocation) : Outcome :=
  match resolveConfig environment.tree registry invocation with
  | .error cause => ⟨.error (.config cause), "", environment.tree⟩
  | .ok config =>
    if invocation.listRules then
      ⟨.ok 0, config.rulesText environment.coloured registry, environment.tree⟩
    else analyze environment registry config invocation

/-- The name of the program. -/
def programName : String := "skylos-lint"

/-- A short account of the options. -/
def helpText : String :=
  "Rule-based static analysis and CI gating for Python source trees\n\n"
    ++ s!"Usage: {programName} [OPTIONS] <PATH>\n\nOptions:\n"
    ++ String.join (Argument.options.map fun (argument, _) => s!"  {argument.describe}\n")

/-- Runs the program on its arguments. -/
def main (environment : Environment) (arguments : List String) : Outcome :=
  match parse arguments with
  | .error cause => ⟨.error (.usage cause), "", environment.tree⟩
  | .ok .help => ⟨.ok 0, helpText, environment.tree⟩
  | .ok .version => ⟨.ok 0, s!"{programName} {Registry.programVersion}\n", environment.tree⟩
  | .ok (.run invocation) => execute environment .builtin invocation

end Lintel.CommandLine
