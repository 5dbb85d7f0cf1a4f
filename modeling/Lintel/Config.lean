import Lintel.Config.Error
import Lintel.Profile
import Lintel.Registry

/-!
# Effective configuration

A profile and the options of one invocation, brought together with the rules of a registry. Resolution
goes through the profile in a fixed order and stops at the first defect: rule sections by id, excluded
rules, thresholds, excluded paths, then per-file ignores by pattern.

The fingerprint of a configuration is the digest of a JSON text that shows everything that can change
the result for one source, and nothing else.
-/

set_option autoImplicit false

namespace Lintel

/-- Settings of one invocation. They win over the profile. -/
structure Options where
  exclude : List String := []
  reportThreshold : Option Severity := none
  failThreshold : Option Severity := none
deriving Repr, DecidableEq

/-- The state of one rule in a run. -/
structure RuleSettings where
  enabled : Bool
  severity : Severity
  parameters : ParameterValues
deriving Repr

/-- Rules that are off for the paths a glob matches. -/
structure PathIgnore where
  glob : Glob
  rules : List String
deriving Repr

/-- The configuration of one run. -/
structure Config where
  rules : Table RuleSettings
  exclude : List Glob
  perFileIgnores : List PathIgnore
  reportThreshold : Severity
  failThreshold : Severity
deriving Repr

/-- Reads a level that a profile names. -/
def readLevel (text context : String) : Except ConfigError Severity :=
  match Severity.parse? text with
  | some level => .ok level
  | none => .error (.invalidSeverity text context)

/-- Refuses an id that no rule has. -/
def Registry.check (registry : Registry) (id context : String) : Except ConfigError Unit :=
  if registry.contains id then .ok () else .error (.unknownRule id context)

/-- Reads a glob of the configuration. -/
def readGlob (pattern : String) : Except ConfigError Glob :=
  match Glob.parse pattern with
  | .ok glob => .ok glob
  | .error fault => .error (.invalidGlob pattern fault)

namespace RuleSettings

/-- The settings of a rule that no profile mentions. -/
def initial (includeDefaultRules : Bool) (rule : Rule) : RuleSettings where
  enabled := includeDefaultRules && rule.onByDefault
  severity := rule.severity
  parameters := Table.ofList (rule.parameters.map fun spec => (spec.name, .ofNat spec.initial))

/-- Sets one parameter, if the rule declares it and the value is of its kind. -/
def setParameter (rule : Rule) (settings : RuleSettings) (entry : String × Json.Value) :
    Except ConfigError RuleSettings :=
  match rule.parameters.find? fun spec => spec.name = entry.1 with
  | none => .error (.unknownParameter rule.id entry.1)
  | some spec =>
    if spec.kind.accepts entry.2 then
      .ok { settings with parameters := Table.insert entry.1 entry.2 settings.parameters }
    else .error (.invalidParameter rule.id entry.1 spec.kind.describe)

/-- Applies the section of a profile to a rule: its switch, its severity, then its parameters by name. -/
def override (rule : Rule) (settings : RuleSettings) (entry : RuleOverride) :
    Except ConfigError RuleSettings := do
  let severity ← match entry.severity with
    | none => .ok settings.severity
    | some text => readLevel text s!"rules.{rule.id}.severity"
  entry.parameters.foldlM (setParameter rule)
    { settings with enabled := entry.enable.getD settings.enabled, severity }

end RuleSettings

namespace Config

/-- The settings of every rule of a registry before the sections of a profile apply. -/
def initialRules (registry : Registry) (profile : Profile) : Table RuleSettings :=
  registry.rules.map fun rule => (rule.id, RuleSettings.initial profile.includeDefaultRules rule)

/-- Applies one rule section. -/
def applySection (registry : Registry) (rules : Table RuleSettings)
    (entry : String × RuleOverride) : Except ConfigError (Table RuleSettings) := do
  registry.check entry.1 "rules"
  match registry.get? entry.1, Table.find? entry.1 rules with
  | some rule, some settings =>
    let settings ← settings.override rule entry.2
    .ok (Table.insert entry.1 settings rules)
  | _, _ => .ok rules

/-- Switches one excluded rule off. -/
def applyExclusion (registry : Registry) (rules : Table RuleSettings) (id : String) :
    Except ConfigError (Table RuleSettings) := do
  registry.check id "excludeRules"
  match Table.find? id rules with
  | some settings => .ok (Table.insert id { settings with enabled := false } rules)
  | none => .ok rules

/-- The threshold that counts: the one given on invocation, else that of the profile, else a default. -/
def threshold (given : Option Severity) (written : Option String) (context : String)
    (default : Severity) : Except ConfigError Severity :=
  match given, written with
  | some level, _ => .ok level
  | none, some text => readLevel text context
  | none, none => .ok default

/-- Resolves the per-file ignores of one pattern: first its ids, then the pattern itself. -/
def readIgnore (registry : Registry) (entry : String × List String) :
    Except ConfigError PathIgnore := do
  entry.2.forM fun id => registry.check id s!"perFileIgnores.{entry.1}"
  let glob ← readGlob entry.1
  .ok ⟨glob, entry.2⟩

/-- Brings a profile and options together with the rules of a registry. -/
def resolve (registry : Registry) (profile : Profile) (options : Options) :
    Except ConfigError Config := do
  let rules ← profile.rules.foldlM (applySection registry) (initialRules registry profile)
  let rules ← profile.excludeRules.foldlM (applyExclusion registry) rules
  let reportThreshold ← threshold options.reportThreshold profile.severityReportThreshold
    "severityReportThreshold" .information
  let failThreshold ← threshold options.failThreshold profile.failThreshold "failThreshold" .error
  let exclude ← (profile.exclude ++ options.exclude).mapM readGlob
  let perFileIgnores ← profile.perFileIgnores.mapM (readIgnore registry)
  .ok { rules, exclude, perFileIgnores, reportThreshold, failThreshold }

def isEnabled (config : Config) (id : String) : Bool :=
  match Table.find? id config.rules with
  | some settings => settings.enabled
  | none => false

/-- The ids of the rules that are on, ascending. -/
def enabledRules (config : Config) : List String :=
  (config.rules.filter fun (_, settings) => settings.enabled).map Prod.fst

/-- Whether nothing is analyzed at a path. -/
def isExcluded (config : Config) (path : String) : Bool :=
  config.exclude.any fun glob => glob.isMatchInSet path

/-- The ids of the rules that are off at a path, ascending. -/
def ignoredRules (config : Config) (path : String) : List String :=
  Table.sortedSet <|
    (config.perFileIgnores.filter fun ignore => ignore.glob.isMatch path).flatMap PathIgnore.rules

/-- Whether a level is reported. -/
def reports (config : Config) (level : Severity) : Bool :=
  config.reportThreshold ≤ level

/-- The settings of a rule as JSON. -/
def settingsJson (settings : RuleSettings) : Json.Value :=
  .object [("enabled", .bool settings.enabled), ("severity", .string settings.severity.name),
    ("parameters", .object settings.parameters)]

/-- Everything that can change the result for one source. -/
def view (config : Config) : Json.Value :=
  .object [("rules", .object (config.rules.map fun (id, settings) => (id, settingsJson settings))),
    ("exclude", .array (config.exclude.map fun glob => .string glob.pattern)),
    ("per_file_ignores", .array (config.perFileIgnores.map fun ignore =>
      .array [.string ignore.glob.pattern, .array (ignore.rules.map .string)])),
    ("report_threshold", .string config.reportThreshold.name)]

/-- The digest of everything that can change the result for one source. -/
def fingerprint (config : Config) : String :=
  Digest.sha256OfString config.view.compactText

end Config

end Lintel
