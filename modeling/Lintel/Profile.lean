import Lintel.Json.Reader

/-!
# Configuration profiles

A profile is what a user writes to configure a run: which rules are on, how severe they are, what is
reported and what fails. Every field may be left out. A profile has a JSON form of its own, in which
every field is present.
-/

set_option autoImplicit false

namespace Lintel

/-- What a profile says about one rule. -/
structure RuleOverride where
  enable : Option Bool := none
  severity : Option String := none
  parameters : Table Json.Value := []
deriving Repr

/-- A profile. -/
structure Profile where
  includeDefaultRules : Bool := true
  excludeRules : List String := []
  rules : Table RuleOverride := []
  severityReportThreshold : Option String := none
  failThreshold : Option String := none
  exclude : List String := []
  perFileIgnores : Table (List String) := []
deriving Repr

namespace RuleOverride

/-- A section of a profile while it is being read: a field is set once it has been seen. -/
structure Draft where
  enable : Option (Option Bool) := none
  severity : Option (Option String) := none
  parameters : Option (Table Json.Value) := none

/-- Fields that were not seen keep their default. -/
def Draft.finish (draft : Draft) : RuleOverride where
  enable := draft.enable.join
  severity := draft.severity.join
  parameters := draft.parameters.getD []

def fields : List (Json.Field Draft) :=
  [.of "enable" Draft.enable (fun draft value => { draft with enable := some value })
      (Json.readOptional Json.readBool),
   .of "severity" Draft.severity (fun draft value => { draft with severity := some value })
      (Json.readOptional Json.readString),
   .of "parameters" Draft.parameters (fun draft value => { draft with parameters := some value })
      (Json.readTable Json.readValue)]

/-- Reads a section from its JSON form. -/
def readJson : Json.Reader RuleOverride := fun depth input => do
  let (draft, rest) ← Json.readRecord "struct RuleOverride" fields {} depth input
  .ok (draft.finish, rest)

/-- A text or nothing as JSON. -/
def optionalText (text : Option String) : Json.Value :=
  (text.map Json.Value.string).getD .null

/-- The JSON form of a section. -/
def toJson (entry : RuleOverride) : Json.Value :=
  .object [("enable", (entry.enable.map Json.Value.bool).getD .null),
    ("severity", optionalText entry.severity), ("parameters", .object entry.parameters)]

end RuleOverride

namespace Profile

/-- A profile while it is being read: a field is set once it has been seen. -/
structure Draft where
  includeDefaultRules : Option Bool := none
  excludeRules : Option (List String) := none
  rules : Option (Table RuleOverride) := none
  severityReportThreshold : Option (Option String) := none
  failThreshold : Option (Option String) := none
  exclude : Option (List String) := none
  perFileIgnores : Option (Table (List String)) := none

/-- Fields that were not seen keep their default. -/
def Draft.finish (draft : Draft) : Profile where
  includeDefaultRules := draft.includeDefaultRules.getD true
  excludeRules := draft.excludeRules.getD []
  rules := draft.rules.getD []
  severityReportThreshold := draft.severityReportThreshold.join
  failThreshold := draft.failThreshold.join
  exclude := draft.exclude.getD []
  perFileIgnores := draft.perFileIgnores.getD []

def fields : List (Json.Field Draft) :=
  [.of "includeDefaultRules" Draft.includeDefaultRules
      (fun draft value => { draft with includeDefaultRules := some value }) Json.readBool,
   .of "excludeRules" Draft.excludeRules
      (fun draft value => { draft with excludeRules := some value })
      (Json.readArray Json.readString),
   .of "rules" Draft.rules (fun draft value => { draft with rules := some value })
      (Json.readTable RuleOverride.readJson),
   .of "severityReportThreshold" Draft.severityReportThreshold
      (fun draft value => { draft with severityReportThreshold := some value })
      (Json.readOptional Json.readString),
   .of "failThreshold" Draft.failThreshold
      (fun draft value => { draft with failThreshold := some value })
      (Json.readOptional Json.readString),
   .of "exclude" Draft.exclude (fun draft value => { draft with exclude := some value })
      (Json.readArray Json.readString),
   .of "perFileIgnores" Draft.perFileIgnores
      (fun draft value => { draft with perFileIgnores := some value })
      (Json.readTable (Json.readArray Json.readString))]

/-- Reads a profile from its JSON form. -/
def readJson : Json.Reader Profile := fun depth input => do
  let (draft, rest) ← Json.readRecord "struct Profile" fields {} depth input
  .ok (draft.finish, rest)

/-- Reads a text as the JSON form of a profile. -/
def ofJson (text : String) : Except Json.Fault Profile :=
  Json.readWhole readJson text

/-- The JSON form of a profile, with every field. -/
def toJson (profile : Profile) : Json.Value :=
  .object [("includeDefaultRules", .bool profile.includeDefaultRules),
    ("excludeRules", .array (profile.excludeRules.map .string)),
    ("rules", .object (profile.rules.map fun (id, entry) => (id, entry.toJson))),
    ("severityReportThreshold", RuleOverride.optionalText profile.severityReportThreshold),
    ("failThreshold", RuleOverride.optionalText profile.failThreshold),
    ("exclude", .array (profile.exclude.map .string)),
    ("perFileIgnores", .object (profile.perFileIgnores.map fun (pattern, ids) =>
      (pattern, .array (ids.map .string))))]

end Profile

end Lintel
