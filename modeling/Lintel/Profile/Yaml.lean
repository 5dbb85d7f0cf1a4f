import Lintel.Profile
import Lintel.Yaml.Value

/-!
# Profiles in YAML

A profile may be written as a YAML document. Where a list, a mapping or a section is expected, an empty
plain scalar stands for an empty one; a text may be written as any scalar.
-/

set_option autoImplicit false

namespace Lintel

namespace Yaml

/-- Whether a node stands for an empty container. -/
def Node.isBlank : Node → Bool
  | .scalar text style _ => text.isEmpty && style = .plain
  | _ => false

/-- A list whose items are read by `item`. -/
def Node.list? {α : Type} (item : Node → Option α) (node : Node) : Option (List α) :=
  match node with
  | .sequence items _ => items.mapM item
  | other => if other.isBlank then some [] else none

/-- The entries of a mapping, with their keys as texts. -/
def Node.entries? (node : Node) : Option (List (String × Node)) :=
  match node with
  | .mapping entries _ => entries.mapM fun (key, value) => do some (← key.text?, value)
  | other => if other.isBlank then some [] else none

/-- A table whose values are read by `value`. The last of several entries with one key counts. -/
def Node.table? {α : Type} (value : Node → Option α) (node : Node) : Option (Table α) := do
  let entries ← node.entries?
  let read ← entries.mapM fun (key, node) => do some (key, ← value node)
  some (Table.ofList read)

/-- A truth value, which is not in quotes. -/
def Node.bool? (node : Node) : Option Bool :=
  match node with
  | .scalar text .plain _ => readBool? text
  | .scalar text .literal (some tag) => if tag = standardTag "bool" then readBool? text else none
  | _ => none

/-- Nothing, or what `value` reads. A tag says whether a plain scalar is nothing; without one its text
does. -/
def Node.optional? {α : Type} (value : Node → Option α) (node : Node) : Option (Option α) :=
  match node with
  | .scalar text .plain none =>
    if text.isEmpty || isNull text then some none else (value node).map some
  | .scalar text .plain (some tag) =>
    if tag = standardTag "null" then if isNull text then some none else none
    else (value node).map some
  | _ => (value node).map some

/-- Reads the entries of a section one after another. `field` refuses a key that it does not know or has
seen before. -/
def Node.record? {σ : Type} (field : σ → String → Node → Option σ) (unset : σ) (node : Node) :
    Option σ := do
  let entries ← node.entries?
  entries.foldlM (fun state (key, value) => field state key value) unset

/-- Sets a field that has not been set. -/
def setOnce {α σ : Type} (current : Option α) (value : Option α) (put : α → σ) : Option σ :=
  if current.isSome then none else value.map put

end Yaml

namespace RuleOverride

open Yaml (setOnce)

/-- The number of containers that may be nested in the value of a parameter. -/
def parameterDepth : Nat := 124

def yamlField (draft : Draft) (key : String) (node : Yaml.Node) : Option Draft :=
  if key = "enable" then
    setOnce draft.enable (node.optional? Yaml.Node.bool?) fun value => { draft with enable := some value }
  else if key = "severity" then
    setOnce draft.severity (node.optional? Yaml.Node.text?)
      fun value => { draft with severity := some value }
  else if key = "parameters" then
    setOnce draft.parameters (node.table? (Yaml.valueOf parameterDepth))
      fun value => { draft with parameters := some value }
  else none

/-- Reads a section from a node. -/
def ofYaml? (node : Yaml.Node) : Option RuleOverride :=
  (node.record? yamlField {}).map Draft.finish

end RuleOverride

namespace Profile

open Yaml (setOnce)

def yamlField (draft : Draft) (key : String) (node : Yaml.Node) : Option Draft :=
  if key = "includeDefaultRules" then
    setOnce draft.includeDefaultRules node.bool?
      fun value => { draft with includeDefaultRules := some value }
  else if key = "excludeRules" then
    setOnce draft.excludeRules (node.list? Yaml.Node.text?)
      fun value => { draft with excludeRules := some value }
  else if key = "rules" then
    setOnce draft.rules (node.table? RuleOverride.ofYaml?)
      fun value => { draft with rules := some value }
  else if key = "severityReportThreshold" then
    setOnce draft.severityReportThreshold (node.optional? Yaml.Node.text?)
      fun value => { draft with severityReportThreshold := some value }
  else if key = "failThreshold" then
    setOnce draft.failThreshold (node.optional? Yaml.Node.text?)
      fun value => { draft with failThreshold := some value }
  else if key = "exclude" then
    setOnce draft.exclude (node.list? Yaml.Node.text?)
      fun value => { draft with exclude := some value }
  else if key = "perFileIgnores" then
    setOnce draft.perFileIgnores (node.table? (Yaml.Node.list? Yaml.Node.text?))
      fun value => { draft with perFileIgnores := some value }
  else none

/-- Reads a text as a profile in YAML. A text without a document is an empty profile. -/
def ofYaml? (text : String) : Option Profile := do
  let root ← Yaml.parse? text
  let draft ← (root.getD .empty).record? yamlField {}
  some draft.finish

end Profile

end Lintel
