import Lintel.Digest
import Lintel.Rule.Blocks
import Lintel.Rule.Calls
import Lintel.Rule.Comparisons
import Lintel.Rule.Functions
import Lintel.Rule.Handlers
import Lintel.Rule.Imports
import Lintel.Rule.Secrets

/-!
# The registry of rules

The rules that a run can use, in ascending order of id. Of several rules with one id the first one
given is kept.
-/

set_option autoImplicit false

namespace Lintel

/-- Rules by id, ids strictly ascending. -/
structure Registry where
  rules : List Rule

namespace Registry

/-- Puts a rule in its place unless its id is taken. -/
def insertRule (rule : Rule) : List Rule → List Rule
  | [] => [rule]
  | first :: rest =>
    if rule.id = first.id then first :: rest
    else if Table.keyPrecedes rule.id first.id then rule :: first :: rest
    else first :: insertRule rule rest

/-- The registry of a list of rules. -/
def ofRules (rules : List Rule) : Registry :=
  ⟨rules.foldl (fun kept rule => insertRule rule kept) []⟩

/-- The rules that come with the program. -/
def builtinRules : List Rule :=
  [Rule.noEmptyCatch, Rule.noBareExcept, Rule.noEval, Rule.noShellSubprocess, Rule.maxNestingDepth,
   Rule.tooManyParameters, Rule.mutableDefaultArgument, Rule.noWildcardImport, Rule.compareToNone,
   Rule.hardcodedSecret, Rule.noPrint]

def builtin : Registry := ofRules builtinRules

def get? (registry : Registry) (id : String) : Option Rule :=
  registry.rules.find? fun rule => rule.id = id

def contains (registry : Registry) (id : String) : Bool :=
  (registry.get? id).isSome

def size (registry : Registry) : Nat := registry.rules.length

def ids (registry : Registry) : List String := registry.rules.map Rule.id

/-- The version of the program. -/
def programVersion : String := "0.1.0"

/-- Raised whenever a rule changes its behaviour, so that stored results are not used again. -/
def ruleRevision : Nat := 1

/-- Identifies the program and the set of its rules. -/
def version (registry : Registry) : String :=
  let digest := Digest.sha256OfString (",".intercalate registry.ids)
  s!"{programVersion}-r{ruleRevision}-{String.ofList (digest.toList.take 12)}"

end Registry

end Lintel
