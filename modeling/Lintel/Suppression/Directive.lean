import Lintel.Diagnostic
import Lintel.Registry

/-!
# Directives

What a comment may ask for. A directive names an action and, behind an equals sign, the rules it is
about; without one it is about all rules. A list of rules in which one item is malformed is refused as a
whole, so a mistake never widens a directive. An id that no rule has is reported and left out.
-/

set_option autoImplicit false

namespace Lintel.Suppression

/-- The rules that a directive is about. -/
inductive Selector where
  | all
  | rule (id : String)
deriving Repr, DecidableEq

namespace Selector

/-- Whether a selector is about a rule. -/
def isAbout : Selector → String → Bool
  | all, _ => true
  | rule id, wanted => id = wanted

def name : Selector → String
  | all => "all"
  | rule id => id

end Selector

/-- What a directive does. -/
inductive Action where
  | disableLine
  | disableNextLine
  | disableStatement
  | disable
  | enable
deriving Repr, DecidableEq

/-- Reads the name of an action. -/
def Action.ofName? (name : String) : Option Action :=
  if name = "disable-line" then some .disableLine
  else if name = "disable-next-line" then some .disableNextLine
  else if name = "disable-statement" then some .disableStatement
  else if name = "disable" then some .disable
  else if name = "enable" then some .enable
  else none

/-- Why a directive cannot be obeyed, in whole or in part. -/
inductive Fault where
  | missingAction
  | unknownAction (name : String)
  | emptySelector
  | invalidRuleId (id : String)
  | unknownRule (id : String)
  | unmatchedEnable (name : String)
deriving Repr, DecidableEq

def Fault.message : Fault → String
  | .missingAction => "suppression directive has no action"
  | .unknownAction name => s!"unknown suppression action '{name}'"
  | .emptySelector => "empty rule selector in suppression directive"
  | .invalidRuleId id => s!"'{id}' is not a valid rule id"
  | .unknownRule id => s!"suppression names unknown rule '{id}'"
  | .unmatchedEnable name => s!"'enable' has no matching 'disable' for '{name}'"

/-- A directive as it is written. -/
structure Directive where
  action : Action
  selectors : List Selector
deriving Repr, DecidableEq

/-- The text that marks a comment as a directive. -/
def marker : List Char := "skylos:".toList

/-- The text that makes a comment a directive to disable its line, wherever it stands. -/
def pragma : List Char := "pragma: no skylos".toList

def isIdLetter (c : Char) : Bool :=
  'a' ≤ c && c ≤ 'z'

def isIdChar (c : Char) : Bool :=
  isIdLetter c || ('0' ≤ c && c ≤ '9')

/-- Whether a text has the form of a rule id: words of small letters and digits with dashes between them,
the first of which starts with a letter. -/
def isRuleId (text : List Char) : Bool :=
  (text.head?.map isIdLetter).getD false
    && (Text.splitAll '-' text).all fun word => !word.isEmpty && word.all isIdChar

/-- Whether directives may name an id. -/
def isKnownId (registry : Registry) (id : String) : Bool :=
  registry.contains id || id = ruleFailureId

/-- Reads the items of a list of rules. A malformed item refuses the list. -/
def readSelectors (registry : Registry) : List (List Char) → Option (List Selector) × List Fault
  | [] => (some [], [])
  | item :: items =>
    let text := Text.trim item
    let id := String.ofList text
    if text.isEmpty then (none, [.emptySelector])
    else if id = "all" then
      let (selectors, faults) := readSelectors registry items
      (selectors.map (.all :: ·), faults)
    else if !isRuleId text then (none, [.invalidRuleId id])
    else
      let (selectors, faults) := readSelectors registry items
      if isKnownId registry id then (selectors.map (.rule id :: ·), faults)
      else (selectors, .unknownRule id :: faults)

/-- A list of rules has to name at least one. -/
def nonEmpty (selectors : List Selector) : Option (List Selector) :=
  if selectors.isEmpty then none else some selectors

/-- Reads what follows the marker of a directive. -/
def readBody (registry : Registry) (body : List Char) : Option Directive × List Fault :=
  let (name, items) := match Text.splitFirst '=' body with
    | some (name, items) => (Text.trim name, some items)
    | none => (body, none)
  if name.isEmpty then (none, [.missingAction])
  else match Action.ofName? (String.ofList name), items with
    | none, _ => (none, [.unknownAction (String.ofList name)])
    | some action, none => (some ⟨action, [.all]⟩, [])
    | some action, some items =>
      let (selectors, faults) := readSelectors registry (Text.splitAll ',' items)
      ((selectors.bind nonEmpty).map fun selectors => ⟨action, selectors⟩, faults)

/-- Reads the text of a comment. Nothing and no fault means that it is an ordinary comment. -/
def readComment (registry : Registry) (text : List Char) : Option Directive × List Fault :=
  let text := Text.trim text
  if Text.contains pragma text then (some ⟨.disableLine, [.all]⟩, [])
  else if marker.isPrefixOf text then
    readBody registry (Text.trim (text.drop marker.length))
  else (none, [])

end Lintel.Suppression
