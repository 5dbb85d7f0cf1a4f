import Lintel.Rule
import Lintel.Text.Blank

/-!
# The rule about credentials in the source

A long string without blanks that is assigned to a name which usually holds a credential.
-/

set_option autoImplicit false

namespace Lintel.Rule

open Python

/-- Names that hold credentials, as a whole or as the last part behind an underscore. -/
def credentialWords : List String :=
  ["api_key", "apikey", "secret", "secret_key", "token", "password", "passwd", "access_key",
   "access_key_id", "secret_access_key"]

/-- The letter that a character counts as when case does not matter. Besides the capital letters these
are the Kelvin sign and the long s. -/
def foldLetter (c : Char) : Char :=
  if c = '\u212A' then 'k'
  else if c = '\u017F' then 's'
  else if 'A' ≤ c ∧ c ≤ 'Z' then Char.ofNat (c.toNat + 32)
  else c

/-- Whether a name is that of a credential. -/
def namesCredential (name : String) : Bool :=
  let folded := name.toList.map foldLetter
  credentialWords.any fun word =>
    folded = word.toList || ('_' :: word.toList).isSuffixOf folded

/-- The name that an assignment gives to its value. -/
def targetName? : Expr → Option String
  | .name _ id => some id
  | .attr _ _ name => some name
  | _ => none

/-- Whether a text could be a credential: long enough and without blanks. -/
def looksSecret (value : List Char) (minimum : Nat) : Bool :=
  minimum ≤ value.length && !value.any Text.isBlank

/-- The targets and the value of an assignment. -/
def assignmentAt? : Node → Option (Extent × List Expr × Option Expr)
  | .stmt (.assign extent targets value) => some (extent, targets, some value)
  | .stmt (.annotatedAssign extent target _ value) => some (extent, [target], value)
  | _ => none

def hardcodedSecret : Rule where
  id := "hardcoded-secret"
  description := "Credentials must not be committed to source"
  severity := .error
  onByDefault := true
  subscriptions := [.assign, .annAssign]
  parameters := [⟨"minLength", .integer, 20⟩]
  evaluate := fun node context =>
    .withInteger context "minLength" fun minimum =>
      match assignmentAt? node with
      | some (extent, targets, some (.constant _ (.text value))) =>
        if looksSecret value minimum then
          ((targets.filterMap targetName?).filter namesCredential).map fun name =>
            context.findingAt "hardcoded-secret" .error extent
              s!"Possible hardcoded secret assigned to '{name}'"
        else []
      | _ => []

end Lintel.Rule
