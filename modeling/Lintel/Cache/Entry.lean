import Lintel.Diagnostic
import Lintel.Digest
import Lintel.Json.OpenRecord

/-!
# Cache entries

What a stored result is filed under, and the JSON form of a stored result. An entry repeats the whole
key, so a result is never taken for that of another key with the same digest.
-/

set_option autoImplicit false

namespace Lintel

/-- Everything that the result for a source depends on. -/
structure CacheKey where
  unitPath : String
  unitFingerprint : String
  configFingerprint : String
  rulesetVersion : String
deriving Repr, DecidableEq

namespace CacheKey

/-- The text whose digest names an entry: the four parts with a zero character between them. -/
def text (key : CacheKey) : String :=
  "\x00".intercalate [key.unitPath, key.unitFingerprint, key.configFingerprint, key.rulesetVersion]

def digest (key : CacheKey) : String :=
  Digest.sha256OfString key.text

end CacheKey

/-- A stored result. -/
structure CacheEntry where
  key : CacheKey
  diagnostics : List Diagnostic
deriving Repr, DecidableEq

namespace Span

/-- A span while it is being read. -/
structure Draft where
  startLine : Option Nat := none
  startColumn : Option Nat := none
  endLine : Option Nat := none
  endColumn : Option Nat := none

def Draft.finish (draft : Draft) : Except Json.Fault Span := do
  return ⟨← Json.require "start_line" draft.startLine, ← Json.require "start_column" draft.startColumn,
    ← Json.require "end_line" draft.endLine, ← Json.require "end_column" draft.endColumn⟩

def fields : List (Json.Field Draft) :=
  [.of "start_line" Draft.startLine (fun draft value => { draft with startLine := some value })
      Json.readNatural,
   .of "start_column" Draft.startColumn (fun draft value => { draft with startColumn := some value })
      Json.readNatural,
   .of "end_line" Draft.endLine (fun draft value => { draft with endLine := some value })
      Json.readNatural,
   .of "end_column" Draft.endColumn (fun draft value => { draft with endColumn := some value })
      Json.readNatural]

/-- Reads a span from its JSON form. -/
def readJson : Json.Reader Span := fun depth input => do
  let (draft, rest) ← Json.readOpenRecord "a span" fields {} depth input
  .ok (← draft.finish, rest)

end Span

namespace Diagnostic

/-- A diagnostic while it is being read. -/
structure Draft where
  ruleId : Option String := none
  file : Option String := none
  span : Option Span := none
  message : Option String := none
  severity : Option Severity := none

def Draft.finish (draft : Draft) : Except Json.Fault Diagnostic := do
  return ⟨← Json.require "rule_id" draft.ruleId, ← Json.require "file" draft.file,
    ← Json.require "span" draft.span, ← Json.require "message" draft.message,
    ← Json.require "severity" draft.severity⟩

def fields : List (Json.Field Draft) :=
  [.of "rule_id" Draft.ruleId (fun draft value => { draft with ruleId := some value }) Json.readString,
   .of "file" Draft.file (fun draft value => { draft with file := some value }) Json.readString,
   .of "span" Draft.span (fun draft value => { draft with span := some value }) Span.readJson,
   .of "message" Draft.message (fun draft value => { draft with message := some value })
      Json.readString,
   .of "severity" Draft.severity (fun draft value => { draft with severity := some value })
      (Json.readName Severity.ofName?)]

/-- Reads a diagnostic from its JSON form. -/
def readJson : Json.Reader Diagnostic := fun depth input => do
  let (draft, rest) ← Json.readOpenRecord "a diagnostic" fields {} depth input
  .ok (← draft.finish, rest)

end Diagnostic

namespace CacheEntry

/-- The JSON form of an entry. -/
def toJson (entry : CacheEntry) : Json.Value :=
  .object [("rulesetVersion", .string entry.key.rulesetVersion),
    ("unitPath", .string entry.key.unitPath),
    ("unitFingerprint", .string entry.key.unitFingerprint),
    ("configFingerprint", .string entry.key.configFingerprint),
    ("diagnostics", .array (entry.diagnostics.map Diagnostic.toJson))]

/-- The bytes under which an entry is stored. -/
def encode (entry : CacheEntry) : ByteArray :=
  entry.toJson.compactText.toUTF8

/-- An entry while it is being read. -/
structure Draft where
  rulesetVersion : Option String := none
  unitPath : Option String := none
  unitFingerprint : Option String := none
  configFingerprint : Option String := none
  diagnostics : Option (List Diagnostic) := none

def Draft.finish (draft : Draft) : Except Json.Fault CacheEntry := do
  let rulesetVersion ← Json.require "rulesetVersion" draft.rulesetVersion
  let unitPath ← Json.require "unitPath" draft.unitPath
  let unitFingerprint ← Json.require "unitFingerprint" draft.unitFingerprint
  let configFingerprint ← Json.require "configFingerprint" draft.configFingerprint
  let diagnostics ← Json.require "diagnostics" draft.diagnostics
  return ⟨⟨unitPath, unitFingerprint, configFingerprint, rulesetVersion⟩, diagnostics⟩

def fields : List (Json.Field Draft) :=
  [.of "rulesetVersion" Draft.rulesetVersion
      (fun draft value => { draft with rulesetVersion := some value }) Json.readString,
   .of "unitPath" Draft.unitPath (fun draft value => { draft with unitPath := some value })
      Json.readString,
   .of "unitFingerprint" Draft.unitFingerprint
      (fun draft value => { draft with unitFingerprint := some value }) Json.readString,
   .of "configFingerprint" Draft.configFingerprint
      (fun draft value => { draft with configFingerprint := some value }) Json.readString,
   .of "diagnostics" Draft.diagnostics (fun draft value => { draft with diagnostics := some value })
      (Json.readArray Diagnostic.readJson)]

/-- Reads an entry from its JSON form. -/
def readJson : Json.Reader CacheEntry := fun depth input => do
  let (draft, rest) ← Json.readOpenRecord "an entry" fields {} depth input
  .ok (← draft.finish, rest)

/-- Reads an entry from the bytes under which it is stored. -/
def decode? (content : ByteArray) : Option CacheEntry := do
  let text ← String.fromUTF8? content
  (Json.readWhole readJson text).toOption

end CacheEntry

end Lintel
