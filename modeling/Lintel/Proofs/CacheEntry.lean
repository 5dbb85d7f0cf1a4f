import Lintel.Cache.Entry
import Lintel.Proofs.JsonReading
import Lintel.Proofs.TextPieces

/-!
# Stored results are read back

The bytes of a stored result are read as that result or not at all, and they are read whenever the lines
and columns of its diagnostics fit the whole numbers of the format. No condition is set on the texts of
the key and of the diagnostics.
-/

set_option autoImplicit false

namespace Lintel

/-- The numbers of a span fit the whole numbers of JSON. -/
structure Span.Fits (span : Span) : Prop where
  startLine : span.startLine < UInt64.size
  startColumn : span.startColumn < UInt64.size
  endLine : span.endLine < UInt64.size
  endColumn : span.endColumn < UInt64.size

open Json

namespace Span

/-- The JSON form of a span. -/
def members (span : Span) : List (String × Value) :=
  [("start_line", .ofNat span.startLine), ("start_column", .ofNat span.startColumn),
    ("end_line", .ofNat span.endLine), ("end_column", .ofNat span.endColumn)]

private theorem fills (span : Span) :
    Json.Fills fields 0 {} span.members
      (span.startLine < UInt64.size ∧ span.startColumn < UInt64.size ∧ span.endLine < UInt64.size ∧
        span.endColumn < UInt64.size ∧ True)
      ⟨some span.startLine, some span.startColumn, some span.endLine, some span.endColumn⟩ := by
  refine .cons rfl (Field.takes_of rfl (readNatural_back 0 _)) ?_
  refine .cons rfl (Field.takes_of rfl (readNatural_back 0 _)) ?_
  refine .cons rfl (Field.takes_of rfl (readNatural_back 0 _)) ?_
  exact .cons rfl (Field.takes_of rfl (readNatural_back 0 _)) .nil

theorem readJson_back (span : Span) :
    ReadsBack readJson span.Fits 1 (.object span.members) span := by
  have record := (readOpenRecord_back "a span" span.fills).finish Draft.finish rfl
  refine record.mono fun fits => ?_
  exact ⟨fits.startLine, fits.startColumn, fits.endLine, fits.endColumn, trivial⟩

end Span

namespace Diagnostic

private theorem fills (diagnostic : Diagnostic) :
    Json.Fills fields 1 {}
      [("rule_id", .string diagnostic.ruleId), ("file", .string diagnostic.file),
        ("span", .object diagnostic.span.members), ("message", .string diagnostic.message),
        ("severity", .string diagnostic.severity.name)]
      (True ∧ True ∧ diagnostic.span.Fits ∧ True ∧ True ∧ True)
      ⟨some diagnostic.ruleId, some diagnostic.file, some diagnostic.span, some diagnostic.message,
        some diagnostic.severity⟩ := by
  have level : Severity.ofName? diagnostic.severity.name = some diagnostic.severity := by
    cases diagnostic.severity <;> rfl
  refine .cons rfl (Field.takes_of rfl (readString_back True 1 _)) ?_
  refine .cons rfl (Field.takes_of rfl (readString_back True 1 _)) ?_
  refine .cons rfl (Field.takes_of rfl diagnostic.span.readJson_back) ?_
  refine .cons rfl (Field.takes_of rfl (readString_back True 1 _)) ?_
  exact .cons rfl (Field.takes_of rfl (readName_back level True 1)) .nil

theorem readJson_back (diagnostic : Diagnostic) :
    ReadsBack readJson diagnostic.span.Fits 2 diagnostic.toJson diagnostic := by
  have record := (readOpenRecord_back "a diagnostic" diagnostic.fills).finish Draft.finish rfl
  exact record.mono fun fits => ⟨trivial, trivial, fits, trivial, trivial, trivial⟩

end Diagnostic

namespace CacheEntry

/-- The numbers in an entry fit the whole numbers of JSON. -/
def Fits (entry : CacheEntry) : Prop :=
  ∀ diagnostic ∈ entry.diagnostics, diagnostic.span.Fits

private theorem fills (entry : CacheEntry) :
    Json.Fills fields 3 {}
      [("rulesetVersion", .string entry.key.rulesetVersion), ("unitPath", .string entry.key.unitPath),
        ("unitFingerprint", .string entry.key.unitFingerprint),
        ("configFingerprint", .string entry.key.configFingerprint),
        ("diagnostics", .array (entry.diagnostics.map Diagnostic.toJson))]
      (True ∧ True ∧ True ∧ True ∧ entry.Fits ∧ True)
      ⟨some entry.key.rulesetVersion, some entry.key.unitPath, some entry.key.unitFingerprint,
        some entry.key.configFingerprint, some entry.diagnostics⟩ := by
  refine .cons rfl (Field.takes_of rfl (readString_back True 3 _)) ?_
  refine .cons rfl (Field.takes_of rfl (readString_back True 3 _)) ?_
  refine .cons rfl (Field.takes_of rfl (readString_back True 3 _)) ?_
  refine .cons rfl (Field.takes_of rfl (readString_back True 3 _)) ?_
  exact .cons rfl (Field.takes_of rfl (readArray_back (fun _ _ => startsItem_object _)
    fun diagnostic _ => diagnostic.readJson_back)) .nil

theorem readJson_back (entry : CacheEntry) : ReadsBack readJson entry.Fits 4 entry.toJson entry := by
  have record := (readOpenRecord_back "an entry" entry.fills).finish Draft.finish rfl
  exact record.mono fun fits => ⟨trivial, trivial, trivial, trivial, fits, trivial⟩

theorem readWhole_back (entry : CacheEntry) :
    Yields entry.Fits (readWhole readJson entry.toJson.compactText) entry := by
  have whole := readJson_back entry depthLimit [] (by decide) endsNumber_nil
  rw [List.append_nil] at whole
  rw [readWhole, Value.compactText, String.toList_ofList]
  exact whole.andThen rfl

private theorem decode?_encode_eq (entry : CacheEntry) :
    decode? entry.encode = (readWhole readJson entry.toJson.compactText).toOption := by
  rw [decode?, encode, Text.fromUTF8?_toUTF8, Option.bind_eq_bind, Option.bind_some]

/-- A stored result is read back if its numbers fit. -/
theorem decode?_encode (entry : CacheEntry) (fits : entry.Fits) : decode? entry.encode = some entry := by
  rw [decode?_encode_eq, entry.readWhole_back.success fits]
  rfl

/-- What is read from a stored result is that result. -/
theorem eq_of_decode?_encode {entry found : CacheEntry} (decoded : decode? entry.encode = some found) :
    found = entry := by
  rw [decode?_encode_eq] at decoded
  cases read : readWhole readJson entry.toJson.compactText with
  | error fault => simp [read, Except.toOption] at decoded
  | ok got =>
    simp only [read, Except.toOption, Option.some.injEq] at decoded
    exact decoded ▸ entry.readWhole_back.unique got read

end CacheEntry

end Lintel
