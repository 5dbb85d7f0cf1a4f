import Lintel.Digest
import Lintel.Discovery
import Lintel.Python.Statement

/-!
# Sources

A source under analysis, and why there may be none.
-/

set_option autoImplicit false

namespace Lintel

/-- A source. -/
structure Source where
  path : String
  text : String
deriving Repr, DecidableEq

/-- Why a source cannot be analyzed. -/
inductive LoadError where
  | unreadable (path : String) (cause : FileError)
  | malformed (path : String)
deriving Repr, DecidableEq

def LoadError.message : LoadError → String
  | .unreadable path cause => s!"failed to read {path}: {cause.message}"
  | .malformed path => s!"failed to parse {path}: <syntax error>"

/-- A parsed source. -/
structure ParsedSource where
  body : List Python.Stmt
  lines : Text.LineIndex

namespace Source

/-- The digest of the text. -/
def fingerprint (source : Source) : String :=
  Digest.sha256OfString source.text

/-- Parses the text as a module. -/
def parse (source : Source) : Except LoadError ParsedSource :=
  match Python.parseModule? source.text.toList with
  | some module => .ok ⟨module.body, Text.LineIndex.ofString source.text⟩
  | none => .error (.malformed source.path)

/-- Reads a source file. -/
def ofFile (tree : FileTree) (file : DiscoveredFile) : Except LoadError Source :=
  match tree.readText file.file with
  | .ok text => .ok ⟨file.path, text⟩
  | .error cause => .error (.unreadable file.path cause)

end Source

/-- What a run is given for one source: its text, or the file that holds it. -/
inductive SourceInput where
  | given (source : Source)
  | file (file : DiscoveredFile)
deriving Repr, DecidableEq

namespace SourceInput

/-- The path of a source, known before it is loaded. -/
def path : SourceInput → String
  | given source => source.path
  | file found => found.path

def load (tree : FileTree) : SourceInput → Except LoadError Source
  | given source => .ok source
  | file found => Source.ofFile tree found

end SourceInput

end Lintel
