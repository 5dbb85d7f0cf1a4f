import Lintel.FileTree
import Lintel.Glob
import Lintel.Json.Reader

/-!
# Errors of the configuration

Why a profile cannot be read, or cannot be brought together with the rules.
-/

set_option autoImplicit false

namespace Lintel

/-- Why there is no configuration. -/
inductive ConfigError where
  | unreadable (path : String) (cause : FileError)
  | json (fault : Json.Fault)
  | yaml
  | unknownRule (id context : String)
  | invalidSeverity (value context : String)
  | unknownParameter (rule name : String)
  | invalidParameter (rule name expected : String)
  | invalidGlob (pattern : String) (fault : Glob.Fault)
deriving Repr, DecidableEq

namespace ConfigError

/-- What is wrong with a glob. -/
def globMessage (pattern : String) (fault : Glob.Fault) : String :=
  s!"error parsing glob '{pattern}': {fault.message}"

/-- The message of an error. What is wrong with the text of a profile is left out. -/
def message : ConfigError → String
  | unreadable path cause => s!"failed to read config file {path}: {cause.message}"
  | json _ => "invalid JSON config:"
  | yaml => "invalid YAML config:"
  | unknownRule id context => s!"unknown rule '{id}' referenced in {context}"
  | invalidSeverity value context =>
    s!"invalid severity '{value}' in {context} (expected Error, Warning or Information)"
  | unknownParameter rule name => s!"rule '{rule}' has no parameter '{name}'"
  | invalidParameter rule name expected => s!"parameter '{name}' of rule '{rule}' must be a {expected}"
  | invalidGlob pattern fault => s!"invalid glob pattern: {globMessage pattern fault}"

/-- The message of the error behind an error. -/
def causeMessage? : ConfigError → Option String
  | unreadable _ cause => some cause.message
  | invalidGlob pattern fault => some (globMessage pattern fault)
  | _ => none

end ConfigError

end Lintel
