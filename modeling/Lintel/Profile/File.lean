import Lintel.Config.Error
import Lintel.Profile.Yaml

/-!
# Profile files

Which file holds the profile of a run, and how it is read.
-/

set_option autoImplicit false

namespace Lintel.Profile

/-- Reads the text of a profile; files named like YAML hold YAML, and all others JSON. -/
def ofText (path text : String) : Except ConfigError Profile :=
  if Path.extension? path = some "yaml" ∨ Path.extension? path = some "yml" then
    match ofYaml? text with
    | some profile => .ok profile
    | none => .error .yaml
  else match ofJson text with
    | .ok profile => .ok profile
    | .error fault => .error (.json fault)

/-- Reads a profile file. -/
def ofFile (tree : FileTree) (path : String) : Except ConfigError Profile :=
  match tree.readText path with
  | .ok text => ofText path text
  | .error cause => .error (.unreadable path cause)

/-- The names of profile files, in the order in which they are looked for. -/
def fileNames : List String := [".skylos.json", ".skylos.yaml", ".skylos.yml"]

/-- The profile file of a directory. -/
def fileIn? (tree : FileTree) (directory : String) : Option String :=
  (fileNames.map (Path.join directory)).find? tree.isFile

/-- A path and the paths above it, the nearest first; `fuel` bounds their number. -/
def ancestors : Nat → String → List String
  | 0, _ => []
  | fuel + 1, path =>
    path :: match Path.parent? path with
      | some above => ancestors fuel above
      | none => []

/-- Where the search for a profile starts: the location of the directory, if there is one. -/
def searchStart (tree : FileTree) (start : String) : String :=
  match tree.locationOf? start with
  | some location => FileTree.absolutePath location
  | none => start

/-- The directories that are searched for a profile, the nearest first. -/
def searchPath (tree : FileTree) (start : String) : List String :=
  let first := searchStart tree start
  ancestors (first.length + 1) first

/-- Looks for a profile file from a directory upward. The nearest directory that holds one decides, also
when its profile cannot be read. -/
def find (tree : FileTree) (start : String) : Except ConfigError (Option (String × Profile)) :=
  match (searchPath tree start).findSome? (fileIn? tree) with
  | none => .ok none
  | some path => do
    let profile ← ofFile tree path
    .ok (some (path, profile))

end Lintel.Profile
