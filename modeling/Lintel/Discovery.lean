import Lintel.Discovery.IgnoreRule
import Lintel.FileTree

/-!
# Discovery

Which files of a tree are sources to analyze. Hidden entries and what ignore files exclude are passed
over, and so is everything below them. `.ignore` files always count; those of a repository count only
inside one, up to the directory that holds it.
-/

set_option autoImplicit false

namespace Lintel

/-- A source file: where it is, and the path under which it is reported. -/
structure DiscoveredFile where
  file : String
  path : String
deriving Repr, DecidableEq

namespace Discovery

/-- The lines of an ignore file of a directory. -/
def ignoreRules (tree : FileTree) (file : Location) : List IgnoreRule :=
  match tree.entryAt? file with
  | some (.file content) => IgnoreRule.ofFile content
  | _ => []

/-- The directories above a location, the nearest first. -/
def directoriesAbove (place : Location) : List Location :=
  (List.range place.length).reverse.map place.take

def isRepository (tree : FileTree) (directory : Location) : Bool :=
  (tree.entryAt? (directory ++ [".git"])).isSome

/-- Of the directories above an entry, those up to the nearest repository, if there is one. -/
def repositoryDirectories (tree : FileTree) (directories : List Location) : List Location :=
  match directories.findIdx? (isRepository tree) with
  | some index => directories.take (index + 1)
  | none => []

/-- What the nearest of the named ignore files with an opinion says of an entry. -/
def nearestVerdict? (tree : FileTree) (directories : List Location) (name : Location)
    (place : Location) (isDirectory : Bool) : Option Verdict :=
  directories.findSome? fun directory =>
    IgnoreRule.verdict? (ignoreRules tree (directory ++ name))
      ("/".intercalate (place.drop directory.length)) isDirectory

/-- What ignore files say of an entry. -/
def verdict? (tree : FileTree) (place : Location) (isDirectory : Bool) : Option Verdict :=
  let directories := directoriesAbove place
  let repository := repositoryDirectories tree directories
  (nearestVerdict? tree directories [".ignore"] place isDirectory)
    <|> (nearestVerdict? tree repository [".gitignore"] place isDirectory)
    <|> (nearestVerdict? tree repository [".git", "info", "exclude"] place isDirectory)

/-- Whether an entry is hidden by its name. -/
def isHidden (place : Location) : Bool :=
  match place.getLast? with
  | some name => name.toList.head? = some '.'
  | none => false

/-- Whether an entry is passed over. An exception in an ignore file also uncovers a hidden entry. -/
def isSkipped (tree : FileTree) (place : Location) : Bool :=
  let isDirectory := match tree.entryAt? place with
    | some entry => !entry.isFile
    | none => false
  match verdict? tree place isDirectory with
  | some .ignored => true
  | some .kept => false
  | none => isHidden place

/-- Whether a file below a directory is reached: nothing on the way to it is passed over. -/
def isReached (tree : FileTree) (root place : Location) : Bool :=
  root.length < place.length && root.isPrefixOf place &&
    (List.range (place.length - root.length)).all fun steps =>
      !isSkipped tree (place.take (root.length + steps + 1))

/-- The files that count as sources below a directory, in the order of their paths. -/
def sourcesBelow (tree : FileTree) (root : Location) (target : String) : List DiscoveredFile :=
  let files := tree.entries.filterMap fun (place, entry) =>
    let path := "/".intercalate (place.drop root.length)
    if entry.isFile && Path.extension? path = some "py" && isReached tree root place then
      some ⟨Path.join target path, path⟩
    else none
  files.mergeSort fun first second => Path.order first.file second.file != .gt

/-- The sources of a target. A target that is a file is a source whatever its name. -/
def discover (tree : FileTree) (target : String) : Except FileError (List DiscoveredFile) := do
  match ← tree.lookup target with
  | .file _ => .ok [⟨target, target⟩]
  | .directory =>
    let root ← tree.locate target
    .ok (sourcesBelow tree root target)

end Discovery

end Lintel
