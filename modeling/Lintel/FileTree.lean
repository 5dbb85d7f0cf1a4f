import Lintel.Path

/-!
# File trees

A tree of directories and regular files as a value. A location is the list of names that lead from the
root to an entry; a path is a text that is walked from the working directory or from the root. Names are
text, so there are no entries whose names are bytes of another kind.

Operations that change a tree give the changed tree also when they fail, because a failed operation may
have done a part of its work.
-/

set_option autoImplicit false

namespace Lintel

/-- Why an operation on a tree fails. -/
inductive FileError where
  | notFound
  | alreadyExists
  | notDirectory
  | isDirectory
  | notEmpty
  | notText
deriving Repr, DecidableEq

def FileError.message : FileError → String
  | .notFound => "No such file or directory (os error 2)"
  | .alreadyExists => "File exists (os error 17)"
  | .notDirectory => "Not a directory (os error 20)"
  | .isDirectory => "Is a directory (os error 21)"
  | .notEmpty => "Directory not empty (os error 39)"
  | .notText => "stream did not contain valid UTF-8"

/-- What stands at a location. -/
inductive FileEntry where
  | directory
  | file (content : ByteArray)

/-- Files are the same when their bytes are. -/
instance : DecidableEq FileEntry
  | .directory, .directory => isTrue rfl
  | .directory, .file _ => isFalse nofun
  | .file _, .directory => isFalse nofun
  | .file ⟨first⟩, .file ⟨second⟩ =>
    if same : first = second then isTrue (same ▸ rfl)
    else isFalse fun equal => same (by injection equal with contents; injection contents)

def FileEntry.isFile : FileEntry → Bool
  | .file _ => true
  | .directory => false

/-- The names from the root down to an entry. -/
abbrev Location := List String

/-- Entries by location, each location at most once. The root is always a directory and is not
listed. -/
structure FileTree where
  entries : List (Location × FileEntry)
  workingDirectory : Location

namespace FileTree

def entryAt? (tree : FileTree) (location : Location) : Option FileEntry :=
  if location = [] then some .directory
  else (tree.entries.find? fun entry => entry.1 = location).map Prod.snd

/-- Takes away what stands at a location. -/
def erase (tree : FileTree) (location : Location) : FileTree :=
  { tree with entries := tree.entries.filter fun entry => entry.1 ≠ location }

/-- Puts an entry at a location, in place of what stood there. -/
def put (tree : FileTree) (location : Location) (entry : FileEntry) : FileTree :=
  { tree with entries := (tree.erase location).entries ++ [(location, entry)] }

/-- The names and entries directly below a location, names ascending. -/
def childrenOf (tree : FileTree) (location : Location) : Table FileEntry :=
  Table.ofList <| tree.entries.filterMap fun (place, entry) =>
    match place.getLast? with
    | some name => if place.dropLast = location then some (name, entry) else none
    | none => none

/-- Walks one piece of a path. Only a directory can be walked from. -/
def step (tree : FileTree) (current : Location) (piece : String) : Except FileError Location :=
  match tree.entryAt? current with
  | none => .error .notFound
  | some (.file _) => .error .notDirectory
  | some .directory =>
    if piece = "" ∨ piece = "." then .ok current
    else if piece = ".." then .ok current.dropLast
    else .ok (current ++ [piece])

/-- Where a path starts. -/
def startOf (tree : FileTree) (path : String) : Location :=
  if path.toList.head? = some '/' then [] else tree.workingDirectory

/-- The pieces of a path between its slashes. -/
def piecesOf (path : String) : List String :=
  (Text.splitAll '/' path.toList).map String.ofList

/-- The location that a path names. Everything but the last piece has to be there. -/
def locate (tree : FileTree) (path : String) : Except FileError Location :=
  if path.isEmpty then .error .notFound
  else (piecesOf path).foldlM tree.step (tree.startOf path)

/-- The entry that a path names. -/
def lookup (tree : FileTree) (path : String) : Except FileError FileEntry := do
  let location ← tree.locate path
  match tree.entryAt? location with
  | none => .error .notFound
  | some entry => .ok entry

def isFile (tree : FileTree) (path : String) : Bool :=
  match tree.lookup path with
  | .ok entry => entry.isFile
  | .error _ => false

def isDirectory (tree : FileTree) (path : String) : Bool :=
  match tree.lookup path with
  | .ok entry => !entry.isFile
  | .error _ => false

/-- The location of an existing entry. -/
def locationOf? (tree : FileTree) (path : String) : Option Location :=
  match tree.locate path with
  | .ok location => if (tree.entryAt? location).isSome then some location else none
  | .error _ => none

/-- A location as an absolute path. -/
def absolutePath (location : Location) : String :=
  "/" ++ "/".intercalate location

/-- The bytes of a file. -/
def readBytes (tree : FileTree) (path : String) : Except FileError ByteArray := do
  match ← tree.lookup path with
  | .directory => .error .isDirectory
  | .file content => .ok content

/-- The text of a file. -/
def readText (tree : FileTree) (path : String) : Except FileError String := do
  let content ← tree.readBytes path
  match String.fromUTF8? content with
  | none => .error .notText
  | some text => .ok text

/-- Makes the directories that are missing on the way. -/
def createFrom (tree : FileTree) (current : Location) :
    List String → Except FileError Unit × FileTree
  | [] => (.ok (), tree)
  | piece :: rest =>
    match tree.step current piece with
    | .error cause => (.error cause, tree)
    | .ok next =>
      match tree.entryAt? next with
      | none => createFrom (tree.put next .directory) next rest
      | some .directory => createFrom tree next rest
      | some (.file _) => (.error (if rest.all String.isEmpty then .alreadyExists else .notDirectory), tree)

/-- Makes a directory and all directories above it. -/
def createDirectories (tree : FileTree) (path : String) : Except FileError Unit × FileTree :=
  if path.isEmpty then (.ok (), tree)
  else tree.createFrom (tree.startOf path) (piecesOf path)

/-- Writes a file whose directory is there. -/
def writeFile (tree : FileTree) (path : String) (content : ByteArray) :
    Except FileError Unit × FileTree :=
  match tree.locate path with
  | .error cause => (.error cause, tree)
  | .ok location =>
    match tree.entryAt? location, tree.entryAt? location.dropLast with
    | some .directory, _ => (.error .isDirectory, tree)
    | _, none => (.error .notFound, tree)
    | _, some (.file _) => (.error .notDirectory, tree)
    | _, some .directory => (.ok (), tree.put location (.file content))

/-- Moves a file over another one, or to a place that is free. -/
def renameFile (tree : FileTree) (source target : String) : Except FileError Unit × FileTree :=
  match tree.readBytes source, tree.locate source with
  | .ok content, .ok start =>
    match (tree.erase start).writeFile target content with
    | (.ok (), moved) => (.ok (), moved)
    | (.error cause, _) => (.error cause, tree)
  | .error cause, _ => (.error cause, tree)
  | _, .error cause => (.error cause, tree)

/-- Takes a file away. -/
def removeFile (tree : FileTree) (path : String) : Except FileError Unit × FileTree :=
  match tree.lookup path, tree.locate path with
  | .ok (.file _), .ok location => (.ok (), tree.erase location)
  | .ok .directory, _ => (.error .isDirectory, tree)
  | .error cause, _ => (.error cause, tree)
  | _, .error cause => (.error cause, tree)

/-- Takes away an entry and everything below it. -/
def removeAll (tree : FileTree) (location : Location) : FileTree :=
  { tree with entries := tree.entries.filter fun entry => !location.isPrefixOf entry.1 }

/-- Takes away a directory that has no entries. -/
def removeDirectory (tree : FileTree) (location : Location) : FileTree :=
  if (tree.childrenOf location).isEmpty then tree.erase location else tree

end FileTree

end Lintel
