import Lintel.Cache.Entry
import Lintel.FileTree

/-!
# The cache on disk

One file for each entry. The file of a digest stands in a directory named by the first two digits of the
digest. An entry is written to a file of its own first and then moved into place, so a reader finds
either the old entry or the new one.
-/

set_option autoImplicit false

namespace Lintel

/-- Why the cache fails. -/
inductive CacheError where
  | unavailable (path : String) (cause : FileError)
  | io (path : String) (cause : FileError)
  | corrupt (path : String)
deriving Repr, DecidableEq

/-- The message of an error. What is wrong with the text of an entry is left out. -/
def CacheError.message : CacheError → String
  | .unavailable path cause => s!"cache directory {path} is unavailable: {cause.message}"
  | .io path cause => s!"cache I/O error on {path}: {cause.message}"
  | .corrupt path => s!"corrupt cache entry {path}"

/-- A cache in a directory. The process and the number of stores so far make up the name of the file to
which an entry is written first. -/
structure DiskCache where
  directory : String
  processId : Nat
  stores : Nat
deriving Repr, DecidableEq

namespace DiskCache

/-- Opens the cache in a directory, which is made if it is missing. -/
def openAt (tree : FileTree) (directory : String) (processId : Nat) :
    Except CacheError DiskCache × FileTree :=
  match tree.createDirectories directory with
  | (.ok (), tree) => (.ok ⟨directory, processId, 0⟩, tree)
  | (.error cause, tree) => (.error (.unavailable directory cause), tree)

/-- The directory that holds the entry of a digest. -/
def shardPath (cache : DiskCache) (digest : String) : String :=
  Path.join cache.directory (String.ofList (digest.toList.take 2))

/-- The file of a digest. -/
def entryPath (cache : DiskCache) (digest : String) : String :=
  Path.join (cache.shardPath digest) (digest ++ ".json")

/-- The file to which an entry is written first. -/
def temporaryPath (cache : DiskCache) (digest : String) : String :=
  Path.join (cache.shardPath digest) s!"{digest}.{cache.processId}.{cache.stores}.tmp"

/-- The result stored under a key. An entry that repeats another key counts as missing. -/
def load (cache : DiskCache) (tree : FileTree) (key : CacheKey) :
    Except CacheError (Option (List Diagnostic)) :=
  let path := cache.entryPath key.digest
  match tree.readBytes path with
  | .error .notFound => .ok none
  | .error cause => .error (.io path cause)
  | .ok content =>
    match CacheEntry.decode? content with
    | none => .error (.corrupt path)
    | some entry => .ok (if entry.key = key then some entry.diagnostics else none)

/-- Writes a file and moves it into place. If one of the two fails, the written file is taken away. -/
def replaceFile (tree : FileTree) (temporary path : String) (content : ByteArray) :
    Except FileError Unit × FileTree :=
  match tree.writeFile temporary content with
  | (.error cause, tree) => (.error cause, (tree.removeFile temporary).2)
  | (.ok (), tree) =>
    match tree.renameFile temporary path with
    | (.ok (), tree) => (.ok (), tree)
    | (.error cause, tree) => (.error cause, (tree.removeFile temporary).2)

/-- Stores a result under a key. -/
def store (cache : DiskCache) (tree : FileTree) (key : CacheKey) (diagnostics : List Diagnostic) :
    Except CacheError Unit × DiskCache × FileTree :=
  let digest := key.digest
  let shard := cache.shardPath digest
  let path := cache.entryPath digest
  match tree.createDirectories shard with
  | (.error cause, tree) => (.error (.io shard cause), cache, tree)
  | (.ok (), tree) =>
    let content := CacheEntry.encode ⟨key, diagnostics⟩
    let next := { cache with stores := cache.stores + 1 }
    match replaceFile tree (cache.temporaryPath digest) path content with
    | (.ok (), tree) => (.ok (), next, tree)
    | (.error cause, tree) => (.error (.io path cause), next, tree)

def isHexDigit (c : Char) : Bool :=
  ('0' ≤ c && c ≤ '9') || ('a' ≤ c && c ≤ 'f')

/-- Whether a directory is named like one that holds entries: two hexadecimal digits. -/
def isShardName (name : String) : Bool :=
  name.toList.length = 2 && name.toList.all isHexDigit

/-- Whether a text is a number, in at least one digit. -/
def isNumber (text : List Char) : Bool :=
  !text.isEmpty && text.all Char.isDigit

/-- Whether a file name ends like that of an entry. -/
def isEntryEnding (ending : List Char) : Bool :=
  ending = ".json".toList

/-- Whether a file name ends like that of a file to which an entry is written first. -/
def isTemporaryEnding (ending : List Char) : Bool :=
  match Text.splitAll '.' ending with
  | [[], process, count, last] => isNumber process && isNumber count && last = "tmp".toList
  | _ => false

/-- Whether a file in a shard is named like a file of the cache: the digest, which begins like the
shard, and one of the two endings. -/
def isCacheFileName (shard name : String) : Bool :=
  let digest := name.toList.take 64
  let ending := name.toList.drop 64
  digest.length = 64 && digest.all isHexDigit && shard.toList.isPrefixOf digest
    && (isEntryEnding ending || isTemporaryEnding ending)

/-- Takes away what stands in a directory below the root of a cache if it is a file of the cache, and counts it
if it is an entry. -/
def clearFile (root : Location) (shard : String) (progress : Nat × FileTree) (child : String × FileEntry) :
    Nat × FileTree :=
  let (removed, tree) := progress
  let (name, entry) := child
  if entry.isFile && isShardName shard && isCacheFileName shard name then
    (if isEntryEnding (name.toList.drop 64) then removed + 1 else removed, tree.erase (root ++ [shard, name]))
  else (removed, tree)

/-- Takes the files of the cache away from a directory below its root, and then the directory itself if it is
named like one that holds entries and is empty. A file directly below the root is left alone. -/
def clearChild (root : Location) (progress : Nat × FileTree) (child : String × FileEntry) : Nat × FileTree :=
  let (shard, entry) := child
  match entry with
  | .file _ => progress
  | .directory =>
    let (removed, tree) := (progress.2.childrenOf (root ++ [shard])).foldl (clearFile root shard) progress
    (removed, if isShardName shard then tree.removeDirectory (root ++ [shard]) else tree)

/-- Empties the cache in a directory, one entry after another and contents before their directory. Gives the
number of entries that were taken away. Files that are not laid out like those of a cache stay. -/
def clear (tree : FileTree) (directory : String) : Nat × FileTree :=
  match tree.locationOf? directory with
  | none => (0, tree)
  | some root => (tree.childrenOf root).foldl (clearChild root) (0, tree)

end DiskCache

end Lintel
