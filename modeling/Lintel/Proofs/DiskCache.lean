import Lintel.Cache
import Lintel.Proofs.CacheEntry
import Lintel.Proofs.FileTree
import Mathlib.Data.List.Find

/-!
# The cache on disk answers like one in memory

What a load and a store do at the locations of a file tree. Digests only choose the file: a result is
handed out under the very key it was stored under, so a history of stores and loads is answered as in
memory unless two of its keys share a digest, and then results are missing but never wrong.
-/

set_option autoImplicit false

namespace Lintel

/-! ## File names of the cache -/

namespace Digest

/-- The hexadecimal digits of a digest. -/
def digits : List Char := "0123456789abcdef".toList

theorem hexDigit_mem_digits : ∀ value < 16, hexDigit value ∈ digits := by decide

theorem mem_digits_of_mem_hexWord {word : UInt32} {c : Char} (member : c ∈ hexWord word) : c ∈ digits := by
  simp only [hexWord, List.mem_map] at member
  obtain ⟨_, _, rfl⟩ := member
  exact hexDigit_mem_digits _ (Nat.mod_lt _ (by decide))

theorem mem_digits_of_mem_sha256 {message : List UInt8} {c : Char} (member : c ∈ (sha256 message).toList) :
    c ∈ digits := by
  simp only [sha256, String.toList_ofList, List.mem_flatMap] at member
  obtain ⟨_, _, digit⟩ := member
  exact mem_digits_of_mem_hexWord digit

theorem length_sha256 (message : List UInt8) : (sha256 message).toList.length = 64 := by
  simp [sha256, hexWord]

end Digest

namespace CacheKey

theorem mem_digits_of_mem_digest {key : CacheKey} {c : Char} (member : c ∈ key.digest.toList) :
    c ∈ Digest.digits :=
  Digest.mem_digits_of_mem_sha256 member

theorem length_digest (key : CacheKey) : key.digest.toList.length = 64 :=
  Digest.length_sha256 _

end CacheKey

namespace FileTree

theorem plainName_of_mem {name : String} {c : Char} (member : c ∈ name.toList) (notDot : c ≠ '.')
    (noSlash : '/' ∉ name.toList) : PlainName name where
  nonempty := by
    rintro rfl
    cases member
  notCurrent := by
    rintro rfl
    exact notDot (List.mem_singleton.mp member)
  notParent := by
    rintro rfl
    rcases List.mem_cons.mp member with same | member
    · exact notDot same
    · exact notDot (List.mem_singleton.mp member)
  noSlash := noSlash

end FileTree

namespace DiskCache

/-- The directory that holds the entry of a digest, below the root of the cache. -/
def shardName (digest : String) : String := String.ofList (digest.toList.take 2)

/-- The file of a digest in its directory. -/
def entryName (digest : String) : String := digest ++ ".json"

/-- The file to which an entry is written first, in the same directory. -/
def temporaryName (cache : DiskCache) (digest : String) : String :=
  s!"{digest}.{cache.processId}.{cache.stores}.tmp"

private theorem slash_not_digit : '/' ∉ Digest.digits := by decide

private theorem dot_not_digit : '.' ∉ Digest.digits := by decide

theorem plainName_shardName (key : CacheKey) : FileTree.PlainName (shardName key.digest) := by
  have long := key.length_digest
  have inside : ∀ c ∈ (shardName key.digest).toList, c ∈ Digest.digits := by
    intro c member
    rw [shardName, String.toList_ofList] at member
    exact CacheKey.mem_digits_of_mem_digest (List.mem_of_mem_take member)
  cases digits : key.digest.toList with
  | nil => rw [digits] at long; cases long
  | cons first more =>
    have member : first ∈ (shardName key.digest).toList := by simp [shardName, digits]
    refine FileTree.plainName_of_mem member ?_ fun slash => slash_not_digit (inside _ slash)
    rintro rfl
    exact dot_not_digit (inside _ member)

theorem plainName_entryName (key : CacheKey) : FileTree.PlainName (entryName key.digest) := by
  refine FileTree.plainName_of_mem (c := 'j') (by simp [entryName]) (by decide) ?_
  rw [entryName, String.toList_append, List.mem_append]
  rintro (slash | slash)
  · exact slash_not_digit (CacheKey.mem_digits_of_mem_digest slash)
  · revert slash
    decide

private theorem slash_not_mem_toString (value : Nat) : '/' ∉ (toString value).toList := by
  intro slash
  have digit := Nat.isDigit_of_mem_toDigits (b := 10) (by decide) (by decide)
    (show '/' ∈ Nat.toDigits 10 value by simpa [Nat.repr] using slash)
  cases digit

private theorem temporaryName_toList (cache : DiskCache) (digest : String) :
    (cache.temporaryName digest).toList = digest.toList ++ '.' :: ((toString cache.processId).toList ++
      '.' :: ((toString cache.stores).toList ++ ['.', 't', 'm', 'p'])) := by
  have same : ∀ text : String, toString text = text := fun _ => rfl
  simp [temporaryName, String.toList_append, same]

theorem plainName_temporaryName (cache : DiskCache) (key : CacheKey) :
    FileTree.PlainName (cache.temporaryName key.digest) := by
  refine FileTree.plainName_of_mem (c := 't') (by simp [temporaryName_toList]) (by decide) ?_
  rw [temporaryName_toList]
  simp only [List.mem_append, List.mem_cons, not_or]
  refine ⟨fun slash => slash_not_digit (CacheKey.mem_digits_of_mem_digest slash), by decide,
    slash_not_mem_toString _, by decide, slash_not_mem_toString _, ?_⟩
  decide

theorem entryName_ne_temporaryName (cache : DiskCache) (digest other : String) :
    entryName digest ≠ cache.temporaryName other := by
  intro same
  have ends := congrArg (fun name => name.toList.reverse.head?) same
  simp [entryName, temporaryName_toList, String.toList_append] at ends

theorem entryName_inj {digest other : String} (same : entryName digest = entryName other) :
    digest = other := by
  have texts := congrArg String.toList same
  simp only [entryName, String.toList_append] at texts
  exact String.toList_inj.mp (List.append_cancel_right texts)

/-! ## Loads and stores at locations -/

-- digests are compared and taken apart, never computed
attribute [local irreducible] CacheKey.digest

/-- The location of the directory that holds the entry of a digest. -/
def shardPlace (root : Location) (digest : String) : Location := root ++ [shardName digest]

/-- The location of the entry of a digest. -/
def entryPlace (root : Location) (digest : String) : Location :=
  shardPlace root digest ++ [entryName digest]

/-- The location to which the entry of a digest is written first. -/
def temporaryPlace (cache : DiskCache) (root : Location) (digest : String) : Location :=
  shardPlace root digest ++ [cache.temporaryName digest]

variable {cache : DiskCache} {tree : FileTree}

theorem shardPath_eq (cache : DiskCache) (digest : String) :
    cache.shardPath digest = Path.join cache.directory (shardName digest) := rfl

theorem entryPath_eq (cache : DiskCache) (digest : String) :
    cache.entryPath digest = Path.join (cache.shardPath digest) (entryName digest) := rfl

theorem temporaryPath_eq (cache : DiskCache) (digest : String) :
    cache.temporaryPath digest = Path.join (cache.shardPath digest) (cache.temporaryName digest) := rfl

theorem placeOf_shardPath (cache : DiskCache) (tree : FileTree) (key : CacheKey) :
    tree.placeOf (cache.shardPath key.digest) = shardPlace (tree.placeOf cache.directory) key.digest :=
  tree.placeOf_join cache.directory (plainName_shardName key)

theorem placeOf_entryPath (cache : DiskCache) (tree : FileTree) (key : CacheKey) :
    tree.placeOf (cache.entryPath key.digest) = entryPlace (tree.placeOf cache.directory) key.digest := by
  rw [entryPlace, ← placeOf_shardPath cache tree key, entryPath_eq,
    tree.placeOf_join _ (plainName_entryName key)]

theorem placeOf_temporaryPath (cache : DiskCache) (tree : FileTree) (key : CacheKey) :
    tree.placeOf (cache.temporaryPath key.digest) =
      cache.temporaryPlace (tree.placeOf cache.directory) key.digest := by
  rw [temporaryPlace, ← placeOf_shardPath cache tree key, temporaryPath_eq,
    tree.placeOf_join _ (plainName_temporaryName cache key)]

theorem shardPlace_ne_entryPlace (root : Location) (digest other : String) :
    shardPlace root digest ≠ entryPlace root other := by
  simp [shardPlace, entryPlace]

theorem entryPlace_ne_temporaryPlace (cache : DiskCache) (root : Location) (digest other : String) :
    entryPlace root digest ≠ cache.temporaryPlace root other := by
  intro same
  have names := congrArg List.getLast? same
  simp only [entryPlace, temporaryPlace, List.getLast?_concat, Option.some.injEq] at names
  exact entryName_ne_temporaryName cache digest other names

theorem entryPlace_inj {root : Location} {digest other : String}
    (same : entryPlace root digest = entryPlace root other) : digest = other := by
  have names := congrArg List.getLast? same
  simp only [entryPlace, List.getLast?_concat, Option.some.injEq] at names
  exact entryName_inj names

theorem readBytes_entryPath {key : CacheKey} (isOpen : tree.IsOpen cache.directory)
    (shard : tree.entryAt? (shardPlace (tree.placeOf cache.directory) key.digest) = some .directory) :
    tree.readBytes (cache.entryPath key.digest) =
      FileTree.contentOf (tree.entryAt? (entryPlace (tree.placeOf cache.directory) key.digest)) := by
  have below : tree.IsOpen (cache.shardPath key.digest) := isOpen.join (plainName_shardName key) shard
  have read := below.readBytes_join (plainName_entryName key)
  rw [placeOf_shardPath, ← entryPlace] at read
  rw [entryPath_eq, read]

/-- A result is loaded from one location. What stands there and repeats another key counts as
missing. -/
theorem load_of_file {key : CacheKey} {content : ByteArray} {entry : CacheEntry}
    (isOpen : tree.IsOpen cache.directory)
    (shard : tree.entryAt? (shardPlace (tree.placeOf cache.directory) key.digest) = some .directory)
    (stored : tree.entryAt? (entryPlace (tree.placeOf cache.directory) key.digest) = some (.file content))
    (decoded : CacheEntry.decode? content = some entry) :
    cache.load tree key = .ok (if entry.key = key then some entry.diagnostics else none) := by
  have read := readBytes_entryPath isOpen shard
  rw [stored, FileTree.contentOf] at read
  unfold load
  dsimp only
  rw [read]
  dsimp only
  rw [decoded]

theorem load_of_missing {key : CacheKey} (isOpen : tree.IsOpen cache.directory)
    (shard : tree.entryAt? (shardPlace (tree.placeOf cache.directory) key.digest) = none ∨
      tree.entryAt? (shardPlace (tree.placeOf cache.directory) key.digest) = some .directory)
    (missing : tree.entryAt? (entryPlace (tree.placeOf cache.directory) key.digest) = none) :
    cache.load tree key = .ok none := by
  have read : tree.readBytes (cache.entryPath key.digest) = .error .notFound := by
    rcases shard with absent | directory
    · exact isOpen.readBytes_below_missing (plainName_shardName key) (plainName_entryName key) absent
    · rw [readBytes_entryPath isOpen directory, missing, FileTree.contentOf]
  unfold load
  dsimp only
  rw [read]

/-- A file that is written in an open directory and moved in it stands in its place alone. -/
theorem replaceFile_eq {directory temporary name : String} (content : ByteArray)
    (isOpen : tree.IsOpen directory) (plain : FileTree.PlainName name)
    (plainTemporary : FileTree.PlainName temporary) (different : name ≠ temporary)
    (free : tree.entryAt? (tree.placeOf directory ++ [name]) ≠ some .directory)
    (freeTemporary : tree.entryAt? (tree.placeOf directory ++ [temporary]) ≠ some .directory) :
    ∃ after, replaceFile tree (Path.join directory temporary) (Path.join directory name) content =
        (.ok (), after) ∧ after.workingDirectory = tree.workingDirectory ∧
      ∀ place, after.entryAt? place =
        if place = tree.placeOf directory ++ [name] then some (.file content)
        else if place = tree.placeOf directory ++ [temporary] then none
        else tree.entryAt? place := by
  obtain ⟨target, isTarget⟩ : ∃ target, target = tree.placeOf directory ++ [name] := ⟨_, rfl⟩
  obtain ⟨start, isStart⟩ : ∃ start, start = tree.placeOf directory ++ [temporary] := ⟨_, rfl⟩
  obtain ⟨written, isWritten⟩ : ∃ written, written = tree.put start (.file content) := ⟨_, rfl⟩
  obtain ⟨erased, isErased⟩ : ∃ erased, erased = written.erase start := ⟨_, rfl⟩
  rw [← isTarget] at free
  rw [← isStart] at freeTemporary
  have properStart : start ≠ [] := by simp [isStart]
  have properTarget : target ≠ [] := by simp [isTarget]
  have elsewhere : target ≠ start := by simp [isTarget, isStart, different]
  have writtenAt : ∀ place, written.entryAt? place =
      if place = start then some (.file content) else tree.entryAt? place :=
    fun place => isWritten ▸ tree.entryAt?_put properStart (.file content) place
  have erasedAt : ∀ place, erased.entryAt? place =
      if place = start then none else tree.entryAt? place := by
    intro place
    rw [isErased, written.entryAt?_erase properStart, writtenAt]
    split <;> rfl
  have notStart : ∀ place, tree.entryAt? place = some .directory → place ≠ start := by
    rintro place isDirectory rfl
    exact freeTemporary isDirectory
  have writtenHome : written.workingDirectory = tree.workingDirectory := by rw [isWritten]; rfl
  have erasedHome : erased.workingDirectory = tree.workingDirectory := by rw [isErased, ← writtenHome]; rfl
  have writtenOpen : written.IsOpen directory := by
    refine isOpen.of_keeps writtenHome fun place isDirectory => ?_
    rw [writtenAt, if_neg (notStart place isDirectory), isDirectory]
  have erasedOpen : erased.IsOpen directory := by
    refine isOpen.of_keeps erasedHome fun place isDirectory => ?_
    rw [erasedAt, if_neg (notStart place isDirectory), isDirectory]
  have writes := isOpen.writeFile_join plainTemporary (isStart ▸ freeTemporary) content
  have reads := writtenOpen.readBytes_join plainTemporary
  have located := writtenOpen.locate_join plainTemporary
  have moves := erasedOpen.writeFile_join plain
    (by rw [FileTree.placeOf_congr erasedHome, ← isTarget, erasedAt, if_neg elsewhere]; exact free) content
  rw [← isStart, ← isWritten] at writes
  rw [FileTree.placeOf_congr writtenHome, ← isStart, writtenAt, if_pos rfl, FileTree.contentOf] at reads
  rw [FileTree.placeOf_congr writtenHome, ← isStart] at located
  rw [FileTree.placeOf_congr erasedHome, ← isTarget] at moves
  refine ⟨erased.put target (.file content), ?_, erasedHome, ?_⟩
  · simp only [replaceFile, writes, FileTree.renameFile, reads, located, ← isErased, moves]
  · intro place
    rw [erased.entryAt?_put properTarget, erasedAt, ← isTarget, ← isStart]

theorem createDirectories_shardPath {key : CacheKey} (isOpen : tree.IsOpen cache.directory)
    (shard : tree.entryAt? (shardPlace (tree.placeOf cache.directory) key.digest) = none ∨
      tree.entryAt? (shardPlace (tree.placeOf cache.directory) key.digest) = some .directory) :
    ∃ made, tree.createDirectories (cache.shardPath key.digest) = (.ok (), made) ∧
      made.workingDirectory = tree.workingDirectory ∧
      ∀ place, made.entryAt? place =
        if place = shardPlace (tree.placeOf cache.directory) key.digest then some .directory
        else tree.entryAt? place := by
  have created := FileTree.createDirectories_join isOpen (plainName_shardName key)
  rw [← shardPlace] at created
  rw [shardPath_eq]
  rcases shard with absent | directory
  · rw [absent] at created
    refine ⟨_, created, rfl, fun place => ?_⟩
    rw [FileTree.entryAt?_put]
    simp [shardPlace]
  · rw [directory] at created
    refine ⟨_, created, rfl, fun place => ?_⟩
    split
    · rename_i same
      rw [same, directory]
    · rfl

theorem store_of_steps {key : CacheKey} {diagnostics : List Diagnostic} {made after : FileTree}
    (created : tree.createDirectories (cache.shardPath key.digest) = (.ok (), made))
    (replaced : replaceFile made (cache.temporaryPath key.digest) (cache.entryPath key.digest)
      (CacheEntry.encode ⟨key, diagnostics⟩) = (.ok (), after)) :
    cache.store tree key diagnostics = (.ok (), { cache with stores := cache.stores + 1 }, after) := by
  unfold store
  dsimp only
  rw [created]
  dsimp only
  rw [replaced]

/-- A store succeeds where no directory stands in the way. It leaves the entry, its directory, and no
file that it wrote first. -/
theorem store_eq {key : CacheKey} (diagnostics : List Diagnostic) {root : Location}
    (isOpen : tree.IsOpen cache.directory) (isRoot : tree.placeOf cache.directory = root)
    (shard : tree.entryAt? (shardPlace root key.digest) = none ∨
      tree.entryAt? (shardPlace root key.digest) = some .directory)
    (free : tree.entryAt? (entryPlace root key.digest) ≠ some .directory)
    (freeTemporary : tree.entryAt? (cache.temporaryPlace root key.digest) ≠ some .directory) :
    ∃ after, cache.store tree key diagnostics =
        (.ok (), { cache with stores := cache.stores + 1 }, after) ∧
      after.workingDirectory = tree.workingDirectory ∧
      ∀ place, after.entryAt? place =
        if place = entryPlace root key.digest then some (.file (CacheEntry.encode ⟨key, diagnostics⟩))
        else if place = cache.temporaryPlace root key.digest then none
        else if place = shardPlace root key.digest then some .directory
        else tree.entryAt? place := by
  subst isRoot
  obtain ⟨made, created, home, madeAt⟩ := createDirectories_shardPath isOpen shard
  have notShard : ∀ name : String, shardPlace (tree.placeOf cache.directory) key.digest ++ [name] ≠
      shardPlace (tree.placeOf cache.directory) key.digest := by
    intro name same
    simp at same
  have madeOpen : made.IsOpen cache.directory := by
    refine isOpen.of_keeps home fun place isDirectory => ?_
    rw [madeAt]
    split
    · rfl
    · exact isDirectory
  have sameRoot : made.placeOf cache.directory = tree.placeOf cache.directory :=
    FileTree.placeOf_congr home cache.directory
  have shardMade : made.entryAt? (shardPlace (made.placeOf cache.directory) key.digest) =
      some .directory := by
    rw [sameRoot, madeAt, if_pos rfl]
  have shardOpen : made.IsOpen (cache.shardPath key.digest) :=
    madeOpen.join (plainName_shardName key) shardMade
  have shardRoot : made.placeOf (cache.shardPath key.digest) =
      shardPlace (tree.placeOf cache.directory) key.digest := by
    rw [placeOf_shardPath, sameRoot]
  obtain ⟨after, replaced, afterHome, afterAt⟩ := replaceFile_eq (CacheEntry.encode ⟨key, diagnostics⟩)
    shardOpen (plainName_entryName key) (plainName_temporaryName cache key)
    (entryName_ne_temporaryName cache key.digest key.digest)
    (by rw [shardRoot, madeAt, if_neg (notShard _)]; exact free)
    (by rw [shardRoot, madeAt, if_neg (notShard _)]; exact freeTemporary)
  rw [shardRoot] at afterAt
  refine ⟨after, store_of_steps created replaced, afterHome.trans home, fun place => ?_⟩
  rw [afterAt, madeAt, entryPlace, temporaryPlace]

/-! ## Histories of stores -/

/-- Of stored results, the newest first, the latest one with a digest. -/
def latest (digest : String) (past : List CacheEntry) : Option CacheEntry :=
  past.find? fun entry => entry.key.digest = digest

/-- Below the root of a cache a tree holds the latest stored result of each digest and no other file. -/
structure Reflects (cache : DiskCache) (tree : FileTree) (past : List CacheEntry) : Prop where
  isOpen : tree.IsOpen cache.directory
  shards : ∀ name, tree.entryAt? (tree.placeOf cache.directory ++ [name]) = none ∨
    tree.entryAt? (tree.placeOf cache.directory ++ [name]) = some .directory
  noDirectory : ∀ shard name,
    tree.entryAt? (tree.placeOf cache.directory ++ [shard] ++ [name]) ≠ some .directory
  entries : ∀ key : CacheKey, tree.entryAt? (entryPlace (tree.placeOf cache.directory) key.digest) =
    (latest key.digest past).map fun entry => .file entry.encode
  homes : ∀ entry ∈ past,
    tree.entryAt? (shardPlace (tree.placeOf cache.directory) entry.key.digest) = some .directory

namespace Reflects

variable {past : List CacheEntry}

/-- A load gives the latest result of its digest, if that result was stored under the very key. -/
theorem load_eq (reflects : cache.Reflects tree past) (fits : ∀ entry ∈ past, entry.Fits)
    (key : CacheKey) :
    cache.load tree key = .ok ((latest key.digest past).bind fun entry =>
      if entry.key = key then some entry.diagnostics else none) := by
  have stored := reflects.entries key
  cases found : latest key.digest past with
  | none =>
    rw [found] at stored
    exact load_of_missing reflects.isOpen (reflects.shards _) stored
  | some entry =>
    rw [found] at stored
    have member := List.mem_of_find?_eq_some found
    have sameDigest : entry.key.digest = key.digest := by
      simpa using List.find?_some found
    have shard := reflects.homes entry member
    rw [sameDigest] at shard
    exact load_of_file reflects.isOpen shard stored (entry.decode?_encode (fits entry member))

/-- Where digests tell the keys apart, a load gives the latest result of its key. -/
theorem load_eq_find (reflects : cache.Reflects tree past) (fits : ∀ entry ∈ past, entry.Fits)
    {key : CacheKey} (distinct : ∀ entry ∈ past, entry.key.digest = key.digest → entry.key = key) :
    cache.load tree key =
      .ok ((past.find? fun entry => entry.key = key).map CacheEntry.diagnostics) := by
  have byKey : past.find? (fun entry => entry.key = key) = latest key.digest past := by
    refine List.find?_congr fun entry member => ?_
    by_cases same : entry.key = key
    · simp [same]
    · simp [same, mt (distinct entry member) same]
  rw [reflects.load_eq fits, byKey]
  cases found : latest key.digest past with
  | none => rfl
  | some entry =>
    have same : entry.key = key := by
      rw [← byKey] at found
      simpa using List.find?_some found
    simp [same]

/-- A store succeeds and becomes the latest of its digest. -/
theorem store_eq (reflects : cache.Reflects tree past) (key : CacheKey) (diagnostics : List Diagnostic) :
    ∃ after, cache.store tree key diagnostics =
        (.ok (), { cache with stores := cache.stores + 1 }, after) ∧
      Reflects { cache with stores := cache.stores + 1 } after (⟨key, diagnostics⟩ :: past) := by
  obtain ⟨after, stored, home, afterAt⟩ := DiskCache.store_eq diagnostics
    reflects.isOpen rfl (reflects.shards _) (reflects.noDirectory _ _) (reflects.noDirectory _ _)
  refine ⟨after, stored, ?_⟩
  have sameRoot : after.placeOf cache.directory = tree.placeOf cache.directory :=
    FileTree.placeOf_congr home cache.directory
  have keepsDirectory : ∀ place, tree.entryAt? place = some .directory →
      after.entryAt? place = some .directory := by
    intro place directory
    rw [afterAt, if_neg, if_neg]
    · split
      · rfl
      · exact directory
    · rintro rfl
      exact reflects.noDirectory _ _ directory
    · rintro rfl
      exact reflects.noDirectory _ _ directory
  constructor
  case isOpen => exact reflects.isOpen.of_keeps home keepsDirectory
  case shards =>
    intro name
    rw [sameRoot, afterAt, if_neg (by simp [entryPlace, shardPlace]),
      if_neg (by simp [temporaryPlace, shardPlace])]
    split
    · exact .inr rfl
    · exact reflects.shards name
  case noDirectory =>
    intro shard name
    rw [sameRoot, afterAt]
    split
    · simp
    · split
      · simp
      · rw [if_neg (by simp [shardPlace])]
        exact reflects.noDirectory shard name
  case entries =>
    intro other
    rw [sameRoot, afterAt, latest, List.find?_cons]
    by_cases same : key.digest = other.digest
    · simp [same]
    · have different : entryPlace (tree.placeOf cache.directory) other.digest ≠
          entryPlace (tree.placeOf cache.directory) key.digest :=
        fun equal => same (entryPlace_inj equal).symm
      rw [if_neg different, if_neg (entryPlace_ne_temporaryPlace cache _ _ _),
        if_neg (shardPlace_ne_entryPlace _ _ _).symm, reflects.entries other]
      simp [same, latest]
  case homes =>
    intro entry member
    rw [sameRoot]
    rcases List.mem_cons.mp member with rfl | earlier
    · rw [afterAt, if_neg (shardPlace_ne_entryPlace _ _ _), if_neg (by simp [temporaryPlace]), if_pos rfl]
    · exact keepsDirectory _ (reflects.homes entry earlier)

end Reflects

/-- What opening a cache leaves: the cache at the directory, which is open or the empty path. -/
theorem openAt_eq_ok {start : FileTree} {directory : String} {processId : Nat}
    (opened : openAt tree directory processId = (.ok cache, start)) :
    cache.directory = directory ∧ (directory ≠ "" → start.IsOpen directory) := by
  rw [openAt] at opened
  split at opened
  · rename_i made created
    cases opened
    exact ⟨rfl, fun nonempty => FileTree.isOpen_of_createDirectories nonempty created⟩
  · cases opened

/-- A cache that was opened on an empty directory holds nothing. -/
theorem reflects_of_openAt {start : FileTree} {directory : String} {processId : Nat}
    (opened : openAt tree directory processId = (.ok cache, start))
    (isDirectory : start.entryAt? (start.placeOf directory) = some .directory)
    (empty : ∀ name names, start.entryAt? (start.placeOf directory ++ name :: names) = none) :
    cache.Reflects start [] := by
  obtain ⟨rfl, openUnlessEmpty⟩ := openAt_eq_ok opened
  constructor
  case isOpen =>
    by_cases nonempty : cache.directory = ""
    · rw [nonempty] at isDirectory ⊢
      exact FileTree.isOpen_empty isDirectory
    · exact openUnlessEmpty nonempty
  case shards => exact fun name => .inl (empty name [])
  case noDirectory =>
    intro shard name
    rw [List.append_assoc, List.singleton_append, empty]
    exact (Option.some_ne_none _).symm
  case entries =>
    intro key
    rw [entryPlace, shardPlace, List.append_assoc, List.singleton_append, empty]
    rfl
  case homes => exact fun _ member => absurd member List.not_mem_nil

end DiskCache

/-! ## Histories of stores and loads -/

namespace MemoryCache

theorem load_store (cache : MemoryCache) (key : CacheKey) (diagnostics : List Diagnostic)
    (other : CacheKey) :
    (cache.store key diagnostics).load other =
      if key = other then some diagnostics else cache.load other := by
  rw [load, store, List.find?_cons]
  by_cases same : key = other
  · simp [same]
  · simp only [same, decide_false, if_false, List.find?_filter]
    rw [load]
    congr 2
    funext entry
    by_cases here : entry.1 = other
    · simp [here, Ne.symm same]
    · simp [here]

end MemoryCache

namespace CacheStore

/-- What can be asked of a store. -/
inductive Operation where
  | store (key : CacheKey) (diagnostics : List Diagnostic)
  | load (key : CacheKey)

/-- What a store answers. -/
inductive Answer where
  | stored (result : Except CacheError Unit)
  | loaded (result : Except CacheError (Option (List Diagnostic)))

def Operation.key : Operation → CacheKey
  | store key _ => key
  | load key => key

/-- The lines and columns of stored diagnostics are numbers below 2 ^ 64. -/
def Operation.Fits : Operation → Prop
  | store _ diagnostics => ∀ diagnostic ∈ diagnostics, diagnostic.span.Fits
  | load _ => True

/-- The result that an operation stores. -/
def Operation.entry? : Operation → Option CacheEntry
  | store key diagnostics => some ⟨key, diagnostics⟩
  | load _ => none

/-- Carries out one operation. -/
def perform (target : CacheStore) (tree : FileTree) : Operation → Answer × CacheStore × FileTree
  | .store key diagnostics =>
    let (result, target, tree) := target.store tree key diagnostics
    (.stored result, target, tree)
  | .load key => (.loaded (target.load tree key), target, tree)

/-- Carries out operations one after another. -/
def performAll (target : CacheStore) (tree : FileTree) :
    List Operation → List Answer × CacheStore × FileTree
  | [] => ([], target, tree)
  | operation :: operations =>
    let (answer, target, tree) := target.perform tree operation
    let (answers, target, tree) := performAll target tree operations
    (answer :: answers, target, tree)

/-- The results that operations store, the newest first. -/
def storedBy (operations : List Operation) : List CacheEntry :=
  operations.reverse.filterMap Operation.entry?

/-- The last store under a key left these diagnostics. -/
def LastStored (key : CacheKey) (diagnostics : List Diagnostic) (operations : List Operation) : Prop :=
  ∃ before after, operations = before ++ .store key diagnostics :: after ∧
    ∀ later, .store key later ∉ after

/-- After the last store under a key, a result was stored under another key with its digest. -/
def Displaced (key : CacheKey) (operations : List Operation) : Prop :=
  ∃ before diagnostics after, operations = before ++ .store key diagnostics :: after ∧
    (∀ later, .store key later ∉ after) ∧
    ∃ other others, .store other others ∈ after ∧ other ≠ key ∧ other.digest = key.digest

private theorem exists_last {operations : List Operation} (kind : Operation → Bool)
    (some_kind : ∃ operation ∈ operations, kind operation = true) :
    ∃ before operation after, operations = before ++ operation :: after ∧ kind operation = true ∧
      ∀ later ∈ after, kind later = false := by
  obtain ⟨operation, member, holds⟩ := some_kind
  cases found : operations.reverse.find? kind with
  | none => exact absurd holds (List.find?_eq_none.mp found operation (List.mem_reverse.mpr member))
  | some last =>
    obtain ⟨lastHolds, newer, older, split, none_newer⟩ := List.find?_eq_some_iff_append.mp found
    refine ⟨older.reverse, last, newer.reverse, ?_, lastHolds, ?_⟩
    · rw [← List.reverse_reverse operations, split]
      simp
    · intro later laterMember
      simpa using none_newer later (List.mem_reverse.mp laterMember)

private theorem latest_storedBy_none {operations : List Operation} {key : CacheKey}
    (none_latest : DiskCache.latest key.digest (storedBy operations) = none) (diagnostics : List Diagnostic) :
    .store key diagnostics ∉ operations := by
  intro member
  have stored : (⟨key, diagnostics⟩ : CacheEntry) ∈ storedBy operations :=
    List.mem_filterMap.mpr ⟨_, List.mem_reverse.mpr member, rfl⟩
  simpa using List.find?_eq_none.mp none_latest _ stored

private theorem latest_storedBy_some {operations : List Operation} {digest : String} {entry : CacheEntry}
    (found : DiskCache.latest digest (storedBy operations) = some entry) :
    ∃ before after, operations = before ++ .store entry.key entry.diagnostics :: after ∧
      entry.key.digest = digest ∧ ∀ key diagnostics, .store key diagnostics ∈ after → key.digest ≠ digest := by
  rw [DiskCache.latest, storedBy, List.find?_filterMap, Option.bind_eq_some_iff] at found
  obtain ⟨operation, last, isEntry⟩ := found
  obtain ⟨holds, newer, older, split, none_newer⟩ := List.find?_eq_some_iff_append.mp last
  cases operation with
  | load key => cases isEntry
  | store key diagnostics =>
    cases isEntry
    refine ⟨older.reverse, newer.reverse, ?_, by simpa [Operation.entry?] using holds, ?_⟩
    · rw [← List.reverse_reverse operations, split]
      simp
    · intro other others member
      simpa [Operation.entry?] using none_newer _ (List.mem_reverse.mp member)

private theorem displaced_of_split {operations before after : List Operation} {key other : CacheKey}
    {diagnostics : List Diagnostic} (split : operations = before ++ .store other diagnostics :: after)
    (different : other ≠ key) (sameDigest : other.digest = key.digest)
    (stored : ∃ diagnostics, .store key diagnostics ∈ operations)
    (none_after : ∀ later, .store key later ∉ after) : Displaced key operations := by
  obtain ⟨earlier, member⟩ := stored
  have storedBefore : Operation.store key earlier ∈ before := by
    rw [split, List.mem_append, List.mem_cons] at member
    rcases member with inside | same | inside
    · exact inside
    · cases same
      exact absurd rfl different
    · exact absurd inside (none_after earlier)
  obtain ⟨front, last, middle, splitBefore, isStore, none_middle⟩ :=
    exists_last (fun operation => operation.entry?.any fun entry => entry.key = key)
      ⟨_, storedBefore, by simp [Operation.entry?]⟩
  cases last with
  | load loaded => cases isStore
  | store lastKey lastDiagnostics =>
    obtain rfl : lastKey = key := by simpa [Operation.entry?] using isStore
    refine ⟨front, lastDiagnostics, middle ++ .store other diagnostics :: after, ?_, ?_, other,
      diagnostics, by simp, different, sameDigest⟩
    · rw [split, splitBefore]
      simp
    · intro later laterMember
      rw [List.mem_append, List.mem_cons] at laterMember
      rcases laterMember with inside | same | inside
      · simpa [Operation.entry?] using none_middle _ inside
      · cases same
        exact different rfl
      · exact none_after later inside

theorem fits_storedBy {operations : List Operation} (fits : ∀ operation ∈ operations, operation.Fits) :
    ∀ entry ∈ storedBy operations, entry.Fits := by
  intro entry member
  obtain ⟨operation, performed, isEntry⟩ := List.mem_filterMap.mp member
  cases operation with
  | load key => cases isEntry
  | store key diagnostics =>
    cases isEntry
    exact fits _ (List.mem_reverse.mp performed)

theorem storedBy_store (key : CacheKey) (diagnostics : List Diagnostic) (operations : List Operation)
    (past : List CacheEntry) :
    storedBy (.store key diagnostics :: operations) ++ past =
      storedBy operations ++ ⟨key, diagnostics⟩ :: past := by
  simp [storedBy, Operation.entry?]

theorem storedBy_load (key : CacheKey) (operations : List Operation) :
    storedBy (.load key :: operations) = storedBy operations := by
  simp [storedBy, Operation.entry?]

section Run

variable {cache : DiskCache} {tree : FileTree} {past : List CacheEntry}

theorem perform_store_disk (reflects : cache.Reflects tree past) (key : CacheKey)
    (diagnostics : List Diagnostic) :
    ∃ next after, perform (.disk cache) tree (.store key diagnostics) =
        (.stored (.ok ()), .disk next, after) ∧ next.Reflects after (⟨key, diagnostics⟩ :: past) := by
  obtain ⟨after, stored, reflected⟩ := reflects.store_eq key diagnostics
  refine ⟨_, after, ?_, reflected⟩
  simp only [perform, store, stored]

theorem performAll_disk (reflects : cache.Reflects tree past) (operations : List Operation) :
    ∃ last left, (performAll (.disk cache) tree operations).2 = (.disk last, left) ∧
      last.Reflects left (storedBy operations ++ past) := by
  induction operations generalizing cache tree past with
  | nil => exact ⟨cache, tree, rfl, reflects⟩
  | cons operation operations ih =>
    cases operation with
    | load key =>
      rw [storedBy_load]
      exact ih reflects
    | store key diagnostics =>
      obtain ⟨next, after, performed, reflected⟩ := perform_store_disk reflects key diagnostics
      rw [storedBy_store]
      simp only [performAll, performed]
      exact ih reflected

/-- Where digests tell the keys apart, a cache on disk answers like one in memory. -/
theorem answers_eq (memory : MemoryCache) {other : FileTree} (Used : CacheKey → Prop)
    (distinct : ∀ first second, Used first → Used second → first.digest = second.digest → first = second)
    (reflects : cache.Reflects tree past) (fitsPast : ∀ entry ∈ past, entry.Fits)
    (usedPast : ∀ entry ∈ past, Used entry.key)
    (agree : ∀ key, memory.load key =
      (past.find? fun entry => entry.key = key).map CacheEntry.diagnostics)
    (operations : List Operation) (fits : ∀ operation ∈ operations, operation.Fits)
    (used : ∀ operation ∈ operations, Used operation.key) :
    (performAll (.disk cache) tree operations).1 = (performAll (.memory memory) other operations).1 := by
  induction operations generalizing cache tree past memory with
  | nil => rfl
  | cons operation operations ih =>
    have fitsLater := fun later member => fits later (List.mem_cons_of_mem _ member)
    have usedLater := fun later member => used later (List.mem_cons_of_mem _ member)
    cases operation with
    | load key =>
      have usedKey := used (.load key) List.mem_cons_self
      have here : cache.load tree key = .ok (memory.load key) := by
        rw [agree key]
        exact reflects.load_eq_find fitsPast fun entry member =>
          distinct entry.key key (usedPast entry member) usedKey
      have later := ih memory reflects fitsPast usedPast agree fitsLater usedLater
      simp only [performAll, perform, load, here, later]
    | store key diagnostics =>
      obtain ⟨next, after, performed, reflected⟩ := perform_store_disk reflects key diagnostics
      have later := ih (memory.store key diagnostics) reflected ?_ ?_ ?_ fitsLater usedLater
      · simp only [performAll, performed]
        rw [later]
        rfl
      · intro entry member
        rcases List.mem_cons.mp member with rfl | earlier
        · exact fits _ List.mem_cons_self
        · exact fitsPast entry earlier
      · intro entry member
        rcases List.mem_cons.mp member with rfl | earlier
        · exact used _ List.mem_cons_self
        · exact usedPast entry earlier
      · intro wanted
        rw [MemoryCache.load_store, agree wanted, List.find?_cons]
        by_cases same : key = wanted <;> simp [same]

end Run

/-- A cache on disk that was opened on an empty directory, after any stores and loads: every load
succeeds, a result that it gives is that of the last store under the very key, and a result is missing
only if none was stored or a key with the same digest displaced it. If digests tell apart the keys in
use, all answers are those of a cache in memory. -/
theorem disk_refines_memory {tree start : FileTree} {directory : String} {processId : Nat}
    {cache : DiskCache} (opened : DiskCache.openAt tree directory processId = (.ok cache, start))
    (isDirectory : start.entryAt? (start.placeOf directory) = some .directory)
    (empty : ∀ name names, start.entryAt? (start.placeOf directory ++ name :: names) = none)
    (operations : List Operation) (fits : ∀ operation ∈ operations, operation.Fits) :
    (∀ key, ∃ answer,
      (performAll (.disk cache) start operations).2.1.load
          (performAll (.disk cache) start operations).2.2 key = .ok answer ∧
        (∀ diagnostics, answer = some diagnostics → LastStored key diagnostics operations) ∧
        (answer = none → (∀ diagnostics, .store key diagnostics ∉ operations) ∨ Displaced key operations)) ∧
      ((∀ first ∈ operations, ∀ second ∈ operations,
          first.key.digest = second.key.digest → first.key = second.key) →
        (performAll (.disk cache) start operations).1 =
          (performAll (.memory .empty) start operations).1) := by
  have reflects := DiskCache.reflects_of_openAt opened isDirectory empty
  constructor
  · intro key
    obtain ⟨last, left, performed, reflected⟩ := performAll_disk reflects operations
    rw [List.append_nil] at reflected
    refine ⟨_, by rw [performed]; exact reflected.load_eq (fits_storedBy fits) key, ?_, ?_⟩
    · intro diagnostics given
      obtain ⟨entry, found, matched⟩ := Option.bind_eq_some_iff.mp given
      obtain ⟨before, after, split, _, none_after⟩ := latest_storedBy_some found
      obtain ⟨rfl, rfl⟩ : entry.key = key ∧ entry.diagnostics = diagnostics := by
        simpa using matched
      exact ⟨before, after, split, fun later member => none_after _ _ member rfl⟩
    · intro missing
      cases found : DiskCache.latest key.digest (storedBy operations) with
      | none => exact .inl (latest_storedBy_none found)
      | some entry =>
        have other : entry.key ≠ key := by
          intro same
          simp [found, same] at missing
        obtain ⟨before, after, split, sameDigest, none_after⟩ := latest_storedBy_some found
        by_cases stored : ∃ diagnostics, .store key diagnostics ∈ operations
        · exact .inr (displaced_of_split split other sameDigest stored fun later member =>
            none_after _ _ member rfl)
        · exact .inl fun diagnostics member => stored ⟨diagnostics, member⟩
  · intro distinct
    refine answers_eq .empty (fun key => ∃ operation ∈ operations, operation.key = key) ?_ reflects
      (fun _ member => absurd member List.not_mem_nil) (fun _ member => absurd member List.not_mem_nil)
      (fun _ => rfl) operations fits fun operation member => ⟨operation, member, rfl⟩
    rintro _ _ ⟨first, firstMember, rfl⟩ ⟨second, secondMember, rfl⟩ same
    exact distinct first firstMember second secondMember same

/-- Two keys whose texts, and so whose digests, are the same: the second store displaces the result of the
first, and a load of the first key finds nothing. -/
theorem disk_refines_memory_same_text :
    let opened : FileTree := ⟨[(["cache"], .directory)], []⟩
    let cache : DiskCache := ⟨"cache", 7, 0⟩
    let first : CacheKey := ⟨"a\x00b", "", "", ""⟩
    let second : CacheKey := ⟨"a", "b\x00", "", ""⟩
    let found : Diagnostic := ⟨"no-eval", "a", ⟨1, 1, 1, 5⟩, "\x00 \\ \"", .error⟩
    let operations : List Operation := [.store first [found], .load first, .store second []]
    DiskCache.openAt ⟨[], []⟩ "cache" 7 = (.ok cache, opened) ∧ first ≠ second ∧
      first.digest = second.digest ∧
      ∃ answer, (performAll (.disk cache) opened operations).2.1.load
          (performAll (.disk cache) opened operations).2.2 first = .ok answer ∧
        (∀ diagnostics, answer = some diagnostics → LastStored first diagnostics operations) ∧
        (answer = none → (∀ diagnostics, .store first diagnostics ∉ operations) ∨
          Displaced first operations) := by
  intro opened cache first second found operations
  have created : DiskCache.openAt ⟨[], []⟩ "cache" 7 = (.ok cache, opened) := rfl
  have place : opened.placeOf "cache" = ["cache"] := rfl
  refine ⟨created, by decide, congrArg Digest.sha256OfString (by decide), ?_⟩
  refine (disk_refines_memory created rfl (fun name names => ?_) operations ?_).1 first
  · rw [place]
    simp [FileTree.entryAt?, opened]
  · simp only [operations, List.forall_mem_cons, Operation.Fits, List.not_mem_nil]
    exact ⟨⟨⟨by decide, by decide, by decide, by decide⟩, by simp⟩, trivial, by simp, by simp⟩

end CacheStore

end Lintel
