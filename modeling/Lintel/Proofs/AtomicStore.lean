import Lintel.Proofs.CacheSoundness

/-!
# A store happens as a whole or not at all

A store that succeeds changes one file, the entry of its digest, which then holds what was stored. A store
that fails changes no file, whichever of its steps it is that fails. Neither leaves the file that it writes
first, so a cache never has more files than digests were stored.
-/

set_option autoImplicit false

namespace Lintel

namespace FileTree

theorem IsOpen.removeFile_join {tree : FileTree} {directory name : String} (isOpen : tree.IsOpen directory)
    (plain : PlainName name) {content : ByteArray}
    (isFile : tree.entryAt? (tree.placeOf directory ++ [name]) = some (.file content)) :
    tree.removeFile (Path.join directory name) = (.ok (), tree.erase (tree.placeOf directory ++ [name])) := by
  have looked : tree.lookup (Path.join directory name) = .ok (.file content) := by
    simp only [lookup, isOpen.locate_join plain, bind, Except.bind, isFile]
  rw [removeFile, looked, isOpen.locate_join plain]

theorem writeFile_of_directory {tree : FileTree} {path : String}
    (isDirectory : tree.entryAt? (tree.placeOf path) = some .directory) (content : ByteArray) :
    ∃ cause, tree.writeFile path content = (.error cause, tree) := by
  rcases tree.writeFile_cases path content with failed | ⟨notDirectory, -⟩
  · exact failed
  · exact absurd isDirectory notDirectory

theorem removeFile_of_no_file {tree : FileTree} {path : String} (noFile : tree.fileAt? (tree.placeOf path) = none) :
    (tree.removeFile path).2 = tree := by
  rcases tree.removeFile_cases path with unchanged | ⟨content, isFile, -⟩
  · exact unchanged
  · rw [fileAt?_eq_some_iff.mpr isFile] at noFile
    cases noFile

theorem entryAt?_erase_put {tree : FileTree} {place : Location} (proper : place ≠ [])
    (missing : tree.entryAt? place = none) (entry : FileEntry) (other : Location) :
    ((tree.put place entry).erase place).entryAt? other = tree.entryAt? other := by
  rw [entryAt?_erase _ proper, entryAt?_put _ proper]
  split
  · rename_i same
    rw [same, missing]
  · rfl

theorem IsOpen.put_of_missing {tree : FileTree} {directory : String} {place : Location}
    (isOpen : tree.IsOpen directory) (proper : place ≠ []) (missing : tree.entryAt? place = none)
    (entry : FileEntry) : (tree.put place entry).IsOpen directory := by
  refine isOpen.of_keeps rfl fun other isDirectory => ?_
  rw [tree.entryAt?_put proper, if_neg, isDirectory]
  rintro rfl
  rw [missing] at isDirectory
  cases isDirectory

end FileTree

namespace DiskCache

open FileTree (Grows fileAt?_of_directory fileAt?_congr fileAt?_eq_some_iff)

-- digests are compared and taken apart, never computed
attribute [local irreducible] CacheKey.digest

variable {cache : DiskCache} {tree : FileTree}

/-! ## Replacing a file -/

section Replace

variable {directory temporary name : String}

theorem replaceFile_of_blocked (content : ByteArray) (isOpen : tree.IsOpen directory)
    (plain : FileTree.PlainName name) (plainTemporary : FileTree.PlainName temporary)
    (missing : tree.entryAt? (tree.placeOf directory ++ [temporary]) = none)
    (blocked : tree.entryAt? (tree.placeOf directory ++ [name]) = some .directory) :
    ∃ cause after, replaceFile tree (Path.join directory temporary) (Path.join directory name) content =
        (.error cause, after) ∧ after.workingDirectory = tree.workingDirectory ∧
      ∀ place, after.entryAt? place = tree.entryAt? place := by
  obtain ⟨start, isStart⟩ : ∃ start, start = tree.placeOf directory ++ [temporary] := ⟨_, rfl⟩
  obtain ⟨written, isWritten⟩ : ∃ written, written = tree.put start (.file content) := ⟨_, rfl⟩
  have proper : start ≠ [] := by simp [isStart]
  rw [← isStart] at missing
  have writes : tree.writeFile (Path.join directory temporary) content = (.ok (), written) := by
    rw [isWritten, isStart]
    refine isOpen.writeFile_join plainTemporary ?_ content
    rw [← isStart, missing]
    exact (Option.some_ne_none _).symm
  have home : written.workingDirectory = tree.workingDirectory := by
    rw [isWritten]
    rfl
  have standsAt : written.entryAt? start = some (.file content) := by
    rw [isWritten, tree.entryAt?_put proper, if_pos rfl]
  have erasedAt : ∀ place, (written.erase start).entryAt? place = tree.entryAt? place := by
    intro place
    rw [isWritten, FileTree.entryAt?_erase_put proper missing]
  have writtenOpen : written.IsOpen directory := by
    rw [isWritten]
    exact isOpen.put_of_missing proper missing (.file content)
  have samePlace : written.placeOf directory = tree.placeOf directory := FileTree.placeOf_congr home directory
  have removes : written.removeFile (Path.join directory temporary) = (.ok (), written.erase start) := by
    rw [isStart, ← samePlace]
    have isFile : written.entryAt? (written.placeOf directory ++ [temporary]) = some (.file content) := by
      rw [samePlace, ← isStart, standsAt]
    exact writtenOpen.removeFile_join plainTemporary isFile
  rw [replaceFile, writes]
  dsimp only
  rcases written.renameFile_cases (Path.join directory temporary) (Path.join directory name) with
    ⟨cause, failed⟩ | ⟨bytes, -, free, -⟩
  · rw [failed]
    dsimp only
    rw [removes]
    exact ⟨cause, _, rfl, home, erasedAt⟩
  · rw [written.placeOf_join directory plainTemporary, written.placeOf_join directory plain, samePlace, ← isStart,
      erasedAt] at free
    exact absurd blocked free

/-- Replacing a file in an open directory in which the temporary name is no file: either the new file stands in
its place, or nothing has changed. -/
theorem replaceFile_cases (content : ByteArray) (isOpen : tree.IsOpen directory)
    (plain : FileTree.PlainName name) (plainTemporary : FileTree.PlainName temporary) (different : name ≠ temporary)
    (free : tree.fileAt? (tree.placeOf directory ++ [temporary]) = none) :
    ∃ result after, replaceFile tree (Path.join directory temporary) (Path.join directory name) content =
        (result, after) ∧ after.workingDirectory = tree.workingDirectory ∧
      ((result = .ok () ∧ tree.entryAt? (tree.placeOf directory ++ [name]) ≠ some .directory ∧
          ∀ place, after.entryAt? place =
            if place = tree.placeOf directory ++ [name] then some (.file content) else tree.entryAt? place) ∨
        (∃ cause, result = .error cause) ∧ ∀ place, after.entryAt? place = tree.entryAt? place) := by
  have samePlace := tree.placeOf_join directory plainTemporary
  by_cases missing : tree.entryAt? (tree.placeOf directory ++ [temporary]) = none
  · by_cases blocked : tree.entryAt? (tree.placeOf directory ++ [name]) = some .directory
    · obtain ⟨cause, after, failed, home, kept⟩ :=
        replaceFile_of_blocked content isOpen plain plainTemporary missing blocked
      exact ⟨_, after, failed, home, .inr ⟨⟨cause, rfl⟩, kept⟩⟩
    · have notDirectory : tree.entryAt? (tree.placeOf directory ++ [temporary]) ≠ some .directory := by
        rw [missing]
        exact (Option.some_ne_none _).symm
      obtain ⟨after, replaced, home, afterAt⟩ :=
        replaceFile_eq content isOpen plain plainTemporary different blocked notDirectory
      refine ⟨_, after, replaced, home, .inl ⟨rfl, blocked, fun place => ?_⟩⟩
      rw [afterAt]
      split
      · rfl
      · split
        · rename_i same
          rw [same, missing]
        · rfl
  · -- the file cannot be written over a directory, and what stands there is not taken away
    have isDirectory := (FileTree.directory_or_file missing).resolve_right (not_not.mpr free)
    rw [← samePlace] at isDirectory free
    obtain ⟨cause, failed⟩ := FileTree.writeFile_of_directory isDirectory content
    have kept := FileTree.removeFile_of_no_file free
    refine ⟨.error cause, tree, ?_, rfl, .inr ⟨⟨cause, rfl⟩, fun _ => rfl⟩⟩
    rw [replaceFile, failed]
    dsimp only
    rw [kept]

end Replace

/-! ## One store -/

/-- There is no file with the name of the one that a store would write first. -/
def TemporaryFree (cache : DiskCache) (tree : FileTree) (entry : CacheEntry) : Prop :=
  tree.fileAt? (cache.temporaryPlace (tree.placeOf cache.directory) entry.key.digest) = none

variable {entry : CacheEntry}

/-- What a store can do: make directories, and then put the entry in its place or fail. -/
theorem store_cases (free : cache.TemporaryFree tree entry) :
    ∃ result next after made, cache.store tree entry.key entry.diagnostics = (result, next, after) ∧
      after.workingDirectory = tree.workingDirectory ∧ tree.Grows made ∧
      ((result = .ok () ∧
          made.entryAt? (entryPlace (tree.placeOf cache.directory) entry.key.digest) ≠ some .directory ∧
          ∀ place, after.entryAt? place =
            if place = entryPlace (tree.placeOf cache.directory) entry.key.digest then some (.file entry.encode)
            else made.entryAt? place) ∨
        (∃ cause, result = .error cause) ∧ ∀ place, after.entryAt? place = made.entryAt? place) := by
  have grows := tree.grows_createDirectories (cache.shardPath entry.key.digest)
  cases created : tree.createDirectories (cache.shardPath entry.key.digest) with
  | mk outcome made =>
    rw [created] at grows
    cases outcome with
    | error cause =>
      refine ⟨.error (.io (cache.shardPath entry.key.digest) cause), cache, made, made, ?_, grows.home, grows,
        .inr ⟨⟨_, rfl⟩, fun _ => rfl⟩⟩
      unfold store
      dsimp only
      rw [created]
    | ok =>
      have isOpen : made.IsOpen (cache.shardPath entry.key.digest) :=
        FileTree.isOpen_of_createDirectories (FileTree.join_ne_empty _ (plainName_shardName entry.key)) created
      have shardRoot : made.placeOf (cache.shardPath entry.key.digest) =
          shardPlace (tree.placeOf cache.directory) entry.key.digest := by
        rw [placeOf_shardPath, FileTree.placeOf_congr grows.home]
      obtain ⟨result, after, replaced, home, outcome⟩ := replaceFile_cases entry.encode isOpen
        (plainName_entryName entry.key) (plainName_temporaryName cache entry.key)
        (entryName_ne_temporaryName cache entry.key.digest entry.key.digest)
        (by rw [shardRoot, grows.fileAt?_eq]; exact free)
      rw [shardRoot, ← entryPlace] at outcome
      rw [← entryPath_eq, ← temporaryPath_eq] at replaced
      rcases outcome with ⟨rfl, notDirectory, afterAt⟩ | ⟨⟨cause, rfl⟩, kept⟩
      · exact ⟨_, _, after, made, store_of_steps created replaced, home.trans grows.home, grows,
          .inl ⟨rfl, notDirectory, afterAt⟩⟩
      · refine ⟨.error (.io (cache.entryPath entry.key.digest) cause), { cache with stores := cache.stores + 1 },
          after, made, ?_, home.trans grows.home, grows, .inr ⟨⟨_, rfl⟩, kept⟩⟩
        unfold store
        dsimp only
        rw [created]
        dsimp only
        rw [replaced]

theorem next_of_store (cache : DiskCache) (tree : FileTree) (key : CacheKey) (diagnostics : List Diagnostic) :
    ∃ count, (cache.store tree key diagnostics).2.1 = { cache with stores := count } := by
  unfold store
  dsimp only
  split
  · exact ⟨cache.stores, rfl⟩
  · split
    · exact ⟨cache.stores + 1, rfl⟩
    · exact ⟨cache.stores + 1, rfl⟩

-- from here on a store is known by what its lemmas say
attribute [local irreducible] store

/-- A store puts the entry of its digest in its place and leaves every other file as it is, or it fails and
leaves every file as it is. -/
theorem files_of_store (free : cache.TemporaryFree tree entry) :
    let outcome := cache.store tree entry.key entry.diagnostics
    (outcome.1 = .ok () ∧ ∀ place, outcome.2.2.fileAt? place =
        if place = entryPlace (tree.placeOf cache.directory) entry.key.digest then some entry.encode
        else tree.fileAt? place) ∨
      (∃ cause, outcome.1 = .error cause) ∧ ∀ place, outcome.2.2.fileAt? place = tree.fileAt? place := by
  intro outcome
  obtain ⟨result, next, after, made, stored, -, grows, cases⟩ := store_cases free
  have isOutcome : outcome = (result, next, after) := stored
  rw [isOutcome]
  rcases cases with ⟨isOk, -, afterAt⟩ | ⟨failed, kept⟩
  · left
    refine ⟨isOk, fun place => ?_⟩
    have here := afterAt place
    split at here
    · rename_i same
      rw [if_pos same]
      exact fileAt?_eq_some_iff.mpr here
    · rename_i different
      rw [if_neg different, ← grows.fileAt?_eq place]
      exact fileAt?_congr here
  · right
    refine ⟨failed, fun place => ?_⟩
    rw [← grows.fileAt?_eq place]
    exact fileAt?_congr (kept place)

theorem directories_of_store (free : cache.TemporaryFree tree entry) {place : Location}
    (isDirectory : tree.entryAt? place = some .directory) :
    (cache.store tree entry.key entry.diagnostics).2.2.entryAt? place = some .directory := by
  obtain ⟨result, next, after, made, stored, -, grows, cases⟩ := store_cases free
  rw [stored]
  have isKept := grows.directory isDirectory
  rcases cases with ⟨-, notDirectory, afterAt⟩ | ⟨-, kept⟩
  · have different : place ≠ entryPlace (tree.placeOf cache.directory) entry.key.digest := by
      rintro rfl
      exact notDirectory isKept
    rw [afterAt, if_neg different, isKept]
  · rw [kept, isKept]

theorem home_of_store (free : cache.TemporaryFree tree entry) :
    (cache.store tree entry.key entry.diagnostics).2.2.workingDirectory = tree.workingDirectory := by
  obtain ⟨result, next, after, made, stored, home, -, -⟩ := store_cases free
  rw [stored]
  exact home

theorem temporaryFree_of_store (free : cache.TemporaryFree tree entry) :
    (cache.store tree entry.key entry.diagnostics).2.2.fileAt?
      (cache.temporaryPlace (tree.placeOf cache.directory) entry.key.digest) = none := by
  rcases files_of_store free with ⟨-, files⟩ | ⟨-, files⟩
  · rw [files, if_neg (entryPlace_ne_temporaryPlace cache _ _ _).symm]
    exact free
  · rw [files]
    exact free

theorem filesBelow_of_store (free : cache.TemporaryFree tree entry) (root : Location) :
    (cache.store tree entry.key entry.diagnostics).2.2.filesBelow root ⊆
      insert (entryPlace (tree.placeOf cache.directory) entry.key.digest) (tree.filesBelow root) := by
  intro place member
  obtain ⟨below, held⟩ := FileTree.mem_filesBelow.mp member
  rw [Finset.mem_insert, FileTree.mem_filesBelow]
  rcases files_of_store free with ⟨-, files⟩ | ⟨-, files⟩
  · rw [files] at held
    split at held
    · rename_i isEntry
      exact .inl isEntry
    · exact .inr ⟨below, held⟩
  · rw [files] at held
    exact .inr ⟨below, held⟩

/-! ## Stores one after another -/

/-- The digests of stored results. -/
def digestsOf (entries : List CacheEntry) : Finset String :=
  (entries.map fun entry => entry.key.digest).toFinset

/-- Stores into one directory one after another, each by some cache in that directory and allowed where it
happens. -/
inductive StoreRun (directory : String) (Allowed : DiskCache → FileTree → CacheEntry → Prop) :
    FileTree → List CacheEntry → FileTree → Prop where
  | done (tree : FileTree) : StoreRun directory Allowed tree [] tree
  | store {cache : DiskCache} {tree last : FileTree} {entry : CacheEntry} {entries : List CacheEntry} :
      cache.directory = directory → Allowed cache tree entry →
      StoreRun directory Allowed (cache.store tree entry.key entry.diagnostics).2.2 entries last →
      StoreRun directory Allowed tree (entry :: entries) last

theorem StoreRun.filesBelow_subset {directory : String} {first last : FileTree} {entries : List CacheEntry}
    (run : StoreRun directory TemporaryFree first entries last) :
    last.filesBelow (first.placeOf directory) ⊆
      first.filesBelow (first.placeOf directory) ∪
        (digestsOf entries).image (entryPlace (first.placeOf directory)) := by
  induction run with
  | done tree => exact Finset.subset_union_left
  | store sameDirectory free later ih =>
    rename_i cache tree last entry entries
    subst sameDirectory
    rw [FileTree.placeOf_congr (home_of_store free)] at ih
    intro place member
    have early := ih member
    rw [Finset.mem_union, Finset.mem_image] at early ⊢
    rcases early with before | ⟨digest, stored, isPlace⟩
    · rcases Finset.mem_insert.mp (filesBelow_of_store free _ before) with isEntry | before
      · exact .inr ⟨entry.key.digest, by simp [digestsOf], isEntry.symm⟩
      · exact .inl before
    · refine .inr ⟨digest, ?_, isPlace⟩
      rw [digestsOf, List.map_cons, List.toFinset_cons]
      exact Finset.mem_insert_of_mem stored

theorem StoreRun.card_filesBelow_le {directory : String} {first last : FileTree} {entries : List CacheEntry}
    (run : StoreRun directory TemporaryFree first entries last) :
    (last.filesBelow (first.placeOf directory)).card ≤
      (first.filesBelow (first.placeOf directory)).card + (digestsOf entries).card :=
  calc (last.filesBelow (first.placeOf directory)).card
    _ ≤ (first.filesBelow (first.placeOf directory) ∪
          (digestsOf entries).image (entryPlace (first.placeOf directory))).card :=
        Finset.card_le_card run.filesBelow_subset
    _ ≤ (first.filesBelow (first.placeOf directory)).card +
          ((digestsOf entries).image (entryPlace (first.placeOf directory))).card := Finset.card_union_le _ _
    _ ≤ (first.filesBelow (first.placeOf directory)).card + (digestsOf entries).card :=
        Nat.add_le_add_left Finset.card_image_le _

/-- There is no file with a name that a store of a cache would write first. -/
def TemporariesFree (cache : DiskCache) (tree : FileTree) : Prop :=
  ∀ count digest,
    tree.fileAt? ({ cache with stores := count }.temporaryPlace (tree.placeOf cache.directory) digest) = none

/-- The stores of one cache never meet a file with a temporary name of theirs, if there is none to begin with. -/
theorem storeRun_performAll (operations : List CacheStore.Operation) (free : cache.TemporariesFree tree) :
    StoreRun cache.directory TemporaryFree tree (operations.filterMap CacheStore.Operation.entry?)
      (CacheStore.performAll (.disk cache) tree operations).2.2 := by
  induction operations generalizing cache tree with
  | nil => exact .done tree
  | cons operation operations ih =>
    cases operation with
    | load key => exact ih free
    | store key diagnostics =>
      have freeHere : cache.TemporaryFree tree ⟨key, diagnostics⟩ := free cache.stores key.digest
      obtain ⟨count, isNext⟩ := next_of_store cache tree key diagnostics
      have files := files_of_store freeHere
      have home := home_of_store freeHere
      have performed : (CacheStore.performAll (.disk cache) tree (.store key diagnostics :: operations)).2.2 =
          (CacheStore.performAll (.disk { cache with stores := count }) (cache.store tree key diagnostics).2.2
            operations).2.2 := by
        simp only [CacheStore.performAll, CacheStore.perform, CacheStore.store, isNext]
      rw [performed]
      have freeLater : TemporariesFree { cache with stores := count } (cache.store tree key diagnostics).2.2 := by
        intro later digest
        rw [FileTree.placeOf_congr home]
        rcases files with ⟨-, files⟩ | ⟨-, files⟩
        · rw [files, if_neg (entryPlace_ne_temporaryPlace { cache with stores := later } _ _ _).symm]
          exact free later digest
        · rw [files]
          exact free later digest
      have later : StoreRun cache.directory TemporaryFree (cache.store tree key diagnostics).2.2 _ _ :=
        @ih { cache with stores := count } (cache.store tree key diagnostics).2.2 freeLater
      exact .store rfl freeHere later

/-- A store succeeds and changes one file, the entry of its digest, which is read back as what was stored, or it
fails and changes no file. Directories stay, and no file with a temporary name is left. So stores one after
another never leave more files than there were before and digests that were stored, whether by one cache or by
several in one directory. -/
theorem store_atomic (free : cache.TemporaryFree tree entry) :
    let root := tree.placeOf cache.directory
    let outcome := cache.store tree entry.key entry.diagnostics
    let after := outcome.2.2
    ((outcome.1 = .ok () ∧
        (∀ place, after.fileAt? place =
          if place = entryPlace root entry.key.digest then some entry.encode else tree.fileAt? place) ∧
        (entry.Fits → CacheEntry.decode? entry.encode = some entry)) ∨
      (∃ cause, outcome.1 = .error cause) ∧ ∀ place, after.fileAt? place = tree.fileAt? place) ∧
    (∀ place, tree.entryAt? place = some .directory → after.entryAt? place = some .directory) ∧
    after.fileAt? (cache.temporaryPlace root entry.key.digest) = none ∧
    (∀ entries last, StoreRun cache.directory TemporaryFree after entries last →
      (last.filesBelow root).card ≤ (tree.filesBelow root).card + (digestsOf (entry :: entries)).card) ∧
    (cache.TemporariesFree tree → ∀ operations : List CacheStore.Operation,
      ((CacheStore.performAll (.disk cache) tree operations).2.2.filesBelow root).card ≤
        (tree.filesBelow root).card + (digestsOf (operations.filterMap CacheStore.Operation.entry?)).card) := by
  intro root outcome after
  refine ⟨?_, fun place isDirectory => directories_of_store free isDirectory, temporaryFree_of_store free, ?_, ?_⟩
  · rcases files_of_store free with ⟨isOk, files⟩ | failed
    · exact .inl ⟨isOk, files, entry.decode?_encode⟩
    · exact .inr failed
  · intro entries last later
    exact (StoreRun.store rfl free later).card_filesBelow_le
  · intro allFree operations
    exact (storeRun_performAll operations allFree).card_filesBelow_le

/-- One result stored in an empty cache, and where a file stands in the place of the directory of its digest.
The first store puts its entry into the tree, and the second leaves the file as it is. -/
theorem store_atomic_empty_and_blocked :
    let cache : DiskCache := ⟨"cache", 7, 0⟩
    let entry : CacheEntry := ⟨⟨"a.py", "u", "c", "0.1.0"⟩, []⟩
    let shard := shardPlace ["cache"] entry.key.digest
    let empty : FileTree := ⟨[(["cache"], .directory)], []⟩
    let blocked : FileTree := ⟨[(["cache"], .directory), (shard, .file "keep".toUTF8)], []⟩
    let stored := cache.store empty entry.key entry.diagnostics
    let refused := (cache.store blocked entry.key entry.diagnostics).2.2
    stored.1 = .ok () ∧
      stored.2.2.fileAt? (entryPlace ["cache"] entry.key.digest) = some entry.encode ∧
      CacheEntry.decode? entry.encode = some entry ∧
      refused.fileAt? shard = some "keep".toUTF8 ∧
      refused.fileAt? (cache.temporaryPlace ["cache"] entry.key.digest) = none ∧
      (refused.filesBelow ["cache"]).card ≤ (blocked.filesBelow ["cache"]).card + (digestsOf [entry]).card := by
  intro cache entry shard empty blocked stored refused
  have emptyRoot : empty.placeOf cache.directory = ["cache"] := by decide +kernel
  have blockedRoot : blocked.placeOf cache.directory = ["cache"] := by decide +kernel
  have vacant : ∀ {place : Location}, place ≠ [] → place ≠ ["cache"] → empty.entryAt? place = none := by
    intro place proper other
    simp [FileTree.entryAt?, empty, proper, Ne.symm other]
  have emptyFree : cache.TemporaryFree empty entry := by
    rw [TemporaryFree, emptyRoot]
    exact FileTree.fileAt?_of_missing (vacant (by simp [temporaryPlace]) (by simp [temporaryPlace, shardPlace]))
  have blockedFree : cache.TemporaryFree blocked entry := by
    rw [TemporaryFree, blockedRoot]
    exact FileTree.fileAt?_of_missing (by simp [FileTree.entryAt?, blocked, shard, shardPlace, temporaryPlace])
  have isShard : blocked.fileAt? shard = some "keep".toUTF8 :=
    FileTree.fileAt?_eq_some_iff.mpr (by simp [FileTree.entryAt?, blocked, shard, shardPlace])
  -- nothing stands in the way of the first store
  have succeeds : stored.1 = .ok () := by
    have isOpen : empty.IsOpen cache.directory := (FileTree.isOpen_of_isDirectory (by decide +kernel)).2
    have noDirectory : ∀ {place : Location}, place ≠ [] → place ≠ ["cache"] →
        empty.entryAt? place ≠ some .directory := by
      intro place proper other isDirectory
      rw [vacant proper other] at isDirectory
      cases isDirectory
    have entryFree : empty.entryAt? (entryPlace ["cache"] entry.key.digest) ≠ some .directory :=
      noDirectory (by simp [entryPlace]) (by simp [entryPlace, shardPlace])
    have temporaryFree : empty.entryAt? (cache.temporaryPlace ["cache"] entry.key.digest) ≠ some .directory :=
      noDirectory (by simp [temporaryPlace]) (by simp [temporaryPlace, shardPlace])
    obtain ⟨after, isStored, -⟩ := store_eq entry.diagnostics isOpen emptyRoot
      (.inl (vacant (by simp [shardPlace]) (by simp [shardPlace]))) entryFree temporaryFree
    exact congrArg Prod.fst isStored
  obtain ⟨outcome, -⟩ := store_atomic emptyFree
  obtain ⟨outcomeBlocked, -, gone, bounded, -⟩ := store_atomic blockedFree
  rw [emptyRoot] at outcome
  rw [blockedRoot] at outcomeBlocked gone bounded
  obtain ⟨files, decodes⟩ : (∀ place, stored.2.2.fileAt? place =
      if place = entryPlace ["cache"] entry.key.digest then some entry.encode else empty.fileAt? place) ∧
      (entry.Fits → CacheEntry.decode? entry.encode = some entry) := by
    rcases outcome with ⟨-, files, decodes⟩ | ⟨⟨cause, failed⟩, -⟩
    · exact ⟨files, decodes⟩
    · rw [succeeds] at failed
      cases failed
  refine ⟨succeeds, (files _).trans (if_pos rfl), decodes (by simp [entry, CacheEntry.Fits]), ?_, gone,
    bounded [] refused (.done refused)⟩
  rcases outcomeBlocked with ⟨-, files, -⟩ | ⟨-, files⟩
  · exact (files _).trans ((if_neg (shardPlace_ne_entryPlace _ _ _)).trans isShard)
  · exact (files _).trans isShard

end DiskCache

end Lintel
