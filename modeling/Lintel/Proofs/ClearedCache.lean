import Lintel.Proofs.CacheClearing

/-!
# A cleared cache

What clearing leaves of a tree, said of the tree alone: no file of the cache, every other file as it was, and no
directory of the cache that is empty. After stores into an empty directory nothing is left below it, and every
load finds nothing.
-/

set_option autoImplicit false

namespace Lintel

namespace FileTree

namespace Loses

variable {gone : Set Location} {tree after : FileTree}

theorem directory_or_missing (loses : Loses gone tree after) {place : Location}
    (isDirectory : tree.entryAt? place = some .directory) :
    after.entryAt? place = some .directory ∨ after.entryAt? place = none := by
  by_cases isGone : place ∈ gone
  · exact .inr (loses.missing place isGone)
  · exact .inl ((loses.kept place isGone).trans isDirectory)

/-- A walk along directories of which some are gone still leads where it led, or it finds nothing. -/
theorem foldlM_step (loses : Loses gone tree after) {pieces : List String} {current place : Location}
    (walked : pieces.foldlM tree.step current = .ok place) :
    pieces.foldlM after.step current = .ok place ∨ pieces.foldlM after.step current = .error .notFound := by
  induction pieces generalizing current with
  | nil => exact .inl walked
  | cons piece pieces ih =>
    rw [List.foldlM_cons] at walked ⊢
    cases stepped : tree.step current piece with
    | error cause => simp [stepped, bind, Except.bind] at walked
    | ok next =>
      simp only [stepped, bind, Except.bind] at walked
      obtain ⟨isDirectory, rfl⟩ := step_eq_ok_iff.mp stepped
      rcases loses.directory_or_missing isDirectory with kept | missing
      · rw [step_of_directory kept]
        exact ih walked
      · right
        simp only [step, missing, bind, Except.bind]

end Loses

end FileTree

namespace DiskCache

open FileTree (Loses Below fileAt?_of_missing fileAt?_of_directory fileAt?_eq_some_iff)

attribute [local irreducible] CacheKey.digest

variable {root : Location} {tree after : FileTree} {shard name : String}

/-! ## What is left -/

/-- A location of a file of the cache. -/
def IsCacheFile (root place : Location) : Prop :=
  ∃ shard name, place = root ++ [shard, name] ∧ IsShard shard ∧ IsCacheName shard name

/-- A location of a directory of the cache in which nothing is left. -/
def IsBareShard (root : Location) (after : FileTree) (place : Location) : Prop :=
  ∃ shard, place = root ++ [shard] ∧ IsShard shard ∧ ∀ name, after.entryAt? (place ++ [name]) = none

section Left

variable {place : Location}

theorem Goes.mem_iff_of_file (isFile : tree.fileAt? place ≠ none) : place ∈ Goes root tree ↔ IsCacheFile root place := by
  constructor
  · rintro ⟨shard, goes | goes⟩
    · rename_i name
      exact ⟨shard, name, rfl, goes.isShard, goes.isCacheName⟩
    · exact absurd (fileAt?_of_directory goes.isDirectory) isFile
  · rintro ⟨shard, name, rfl, isShard, isCacheName⟩
    exact ⟨shard, .file ⟨isShard, isCacheName, isFile⟩⟩

theorem Goes.fileAt?_of_cacheFile (loses : Loses (Goes root tree) tree after) (isCacheFile : IsCacheFile root place) :
    after.fileAt? place = none := by
  by_cases isFile : tree.fileAt? place = none
  · by_cases isGone : place ∈ Goes root tree
    · exact loses.fileAt?_of_mem isGone
    · rw [loses.fileAt?_eq isGone, isFile]
  · exact loses.fileAt?_of_mem ((Goes.mem_iff_of_file isFile).mpr isCacheFile)

theorem Goes.fileAt?_of_other (loses : Loses (Goes root tree) tree after) (isOther : ¬ IsCacheFile root place) :
    after.fileAt? place = tree.fileAt? place := by
  by_cases isFile : tree.fileAt? place = none
  · by_cases isGone : place ∈ Goes root tree
    · rw [loses.fileAt?_of_mem isGone, isFile]
    · rw [loses.fileAt?_eq isGone]
  · exact loses.fileAt?_eq (mt (Goes.mem_iff_of_file isFile).mp isOther)

theorem Goes.directory_iff (loses : Loses (Goes root tree) tree after) :
    after.entryAt? place = some .directory ↔
      tree.entryAt? place = some .directory ∧ ¬ IsBareShard root after place := by
  constructor
  · intro isDirectory
    have stands : after.entryAt? place ≠ none := by
      rw [isDirectory]
      exact Option.some_ne_none _
    obtain ⟨notGone, same⟩ := loses.stands stands
    refine ⟨same.symm.trans isDirectory, ?_⟩
    rintro ⟨shard, rfl, isShard, bare⟩
    -- a directory of the cache in which nothing is left would still have to go
    refine Goes.nothing_left loses (root ++ [shard]) ⟨shard, .directory ⟨isShard, isDirectory, fun name stood => ?_⟩⟩
    rw [← append_names, bare name] at stood
    exact absurd rfl stood
  · rintro ⟨isDirectory, notBare⟩
    rw [loses.kept, isDirectory]
    rintro ⟨shard, goes | goes⟩
    · exact goes.isFile (fileAt?_of_directory isDirectory)
    · refine notBare ⟨shard, rfl, goes.isShard, fun name => ?_⟩
      rw [append_names]
      by_cases stood : tree.entryAt? (root ++ [shard, name]) = none
      · by_cases isGone : root ++ [shard, name] ∈ Goes root tree
        · exact loses.missing _ isGone
        · rw [loses.kept _ isGone, stood]
      · exact loses.missing _ ⟨shard, .file (goes.emptied name stood)⟩

end Left

/-! ## After stores into an empty directory -/

theorem wellFormed_replaceFile (wellFormed : tree.WellFormed) (temporary path : String) (content : ByteArray) :
    (replaceFile tree temporary path content).2.WellFormed := by
  have written := wellFormed.writeFile temporary content
  rw [replaceFile]
  generalize tree.writeFile temporary content = result at written ⊢
  obtain ⟨_ | _, middle⟩ := result
  · exact FileTree.WellFormed.removeFile written temporary
  · have moved := FileTree.WellFormed.renameFile written temporary path
    dsimp only at moved ⊢
    generalize middle.renameFile temporary path = result at moved ⊢
    obtain ⟨_ | _, last⟩ := result
    · exact FileTree.WellFormed.removeFile moved temporary
    · exact moved

theorem wellFormed_store (cache : DiskCache) (wellFormed : tree.WellFormed) (key : CacheKey)
    (diagnostics : List Diagnostic) : (cache.store tree key diagnostics).2.2.WellFormed := by
  have made := wellFormed.createDirectories (cache.shardPath key.digest)
  unfold store
  dsimp only
  generalize tree.createDirectories (cache.shardPath key.digest) = result at made ⊢
  obtain ⟨_ | _, middle⟩ := result
  · exact made
  · have replaced := wellFormed_replaceFile made (cache.temporaryPath key.digest) (cache.entryPath key.digest)
      (CacheEntry.encode ⟨key, diagnostics⟩)
    dsimp only at replaced ⊢
    generalize replaceFile middle (cache.temporaryPath key.digest) (cache.entryPath key.digest)
      (CacheEntry.encode ⟨key, diagnostics⟩) = result at replaced ⊢
    obtain ⟨_ | _, last⟩ := result
    · exact replaced
    · exact replaced

theorem temporaryPlace_ne_shardPlace (cache : DiskCache) (root : Location) (digest other : String) :
    cache.temporaryPlace root digest ≠ shardPlace root other := by
  simp [temporaryPlace, shardPlace]

/-- A tree with an entry put in its place, in a directory of the cache. -/
def Added (root : Location) (entry : CacheEntry) (tree after : FileTree) : Prop :=
  ∀ place, after.entryAt? place =
    if place = entryPlace root entry.key.digest then some (.file entry.encode)
    else if place = shardPlace root entry.key.digest then some .directory
    else tree.entryAt? place

theorem Added.directory_iff {entry : CacheEntry} (added : Added root entry tree after)
    (noDirectory : tree.entryAt? (entryPlace root entry.key.digest) ≠ some .directory) (place : Location) :
    after.entryAt? place = some .directory ↔
      tree.entryAt? place = some .directory ∨ place = shardPlace root entry.key.digest := by
  rw [added place]
  by_cases isEntry : place = entryPlace root entry.key.digest
  · have notShard := (shardPlace_ne_entryPlace root entry.key.digest entry.key.digest).symm
    simp [isEntry, noDirectory, notShard]
  · by_cases isShard : place = shardPlace root entry.key.digest
    · rw [if_neg isEntry, if_pos isShard]
      exact iff_of_true rfl (.inr isShard)
    · rw [if_neg isEntry, if_neg isShard, or_iff_left isShard]

theorem Added.file_iff {entry : CacheEntry} (added : Added root entry tree after)
    (noFile : tree.fileAt? (shardPlace root entry.key.digest) = none) (place : Location) :
    after.fileAt? place ≠ none ↔ tree.fileAt? place ≠ none ∨ place = entryPlace root entry.key.digest := by
  have standsAt := added place
  by_cases isEntry : place = entryPlace root entry.key.digest
  · rw [if_pos isEntry] at standsAt
    have isFile : after.fileAt? place ≠ none := by
      rw [fileAt?_eq_some_iff.mpr standsAt]
      exact Option.some_ne_none entry.encode
    exact iff_of_true isFile (.inr isEntry)
  · rw [if_neg isEntry] at standsAt
    by_cases isShard : place = shardPlace root entry.key.digest
    · rw [if_pos isShard] at standsAt
      rw [← isShard] at noFile
      simp [fileAt?_of_directory standsAt, noFile, isEntry]
    · rw [if_neg isShard] at standsAt
      rw [FileTree.fileAt?_congr standsAt, or_iff_left isEntry]

/-- Below a directory there is exactly what some stores have left. -/
structure HoldsStored (directory : String) (tree : FileTree) (entries : List CacheEntry) : Prop where
  isOpen : tree.IsOpen directory
  wellFormed : tree.WellFormed
  directories : ∀ place, Below (tree.placeOf directory) place → (tree.entryAt? place = some .directory ↔
    ∃ entry ∈ entries, place = shardPlace (tree.placeOf directory) entry.key.digest)
  files : ∀ place, Below (tree.placeOf directory) place → (tree.fileAt? place ≠ none ↔
    ∃ entry ∈ entries, place = entryPlace (tree.placeOf directory) entry.key.digest)

namespace HoldsStored

variable {directory : String} {entries : List CacheEntry} {entry : CacheEntry}

theorem of_empty (wellFormed : tree.WellFormed) (isOpen : tree.IsOpen directory)
    (empty : ∀ name names, tree.entryAt? (tree.placeOf directory ++ name :: names) = none) :
    HoldsStored directory tree [] where
  isOpen := isOpen
  wellFormed := wellFormed
  directories := by
    rintro _ ⟨name, names, rfl⟩
    simp [empty]
  files := by
    rintro _ ⟨name, names, rfl⟩
    simp [fileAt?_of_missing (empty name names)]

theorem stands_cases (holds : HoldsStored directory tree entries) {place : Location}
    (below : Below (tree.placeOf directory) place) (stands : tree.entryAt? place ≠ none) :
    (tree.entryAt? place = some .directory ∧
        ∃ entry ∈ entries, place = shardPlace (tree.placeOf directory) entry.key.digest) ∨
      ∃ entry ∈ entries, place = entryPlace (tree.placeOf directory) entry.key.digest := by
  rcases FileTree.directory_or_file stands with isDirectory | isFile
  · exact .inl ⟨isDirectory, (holds.directories place below).mp isDirectory⟩
  · exact .inr ((holds.files place below).mp isFile)

theorem no_file_shardPlace (holds : HoldsStored directory tree entries) (digest : String) :
    tree.fileAt? (shardPlace (tree.placeOf directory) digest) = none := by
  by_contra isFile
  obtain ⟨other, -, same⟩ := (holds.files _ (below_shardPlace _ digest)).mp isFile
  exact shardPlace_ne_entryPlace _ _ _ same

theorem no_directory_entryPlace (holds : HoldsStored directory tree entries) (digest : String) :
    tree.entryAt? (entryPlace (tree.placeOf directory) digest) ≠ some .directory := by
  intro isDirectory
  obtain ⟨other, -, same⟩ := (holds.directories _ (below_entryPlace _ digest)).mp isDirectory
  exact shardPlace_ne_entryPlace _ _ _ same.symm

/-- A store finds nothing in its way. -/
theorem store_stands {cache : DiskCache} (holds : HoldsStored cache.directory tree entries) (entry : CacheEntry) :
    ∃ next after, cache.store tree entry.key entry.diagnostics = (.ok (), next, after) ∧
      after.workingDirectory = tree.workingDirectory ∧ Added (tree.placeOf cache.directory) entry tree after := by
  have shardFree : tree.entryAt? (shardPlace (tree.placeOf cache.directory) entry.key.digest) = none ∨
      tree.entryAt? (shardPlace (tree.placeOf cache.directory) entry.key.digest) = some .directory := by
    have noFile := holds.no_file_shardPlace entry.key.digest
    by_cases missing : tree.entryAt? (shardPlace (tree.placeOf cache.directory) entry.key.digest) = none
    · exact .inl missing
    · exact .inr ((FileTree.directory_or_file missing).resolve_right (not_not.mpr noFile))
  have temporaryMissing :
      tree.entryAt? (cache.temporaryPlace (tree.placeOf cache.directory) entry.key.digest) = none := by
    by_contra stands
    rcases holds.stands_cases (below_temporaryPlace cache _ _) stands with ⟨-, other, -, same⟩ | ⟨other, -, same⟩
    · exact temporaryPlace_ne_shardPlace cache _ _ _ same
    · exact entryPlace_ne_temporaryPlace cache _ _ _ same.symm
  have temporaryFree :
      tree.entryAt? (cache.temporaryPlace (tree.placeOf cache.directory) entry.key.digest) ≠ some .directory := by
    rw [temporaryMissing]
    exact (Option.some_ne_none _).symm
  obtain ⟨after, stored, home, afterAt⟩ := store_eq entry.diagnostics holds.isOpen rfl shardFree
    (holds.no_directory_entryPlace entry.key.digest) temporaryFree
  refine ⟨_, after, stored, home, fun place => ?_⟩
  rw [afterAt]
  split
  · rfl
  · split
    · rename_i isTemporary
      rw [isTemporary, if_neg (temporaryPlace_ne_shardPlace cache _ _ _), temporaryMissing]
    · rfl

theorem store {cache : DiskCache} (holds : HoldsStored cache.directory tree entries) (entry : CacheEntry) :
    HoldsStored cache.directory (cache.store tree entry.key entry.diagnostics).2.2 (entries ++ [entry]) := by
  have wellFormed := wellFormed_store cache holds.wellFormed entry.key entry.diagnostics
  have noFile := holds.no_file_shardPlace entry.key.digest
  have noDirectory := holds.no_directory_entryPlace entry.key.digest
  obtain ⟨next, after, stored, home, added⟩ := holds.store_stands entry
  rw [stored] at wellFormed ⊢
  have sameRoot : after.placeOf cache.directory = tree.placeOf cache.directory := FileTree.placeOf_congr home _
  have exists_iff : ∀ (place : Location) (placeOf : String → Location),
      (∃ other ∈ entries ++ [entry], place = placeOf other.key.digest) ↔
        (∃ other ∈ entries, place = placeOf other.key.digest) ∨ place = placeOf entry.key.digest := by
    intro place placeOf
    simp only [List.mem_append, List.mem_singleton, or_and_right, exists_or, exists_eq_left]
  refine ⟨holds.isOpen.of_keeps home ?_, wellFormed, ?_, ?_⟩
  · intro place isDirectory
    exact (added.directory_iff noDirectory place).mpr (.inl isDirectory)
  · intro place below
    rw [sameRoot] at below ⊢
    rw [exists_iff, ← holds.directories place below, added.directory_iff noDirectory]
  · intro place below
    rw [sameRoot] at below ⊢
    rw [exists_iff, ← holds.files place below, added.file_iff noFile]

theorem of_run {Allowed : DiskCache → FileTree → CacheEntry → Prop} {first last : FileTree}
    {past entries : List CacheEntry} (run : StoreRun directory Allowed first entries last)
    (holds : HoldsStored directory first past) :
    HoldsStored directory last (past ++ entries) ∧ last.workingDirectory = first.workingDirectory := by
  induction run generalizing past with
  | done tree =>
    rw [List.append_nil]
    exact ⟨holds, rfl⟩
  | @store cache tree last entry entries sameDirectory _ _ ih =>
    subst sameDirectory
    obtain ⟨later, home⟩ := ih (holds.store entry)
    obtain ⟨next, after, stored, homeHere, -⟩ := holds.store_stands entry
    rw [List.append_assoc, List.singleton_append] at later
    rw [stored] at home
    exact ⟨later, home.trans homeHere⟩

theorem fileGoes (holds : HoldsStored directory tree entries) (member : entry ∈ entries) :
    FileGoes (tree.placeOf directory) tree (shardName entry.key.digest) (entryName entry.key.digest) := by
  refine ⟨isShard_shardName entry.key, isCacheName_entryName entry.key, ?_⟩
  have isFile := (holds.files _ (below_entryPlace _ _)).mpr ⟨entry, member, rfl⟩
  rwa [entryPlace, shardPlace, append_names] at isFile

theorem goes (holds : HoldsStored directory tree entries) {place : Location}
    (below : Below (tree.placeOf directory) place) (stands : tree.entryAt? place ≠ none) :
    place ∈ Goes (tree.placeOf directory) tree := by
  rcases holds.stands_cases below stands with ⟨isDirectory, entry, -, rfl⟩ | ⟨entry, member, rfl⟩
  · refine ⟨_, .directory ⟨isShard_shardName entry.key, isDirectory, fun name stood => ?_⟩⟩
    -- what stands in the directory is no directory itself, so it is an entry
    rcases holds.stands_cases ⟨_, _, rfl⟩ stood with ⟨-, other, -, same⟩ | ⟨other, member, same⟩
    · simp [shardPlace] at same
    · rw [entryPlace, shardPlace, append_names] at same
      have names := List.append_cancel_left same
      obtain ⟨isShardName, isName⟩ : shardName entry.key.digest = shardName other.key.digest ∧
          name = entryName other.key.digest := by simpa using names
      rw [isShardName, isName]
      exact holds.fileGoes member
  · rw [entryPlace, shardPlace, append_names]
    exact ⟨_, .file (holds.fileGoes member)⟩

theorem cleared (holds : HoldsStored directory tree entries) (nonempty : directory ≠ "") :
    Loses (Goes (tree.placeOf directory) tree) tree (clear tree directory).2 ∧
      (clear tree directory).1 = (digestsOf entries).card := by
  have clears := clear_clears holds.wellFormed (holds.isOpen.locationOf?_eq nonempty)
  refine ⟨clears.loses, ?_⟩
  obtain ⟨removed, inRemoved, counted⟩ := clears.counted
  have isImage : removed = (digestsOf entries).image (entryPlace (tree.placeOf directory)) := by
    ext place
    rw [inRemoved, Finset.mem_image]
    constructor
    · rintro ⟨⟨shard, isGone⟩, isFile, -⟩
      obtain ⟨rest, isBelow⟩ := isGone.below
      obtain ⟨entry, member, isEntry⟩ := (holds.files place ⟨shard, rest, isBelow⟩).mp isFile
      exact ⟨entry.key.digest, List.mem_toFinset.mpr (List.mem_map_of_mem member), isEntry.symm⟩
    · rintro ⟨digest, stored, rfl⟩
      obtain ⟨entry, member, rfl⟩ := List.mem_map.mp (List.mem_toFinset.mp stored)
      have below := below_entryPlace (tree.placeOf directory) entry.key.digest
      have isFile := (holds.files _ below).mpr ⟨entry, member, rfl⟩
      refine ⟨holds.goes below fun missing => isFile (fileAt?_of_missing missing), isFile, ?_⟩
      rw [entryPlace, shardPlace, append_names, isJson_iff, entryName, String.toList_append]
      exact List.suffix_append _ _
  rw [counted, Nat.zero_add, isImage]
  exact Finset.card_image_of_injective _ fun _ _ => entryPlace_inj

theorem nothing_below (holds : HoldsStored directory tree entries)
    (loses : Loses (Goes (tree.placeOf directory) tree) tree after) (place : Location)
    (below : Below (tree.placeOf directory) place) : after.entryAt? place = none := by
  by_contra stands
  obtain ⟨notGone, same⟩ := loses.stands stands
  rw [same] at stands
  exact notGone (holds.goes below stands)

theorem root_stays (holds : HoldsStored directory tree entries)
    (loses : Loses (Goes (tree.placeOf directory) tree) tree after) :
    after.entryAt? (tree.placeOf directory) = some .directory := by
  have notGone : tree.placeOf directory ∉ Goes (tree.placeOf directory) tree := by
    rintro ⟨shard, isGone⟩
    obtain ⟨rest, isBelow⟩ := isGone.below
    simp at isBelow
  exact (loses.kept _ notGone).trans holds.isOpen.isDirectory

end HoldsStored

/-- Where nothing is left below the directory of a cache, and perhaps not even the way to it, there is nothing to
load. -/
theorem load_of_cleared {cache : DiskCache} {gone : Set Location} (isOpen : tree.IsOpen cache.directory)
    (loses : Loses gone tree after)
    (bare : ∀ name names, after.entryAt? (tree.placeOf cache.directory ++ name :: names) = none) (key : CacheKey) :
    cache.load after key = .ok none := by
  have walked : after.walk cache.directory = .ok (tree.placeOf cache.directory) ∨
      after.walk cache.directory = .error .notFound := by
    rw [FileTree.walk, FileTree.startOf_congr loses.home]
    exact loses.foldlM_step isOpen.walked
  have stuck : after.locate (cache.entryPath key.digest) = .error .notFound := by
    rw [entryPath_eq, FileTree.locate_eq_walk after (FileTree.join_ne_empty _ (plainName_entryName key)),
      FileTree.walk_join after _ (plainName_entryName key), shardPath_eq,
      FileTree.walk_join after _ (plainName_shardName key)]
    rcases walked with reached | wayLost
    · rw [reached]
      rcases loses.directory_or_missing isOpen.isDirectory with kept | missing
      · have below := bare (shardName key.digest) []
        simp only [bind, Except.bind, FileTree.step_of_directory kept,
          FileTree.advance_plain (plainName_shardName key)]
        rw [FileTree.step, below]
      · simp only [bind, Except.bind, FileTree.step, missing]
    · rw [wayLost]
      rfl
  have read : after.readBytes (cache.entryPath key.digest) = .error .notFound := by
    simp only [FileTree.readBytes, FileTree.lookup, stuck, bind, Except.bind]
  unfold load
  dsimp only
  rw [read]

/-! ## The theorem -/

/-- Clearing takes away the files of the cache and the directories of the cache in which nothing is left, and
nothing else, and counts the `.json` files that it takes away. What has been cleared stays as it is. After stores
into an empty directory it counts their digests and leaves nothing below the directory, so that every load finds
nothing. -/
theorem clear_removes_cache (wellFormed : tree.WellFormed) (directory : String) :
    (∀ root, tree.locationOf? directory = some root →
      let after := (clear tree directory).2
      (∀ place, (IsCacheFile root place → after.fileAt? place = none) ∧
        (¬ IsCacheFile root place → after.fileAt? place = tree.fileAt? place)) ∧
      (∀ place, after.entryAt? place = some .directory ↔
        tree.entryAt? place = some .directory ∧ ¬ IsBareShard root after place) ∧
      ∃ removed : Finset Location, (∀ place, place ∈ removed ↔
          tree.fileAt? place ≠ none ∧ after.fileAt? place = none ∧ IsJson place) ∧
        (clear tree directory).1 = removed.card) ∧
    clear (clear tree directory).2 directory = (0, (clear tree directory).2) ∧
    (tree.isDirectory directory = true → (∀ place, Below (tree.placeOf directory) place → tree.entryAt? place = none) →
      ∀ (Allowed : DiskCache → FileTree → CacheEntry → Prop) entries last,
        StoreRun directory Allowed tree entries last →
        let after := (clear last directory).2
        (clear last directory).1 = (digestsOf entries).card ∧
        after.entryAt? (tree.placeOf directory) = some .directory ∧
        (∀ place, Below (tree.placeOf directory) place → after.entryAt? place = none) ∧
        ∀ (cache : DiskCache) key, cache.directory = directory → cache.load after key = .ok none) := by
  refine ⟨?_, clear_clear wellFormed directory, ?_⟩
  · intro root found
    have clears := clear_clears wellFormed found
    generalize clear tree directory = result at clears ⊢
    obtain ⟨number, after⟩ := result
    have loses : Loses (Goes root tree) tree after := clears.loses
    refine ⟨fun place => ⟨Goes.fileAt?_of_cacheFile loses, Goes.fileAt?_of_other loses⟩,
      fun place => Goes.directory_iff loses, ?_⟩
    obtain ⟨removed, inRemoved, counted⟩ := clears.counts_lost
    exact ⟨removed, inRemoved, counted.trans (Nat.zero_add _)⟩
  · intro isDirectory empty Allowed entries last run
    obtain ⟨nonempty, isOpen⟩ := FileTree.isOpen_of_isDirectory isDirectory
    have nothing := HoldsStored.of_empty wellFormed isOpen fun name names => empty _ ⟨name, names, rfl⟩
    obtain ⟨holds, home⟩ := HoldsStored.of_run run nothing
    rw [List.nil_append] at holds
    obtain ⟨loses, counted⟩ := holds.cleared nonempty
    rw [← FileTree.placeOf_congr home directory]
    generalize clear last directory = result at loses counted ⊢
    obtain ⟨number, after⟩ := result
    have bare := holds.nothing_below loses
    refine ⟨counted, holds.root_stays loses, bare, fun cache key sameDirectory => ?_⟩
    subst sameDirectory
    exact load_of_cleared holds.isOpen loses (fun name names => bare _ ⟨name, names, rfl⟩) key

-- two clears are compared below, and comparing them must not run them
attribute [local irreducible] clear store

/-- A cache with one entry and a file of somebody else in it, and a cache after one store. -/
theorem clear_removes_cache_foreign :
    let name := String.ofList (List.replicate 64 'a') ++ ".json"
    let opened : FileTree := (⟨[], []⟩ : FileTree).put ["cache"] .directory
    let tree : FileTree := ((opened.put ["cache", "aa"] .directory).put ["cache", "aa", name] (.file "".toUTF8)).put
      ["cache", "aa.txt"] (.file "keep".toUTF8)
    let cache : DiskCache := ⟨"cache", 7, 0⟩
    let key : CacheKey := ⟨"a.py", "u", "c", "0.1.0"⟩
    (clear tree "cache").2.fileAt? ["cache", "aa", name] = none ∧
      (clear tree "cache").2.fileAt? ["cache", "aa.txt"] = some "keep".toUTF8 ∧
      (clear (cache.store opened key []).2.2 "cache").1 = 1 := by
  intro name opened tree cache key
  have wellFormedOpened : opened.WellFormed :=
    (FileTree.wellFormed_nil []).put (by decide) rfl fun _ => rfl
  have wellFormed : tree.WellFormed := by
    have withShard : (opened.put ["cache", "aa"] .directory).WellFormed :=
      wellFormedOpened.put (by decide) (by decide +kernel) fun _ => rfl
    have withEntry : ((opened.put ["cache", "aa"] .directory).put ["cache", "aa", name] (.file "".toUTF8)).WellFormed :=
      withShard.put (by simp) (by decide +kernel) fun isDirectory => absurd isDirectory (by decide +kernel)
    exact withEntry.put (by decide) (by decide +kernel) fun isDirectory => absurd isDirectory (by decide +kernel)
  have found : tree.locationOf? "cache" = some ["cache"] := by decide +kernel
  obtain ⟨removes, -, -⟩ := clear_removes_cache wellFormed "cache"
  obtain ⟨-, -, stores⟩ := clear_removes_cache wellFormedOpened "cache"
  obtain ⟨files, -, -⟩ := removes ["cache"] found
  have isCacheFile : IsCacheFile ["cache"] ["cache", "aa", name] :=
    ⟨"aa", name, rfl, (isShardName_iff "aa").mp (by decide), (isCacheFileName_iff "aa" name).mp (by decide +kernel)⟩
  have isOther : ¬ IsCacheFile ["cache"] ["cache", "aa.txt"] := by
    rintro ⟨shard, other, same, -⟩
    simp at same
  have kept : tree.fileAt? ["cache", "aa.txt"] = some "keep".toUTF8 := fileAt?_eq_some_iff.mpr (by decide +kernel)
  refine ⟨(files _).1 isCacheFile, ((files _).2 isOther).trans kept, ?_⟩
  have empty : ∀ place, Below (opened.placeOf "cache") place → opened.entryAt? place = none := by
    have isRoot : opened.placeOf "cache" = ["cache"] := by decide +kernel
    rw [isRoot]
    rintro _ ⟨below, names, rfl⟩
    exact (FileTree.entryAt?_put _ (by decide) _ _).trans (if_neg (by simp))
  have run : StoreRun "cache" (fun _ _ _ => True) opened [⟨key, []⟩] (cache.store opened key []).2.2 :=
    @StoreRun.store "cache" _ cache opened _ ⟨key, []⟩ [] rfl trivial (.done _)
  have left := stores (by decide +kernel) empty _ _ _ run
  exact left.1.trans rfl

end DiskCache

end Lintel
