import Lintel.Proofs.DiskCache
import Lintel.Proofs.TreeShape

/-!
# Caches that hold right results only

A cache keeps to a relation between keys and results if everything that it can hand out is in the
relation. Looking a result up keeps it so, and so does storing a result that is in the relation, whether
or not the store succeeds. What a store does to the file tree stays below the root of the cache.
-/

set_option autoImplicit false

namespace Lintel

namespace FileTree

/-- A change that stays below a root: directories stay, and a file is left where it was, comes from
elsewhere below the root, or has the given content. -/
structure Changes (root : Location) (content : ByteArray) (tree after : FileTree) : Prop where
  home : after.workingDirectory = tree.workingDirectory
  outside : ∀ place, ¬ Below root place → after.entryAt? place = tree.entryAt? place
  directories : ∀ place, tree.entryAt? place = some .directory → after.entryAt? place = some .directory
  files : ∀ place bytes, Below root place → after.entryAt? place = some (.file bytes) →
    bytes = content ∨ ∃ other, Below root other ∧ tree.entryAt? other = some (.file bytes)

namespace Changes

variable {root : Location} {content : ByteArray} {tree middle after : FileTree}

theorem refl (root : Location) (content : ByteArray) (tree : FileTree) : Changes root content tree tree where
  home := rfl
  outside _ _ := rfl
  directories _ isDirectory := isDirectory
  files place _ below found := .inr ⟨place, below, found⟩

theorem trans (first : Changes root content tree middle) (second : Changes root content middle after) :
    Changes root content tree after where
  home := second.home.trans first.home
  outside place notBelow := (second.outside place notBelow).trans (first.outside place notBelow)
  directories place isDirectory := second.directories place (first.directories place isDirectory)
  files place bytes below found := by
    rcases second.files place bytes below found with same | ⟨other, otherBelow, otherFound⟩
    · exact .inl same
    · exact first.files other bytes otherBelow otherFound

theorem putDirectory {place : Location} (below : Below root place) (missing : tree.entryAt? place = none) :
    Changes root content tree (tree.put place .directory) := by
  have proper : place ≠ [] := fun same => not_below_nil root (same ▸ below)
  have putAt := tree.entryAt?_put proper .directory
  refine ⟨rfl, fun other notBelow => ?_, fun other isDirectory => ?_, fun other bytes otherBelow found => ?_⟩
  · rw [putAt, if_neg]
    rintro rfl
    exact notBelow below
  · rw [putAt]
    split
    · rfl
    · exact isDirectory
  · rw [putAt] at found
    split at found
    · cases found
    · exact .inr ⟨other, otherBelow, found⟩

theorem putFile {place : Location} (below : Below root place)
    (free : tree.entryAt? place ≠ some .directory) :
    Changes root content tree (tree.put place (.file content)) := by
  have proper : place ≠ [] := fun same => not_below_nil root (same ▸ below)
  have putAt := tree.entryAt?_put proper (.file content)
  refine ⟨rfl, fun other notBelow => ?_, fun other isDirectory => ?_, fun other bytes otherBelow found => ?_⟩
  · rw [putAt, if_neg]
    rintro rfl
    exact notBelow below
  · rw [putAt, if_neg, isDirectory]
    rintro rfl
    exact free isDirectory
  · rw [putAt] at found
    split at found
    · cases found
      exact .inl rfl
    · exact .inr ⟨other, otherBelow, found⟩

theorem eraseFile {place : Location} {bytes : ByteArray} (below : Below root place)
    (isFile : tree.entryAt? place = some (.file bytes)) : Changes root content tree (tree.erase place) := by
  have proper : place ≠ [] := fun same => not_below_nil root (same ▸ below)
  have erasedAt := tree.entryAt?_erase proper
  refine ⟨rfl, fun other notBelow => ?_, fun other isDirectory => ?_, fun other bytes otherBelow found => ?_⟩
  · rw [erasedAt, if_neg]
    rintro rfl
    exact notBelow below
  · rw [erasedAt, if_neg, isDirectory]
    rintro rfl
    rw [isFile] at isDirectory
    cases isDirectory
  · rw [erasedAt] at found
    split at found
    · cases found
    · exact .inr ⟨other, otherBelow, found⟩

theorem moveFile {start target : Location} {bytes : ByteArray} (belowStart : Below root start)
    (belowTarget : Below root target) (isFile : tree.entryAt? start = some (.file bytes))
    (free : (tree.erase start).entryAt? target ≠ some .directory) :
    Changes root content tree ((tree.erase start).put target (.file bytes)) := by
  have erases : Changes root content tree (tree.erase start) := .eraseFile belowStart isFile
  have properTarget : target ≠ [] := fun same => not_below_nil root (same ▸ belowTarget)
  have movedAt := (tree.erase start).entryAt?_put properTarget (.file bytes)
  refine ⟨rfl, fun other notBelow => ?_, fun other isDirectory => ?_, fun other found otherBelow held => ?_⟩
  · rw [movedAt, if_neg, erases.outside other notBelow]
    rintro rfl
    exact notBelow belowTarget
  · have kept := erases.directories other isDirectory
    rw [movedAt, if_neg, kept]
    rintro rfl
    exact free kept
  · rw [movedAt] at held
    split at held
    · cases held
      exact .inr ⟨start, belowStart, isFile⟩
    · exact erases.files other found otherBelow held

theorem removeFile {path : String} (below : Below root (tree.placeOf path)) :
    Changes root content tree (tree.removeFile path).2 := by
  rcases tree.removeFile_cases path with unchanged | ⟨bytes, isFile, erased⟩
  · rw [unchanged]
    exact .refl root content tree
  · rw [erased]
    exact .eraseFile below isFile

end Changes

end FileTree

namespace DiskCache

open FileTree (Changes Below)

attribute [local irreducible] CacheKey.digest

variable {cache : DiskCache} {tree : FileTree} {root : Location} {content : ByteArray}

theorem replaceFile_changes {temporary path : String} (belowTemporary : Below root (tree.placeOf temporary))
    (below : Below root (tree.placeOf path)) :
    Changes root content tree (replaceFile tree temporary path content).2 := by
  rw [replaceFile]
  rcases tree.writeFile_cases temporary content with ⟨cause, failed⟩ | ⟨free, written⟩
  · rw [failed]
    exact .removeFile belowTemporary
  · rw [written]
    have writes : Changes root content tree (tree.put (tree.placeOf temporary) (.file content)) :=
      .putFile belowTemporary free
    generalize tree.put (tree.placeOf temporary) (.file content) = middle at writes
    have sameTemporary := FileTree.placeOf_congr writes.home temporary
    have samePath := FileTree.placeOf_congr writes.home path
    rw [← sameTemporary] at belowTemporary
    rw [← samePath] at below
    rcases middle.renameFile_cases temporary path with ⟨cause, failed⟩ | ⟨bytes, isFile, freeTarget, moved⟩
    · simp only [failed]
      exact writes.trans (.removeFile belowTemporary)
    · simp only [moved]
      exact writes.trans (.moveFile belowTemporary below isFile freeTarget)

/-- A directory in which a cache can be used: one that is open, or the empty path, which opening a cache
does not look at. -/
def Usable (tree : FileTree) (directory : String) : Prop :=
  directory = "" ∨ tree.IsOpen directory

theorem Usable.of_changes {after : FileTree} {directory : String} (usable : Usable tree directory)
    (changes : Changes root content tree after) : Usable after directory :=
  usable.imp id fun isOpen => isOpen.of_keeps changes.home changes.directories

theorem usable_of_openAt {start : FileTree} {directory : String} {processId : Nat}
    (opened : openAt tree directory processId = (.ok cache, start)) : Usable start cache.directory := by
  obtain ⟨rfl, openUnlessEmpty⟩ := openAt_eq_ok opened
  by_cases empty : cache.directory = ""
  · exact .inl empty
  · exact .inr (openUnlessEmpty empty)

theorem below_shardPlace (root : Location) (digest : String) : Below root (shardPlace root digest) :=
  ⟨_, [], rfl⟩

theorem below_entryPlace (root : Location) (digest : String) : Below root (entryPlace root digest) :=
  ⟨_, _, by rw [entryPlace, shardPlace, List.append_assoc]; rfl⟩

theorem below_temporaryPlace (cache : DiskCache) (root : Location) (digest : String) :
    Below root (cache.temporaryPlace root digest) :=
  ⟨_, _, by rw [temporaryPlace, shardPlace, List.append_assoc]; rfl⟩

theorem createDirectories_changes (content : ByteArray) (key : CacheKey) (usable : Usable tree cache.directory) :
    Changes (tree.placeOf cache.directory) content tree
      (tree.createDirectories (cache.shardPath key.digest)).2 := by
  have unchanged := Changes.refl (tree.placeOf cache.directory) content tree
  by_cases isDirectory : tree.entryAt? (tree.placeOf cache.directory) = some .directory
  · have isOpen : tree.IsOpen cache.directory := by
      rcases usable with empty | isOpen
      · rw [empty] at isDirectory ⊢
        exact FileTree.isOpen_empty isDirectory
      · exact isOpen
    rw [shardPath_eq, FileTree.createDirectories_join isOpen (plainName_shardName key)]
    split
    · rename_i missing
      exact .putDirectory (below_shardPlace _ _) missing
    · exact unchanged
    · exact unchanged
  · -- the empty path, and no working directory to make anything in
    rcases usable with empty | isOpen
    · rw [empty] at isDirectory
      rw [shardPath_eq, empty, FileTree.createDirectories_stuck (plainName_shardName key) isDirectory,
        ← empty]
      exact unchanged
    · exact absurd isOpen.isDirectory isDirectory

/-- A store changes nothing outside the cache, however it ends. -/
theorem store_changes (usable : Usable tree cache.directory) (key : CacheKey)
    (diagnostics : List Diagnostic) :
    Changes (tree.placeOf cache.directory) (CacheEntry.encode ⟨key, diagnostics⟩) tree
        (cache.store tree key diagnostics).2.2 ∧
      (cache.store tree key diagnostics).2.1.directory = cache.directory := by
  have created := createDirectories_changes (CacheEntry.encode ⟨key, diagnostics⟩) key usable
  unfold store
  dsimp only
  generalize tree.createDirectories (cache.shardPath key.digest) = result at created ⊢
  rcases result with ⟨_ | _, made⟩
  · exact ⟨created, rfl⟩
  · have sameRoot := FileTree.placeOf_congr created.home cache.directory
    have replaced : Changes (tree.placeOf cache.directory) (CacheEntry.encode ⟨key, diagnostics⟩) made
        (replaceFile made (cache.temporaryPath key.digest) (cache.entryPath key.digest)
          (CacheEntry.encode ⟨key, diagnostics⟩)).2 := by
      refine replaceFile_changes ?_ ?_
      · rw [placeOf_temporaryPath, sameRoot]
        exact below_temporaryPlace cache _ _
      · rw [placeOf_entryPath, sameRoot]
        exact below_entryPlace _ _
    dsimp only
    generalize replaceFile made (cache.temporaryPath key.digest) (cache.entryPath key.digest)
      (CacheEntry.encode ⟨key, diagnostics⟩) = result at replaced ⊢
    rcases result with ⟨_ | _, after⟩
    · exact ⟨created.trans replaced, rfl⟩
    · exact ⟨created.trans replaced, rfl⟩

/-- What is loaded stands in the file of the digest, under the very key. -/
theorem entry_of_load {key : CacheKey} {diagnostics : List Diagnostic}
    (loaded : cache.load tree key = .ok (some diagnostics)) :
    ∃ bytes, tree.entryAt? (entryPlace (tree.placeOf cache.directory) key.digest) = some (.file bytes) ∧
      CacheEntry.decode? bytes = some ⟨key, diagnostics⟩ := by
  unfold load at loaded
  dsimp only at loaded
  cases read : tree.readBytes (cache.entryPath key.digest) with
  | error cause =>
    rw [read] at loaded
    cases cause <;> cases loaded
  | ok bytes =>
    rw [read] at loaded
    have found := FileTree.readBytes_eq_ok read
    rw [placeOf_entryPath] at found
    refine ⟨bytes, found, ?_⟩
    cases decoded : CacheEntry.decode? bytes with
    | none => simp [decoded] at loaded
    | some entry =>
      simp only [decoded, Except.ok.injEq] at loaded
      split at loaded
      · rename_i sameKey
        subst sameKey
        rw [← Option.some.inj loaded]
      · cases loaded

end DiskCache

/-- Every file below a root has a property. -/
def FileTree.HoldsOnly (tree : FileTree) (root : Location) (good : ByteArray → Prop) : Prop :=
  ∀ place bytes, Below root place → tree.entryAt? place = some (.file bytes) → good bytes

theorem FileTree.HoldsOnly.of_changes {tree after : FileTree} {root : Location} {content : ByteArray}
    {good : ByteArray → Prop} (holds : tree.HoldsOnly root good)
    (changes : FileTree.Changes root content tree after) (isGood : good content) :
    after.HoldsOnly root good := by
  intro place bytes below found
  rcases changes.files place bytes below found with rfl | ⟨other, otherBelow, held⟩
  · exact isGood
  · exact holds other bytes otherBelow held

/-- Bytes that are no entry, or one that is in a relation between keys and results. -/
def CacheEntry.Right (truth : CacheKey → List Diagnostic → Prop) (bytes : ByteArray) : Prop :=
  ∀ entry, decode? bytes = some entry → truth entry.key entry.diagnostics

theorem CacheEntry.right_encode {truth : CacheKey → List Diagnostic → Prop} {entry : CacheEntry}
    (right : truth entry.key entry.diagnostics) : Right truth entry.encode := by
  intro found decoded
  rwa [eq_of_decode?_encode decoded]

section Keeps

variable {truth : CacheKey → List Diagnostic → Prop} {tree : FileTree}

/-- Everything that a store can hand out is in a relation between keys and results. -/
def CacheStore.Keeps (truth : CacheKey → List Diagnostic → Prop) (tree : FileTree) : CacheStore → Prop
  | memory cache => ∀ entry ∈ cache.entries, truth entry.1 entry.2
  | disk cache => DiskCache.Usable tree cache.directory ∧
    tree.HoldsOnly (tree.placeOf cache.directory) (CacheEntry.Right truth)

/-- The place below which a store changes the file tree, if there is one. -/
def CacheStore.root? (tree : FileTree) : CacheStore → Option Location
  | memory _ => none
  | disk cache => some (tree.placeOf cache.directory)

theorem CacheStore.truth_of_load {store : CacheStore} {key : CacheKey} {diagnostics : List Diagnostic}
    (keeps : store.Keeps truth tree) (loaded : store.load tree key = .ok (some diagnostics)) :
    truth key diagnostics := by
  cases store with
  | memory cache =>
    simp only [load, MemoryCache.load, Except.ok.injEq, Option.map_eq_some_iff] at loaded
    obtain ⟨entry, found, rfl⟩ := loaded
    have same : entry.1 = key := by simpa using List.find?_some found
    exact same ▸ keeps entry (List.mem_of_find?_eq_some found)
  | disk cache =>
    rw [load] at loaded
    obtain ⟨bytes, found, decoded⟩ := DiskCache.entry_of_load loaded
    exact keeps.2 _ bytes (DiskCache.below_entryPlace _ _) found _ decoded

/-- Trees that agree outside the place of a cache. -/
structure FileTree.AgreeOutside (root? : Option Location) (first second : FileTree) : Prop where
  home : second.workingDirectory = first.workingDirectory
  outside : ∀ place, (∀ root, root? = some root → ¬ FileTree.Below root place) →
    second.entryAt? place = first.entryAt? place

theorem FileTree.AgreeOutside.refl (root? : Option Location) (tree : FileTree) :
    FileTree.AgreeOutside root? tree tree :=
  ⟨rfl, fun _ _ => rfl⟩

theorem FileTree.AgreeOutside.trans {root? : Option Location} {first second third : FileTree}
    (early : FileTree.AgreeOutside root? first second) (late : FileTree.AgreeOutside root? second third) :
    FileTree.AgreeOutside root? first third :=
  ⟨late.home.trans early.home, fun place notBelow =>
    (late.outside place notBelow).trans (early.outside place notBelow)⟩

theorem CacheStore.store_keeps {store : CacheStore} {key : CacheKey} {diagnostics : List Diagnostic}
    (keeps : store.Keeps truth tree) (right : truth key diagnostics) :
    (store.store tree key diagnostics).2.1.Keeps truth (store.store tree key diagnostics).2.2 ∧
      (store.store tree key diagnostics).2.1.root? (store.store tree key diagnostics).2.2 =
        store.root? tree ∧
      FileTree.AgreeOutside (store.root? tree) tree (store.store tree key diagnostics).2.2 := by
  cases store with
  | memory cache =>
    refine ⟨?_, rfl, .refl _ tree⟩
    intro entry member
    rcases List.mem_cons.mp member with rfl | earlier
    · exact right
    · exact keeps entry (List.mem_filter.mp earlier).1
  | disk cache =>
    obtain ⟨changes, sameDirectory⟩ := DiskCache.store_changes keeps.1 key diagnostics
    simp only [CacheStore.store]
    generalize cache.store tree key diagnostics = result at changes sameDirectory ⊢
    obtain ⟨outcome, next, after⟩ := result
    dsimp only at changes sameDirectory
    have sameRoot := FileTree.placeOf_congr changes.home cache.directory
    simp only [Keeps, root?, sameDirectory, sameRoot]
    exact ⟨⟨keeps.1.of_changes changes, keeps.2.of_changes changes (CacheEntry.right_encode right)⟩, trivial,
      changes.home, fun place notBelow => changes.outside place (notBelow _ rfl)⟩

end Keeps

namespace Cache

variable {truth : CacheKey → List Diagnostic → Prop} {cache : Cache} {tree : FileTree}

/-- Everything that a cache can hand out is in a relation between keys and results. -/
def Keeps (truth : CacheKey → List Diagnostic → Prop) (cache : Cache) (tree : FileTree) : Prop :=
  ∀ store, cache.store = some store → store.Keeps truth tree

/-- The place below which a cache changes the file tree, if there is one. -/
def root? (cache : Cache) (tree : FileTree) : Option Location :=
  cache.store.bind fun store => store.root? tree

theorem keeps_memory (truth : CacheKey → List Diagnostic → Prop) (tree : FileTree) :
    memory.Keeps truth tree := by
  intro store enabled
  cases enabled
  exact fun _ member => absurd member List.not_mem_nil

theorem store_lookup (cache : Cache) (tree : FileTree) (key : CacheKey) :
    (cache.lookup tree key).2.store = cache.store := by
  unfold lookup
  split
  · rfl
  · split <;> rfl

theorem truth_of_lookup {key : CacheKey} {diagnostics : List Diagnostic} (keeps : cache.Keeps truth tree)
    (found : (cache.lookup tree key).1 = some diagnostics) : truth key diagnostics := by
  unfold lookup at found
  split at found
  · cases found
  · rename_i store enabled
    split at found
    · rename_i loaded
      cases found
      exact CacheStore.truth_of_load (keeps store enabled) loaded
    · cases found
    · cases found

theorem lookup_keeps (keeps : cache.Keeps truth tree) (key : CacheKey) :
    (cache.lookup tree key).2.Keeps truth tree ∧ (cache.lookup tree key).2.root? tree = cache.root? tree := by
  rw [Keeps, root?, store_lookup]
  exact ⟨keeps, rfl⟩

/-- A right result may be put into a cache. Nothing changes outside the place of the cache. -/
theorem put_keeps {key : CacheKey} {diagnostics : List Diagnostic} (keeps : cache.Keeps truth tree)
    (right : truth key diagnostics) :
    (cache.put tree key diagnostics).1.Keeps truth (cache.put tree key diagnostics).2 ∧
      (cache.put tree key diagnostics).1.root? (cache.put tree key diagnostics).2 = cache.root? tree ∧
      FileTree.AgreeOutside (cache.root? tree) tree (cache.put tree key diagnostics).2 := by
  cases enabled : cache.store with
  | none =>
    have unchanged : cache.put tree key diagnostics = (cache, tree) := by simp [put, enabled]
    rw [unchanged]
    exact ⟨keeps, rfl, .refl _ tree⟩
  | some store =>
    obtain ⟨kept, sameRoot, outside⟩ := CacheStore.store_keeps (keeps store enabled) right
    have isRoot : cache.root? tree = store.root? tree := by simp [root?, enabled]
    have left : (cache.put tree key diagnostics).1.store = some (store.store tree key diagnostics).2.1 ∧
        (cache.put tree key diagnostics).2 = (store.store tree key diagnostics).2.2 := by
      rw [put, enabled]
      dsimp only
      generalize store.store tree key diagnostics = result
      rcases result with ⟨_ | _, after, changed⟩ <;> exact ⟨rfl, rfl⟩
    rw [Keeps, root?, left.1, left.2, isRoot]
    refine ⟨?_, sameRoot, outside⟩
    rintro after isAfter
    cases isAfter
    exact kept

end Cache

end Lintel
