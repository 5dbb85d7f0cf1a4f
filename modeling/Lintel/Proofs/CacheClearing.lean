import Lintel.Proofs.AtomicStore
import Lintel.Proofs.CacheNames
import Mathlib.Data.Set.Basic

/-!
# Clearing a cache

Clearing walks over what stands below the root of a cache, contents before their directory. Each step takes away
at most one thing, and what it takes away depends only on what stands below one directory, so the steps do not
disturb each other. What is gone in the end are the files of the cache and the directories that are empty without
them.
-/

set_option autoImplicit false

namespace Lintel

namespace FileTree

/-! ## Trees from which something is gone -/

/-- A tree from which exactly some locations are gone. -/
structure Loses (gone : Set Location) (tree after : FileTree) : Prop where
  home : after.workingDirectory = tree.workingDirectory
  distinct : tree.Distinct → after.Distinct
  missing : ∀ place ∈ gone, after.entryAt? place = none
  kept : ∀ place, place ∉ gone → after.entryAt? place = tree.entryAt? place

namespace Loses

variable {gone later : Set Location} {tree middle after : FileTree} {place : Location}

theorem refl (tree : FileTree) : Loses ∅ tree tree where
  home := rfl
  distinct := id
  missing _ member := absurd member (Set.notMem_empty _)
  kept _ _ := rfl

theorem trans (first : Loses gone tree middle) (second : Loses later middle after) :
    Loses (gone ∪ later) tree after where
  home := second.home.trans first.home
  distinct := second.distinct ∘ first.distinct
  missing place member := by
    by_cases isLater : place ∈ later
    · exact second.missing place isLater
    · rw [second.kept place isLater, first.missing place (member.resolve_right isLater)]
  kept place notMember := by
    rw [Set.mem_union, not_or] at notMember
    rw [second.kept place notMember.2, first.kept place notMember.1]

theorem erase {place : Location} (proper : place ≠ []) (tree : FileTree) : Loses {place} tree (tree.erase place) where
  home := rfl
  distinct isDistinct := isDistinct.erase place
  missing other isPlace := by rw [entryAt?_erase _ proper, if_pos (Set.mem_singleton_iff.mp isPlace)]
  kept other notPlace := by rw [entryAt?_erase _ proper, if_neg (mt Set.mem_singleton_iff.mpr notPlace)]

theorem stands (loses : Loses gone tree after) (stands : after.entryAt? place ≠ none) :
    place ∉ gone ∧ after.entryAt? place = tree.entryAt? place := by
  have notGone : place ∉ gone := fun isGone => stands (loses.missing place isGone)
  exact ⟨notGone, loses.kept place notGone⟩

theorem fileAt?_eq (loses : Loses gone tree after) (notGone : place ∉ gone) :
    after.fileAt? place = tree.fileAt? place :=
  fileAt?_congr (loses.kept place notGone)

theorem fileAt?_of_mem (loses : Loses gone tree after) (isGone : place ∈ gone) : after.fileAt? place = none :=
  fileAt?_of_missing (loses.missing place isGone)

/-- What is gone takes with it what stands in it. -/
theorem wellFormed (loses : Loses gone tree after) (wellFormed : tree.WellFormed)
    (closed : ∀ place ∈ gone, ∀ name, tree.entryAt? (place ++ [name]) ≠ none → place ++ [name] ∈ gone) :
    after.WellFormed where
  distinct := loses.distinct wellFormed.distinct
  parents above name stands := by
    obtain ⟨notGone, same⟩ := loses.stands stands
    rw [same] at stands
    have aboveKept : above ∉ gone := fun isGone => notGone (closed above isGone name stands)
    rw [loses.kept above aboveKept]
    exact wellFormed.parents above name stands

end Loses

end FileTree

namespace DiskCache

open FileTree (Loses fileAt?_of_missing fileAt?_of_directory fileAt?_eq_some_iff)

variable {root : Location} {tree after : FileTree} {shard name : String}

/-! ## What clearing takes away -/

/-- A file of the cache that stands in a directory below the root. -/
structure FileGoes (root : Location) (tree : FileTree) (shard name : String) : Prop where
  isShard : IsShard shard
  isCacheName : IsCacheName shard name
  isFile : tree.fileAt? (root ++ [shard, name]) ≠ none

/-- A directory of the cache in which there is nothing but files of the cache. -/
structure ShardGoes (root : Location) (tree : FileTree) (shard : String) : Prop where
  isShard : IsShard shard
  isDirectory : tree.entryAt? (root ++ [shard]) = some .directory
  emptied : ∀ name, tree.entryAt? (root ++ [shard, name]) ≠ none → FileGoes root tree shard name

/-- What goes with one directory below the root. -/
inductive GoesWith (root : Location) (tree : FileTree) (shard : String) : Location → Prop where
  | file {name : String} : FileGoes root tree shard name → GoesWith root tree shard (root ++ [shard, name])
  | directory : ShardGoes root tree shard → GoesWith root tree shard (root ++ [shard])

/-- Everything that clearing takes away. -/
def Goes (root : Location) (tree : FileTree) : Set Location :=
  {place | ∃ shard, GoesWith root tree shard place}

/-- A location whose name is that of a `.json` file. -/
def IsJson (place : Location) : Prop := ∃ name, place.getLast? = some name ∧ ".json".toList <:+ name.toList

/-! ## Steps -/

/-- A step takes some locations away and counts the `.json` files among them. -/
structure ClearsAway (gone : Set Location) (before after : Nat × FileTree) : Prop where
  loses : Loses gone before.2 after.2
  counted : ∃ removed : Finset Location,
    (∀ place, place ∈ removed ↔ place ∈ gone ∧ before.2.fileAt? place ≠ none ∧ IsJson place) ∧
      after.1 = before.1 + removed.card

namespace ClearsAway

variable {gone later : Set Location} {before middle after : Nat × FileTree}

theorem refl (before : Nat × FileTree) : ClearsAway ∅ before before where
  loses := .refl before.2
  counted := ⟨∅, by simp, rfl⟩

theorem congr (clears : ClearsAway gone before after) (same : ∀ place, place ∈ later ↔ place ∈ gone) :
    ClearsAway later before after := by
  rwa [Set.ext same]

theorem trans (first : ClearsAway gone before middle) (second : ClearsAway later middle after) :
    ClearsAway (gone ∪ later) before after where
  loses := first.loses.trans second.loses
  counted := by
    obtain ⟨early, inEarly, earlyCount⟩ := first.counted
    obtain ⟨late, inLate, lateCount⟩ := second.counted
    -- what the second step counts was still there after the first one
    have remains : ∀ place ∈ late, place ∉ gone := by
      intro place member isGone
      exact ((inLate place).mp member).2.1 (first.loses.fileAt?_of_mem isGone)
    have apart : Disjoint early late := by
      rw [Finset.disjoint_left]
      intro place isEarly isLate
      exact remains place isLate ((inEarly place).mp isEarly).1
    refine ⟨early ∪ late, ?_, ?_⟩
    · intro place
      rw [Finset.mem_union, inEarly, inLate, Set.mem_union]
      by_cases isGone : place ∈ gone
      · simp [isGone, first.loses.fileAt?_of_mem isGone]
      · simp [isGone, first.loses.fileAt?_eq isGone]
    · rw [lateCount, earlyCount, Finset.card_union_of_disjoint apart, Nat.add_assoc]

theorem erase_json {tree : FileTree} {place : Location} (proper : place ≠ [])
    (isFile : tree.fileAt? place ≠ none) (isJson : IsJson place) (number : Nat) :
    ClearsAway {place} (number, tree) (number + 1, tree.erase place) where
  loses := .erase proper tree
  counted := by
    refine ⟨{place}, fun other => ?_, rfl⟩
    rw [Finset.mem_singleton, Set.mem_singleton_iff]
    refine ⟨?_, And.left⟩
    rintro rfl
    exact ⟨rfl, isFile, isJson⟩

theorem erase_other {tree : FileTree} {place : Location} (proper : place ≠ [])
    (notJson : tree.fileAt? place ≠ none → ¬ IsJson place) (number : Nat) :
    ClearsAway {place} (number, tree) (number, tree.erase place) where
  loses := .erase proper tree
  counted := by
    refine ⟨∅, fun other => iff_of_false (Finset.notMem_empty other) ?_, rfl⟩
    rintro ⟨rfl, isFile, isJson⟩
    exact notJson isFile isJson

theorem counts_lost (clears : ClearsAway gone before after) :
    ∃ removed : Finset Location, (∀ place, place ∈ removed ↔
        before.2.fileAt? place ≠ none ∧ after.2.fileAt? place = none ∧ IsJson place) ∧
      after.1 = before.1 + removed.card := by
  obtain ⟨removed, inRemoved, counted⟩ := clears.counted
  refine ⟨removed, fun place => ?_, counted⟩
  rw [inRemoved]
  constructor
  · rintro ⟨isGone, isFile, isJson⟩
    exact ⟨isFile, clears.loses.fileAt?_of_mem isGone, isJson⟩
  · rintro ⟨isFile, missing, isJson⟩
    refine ⟨?_, isFile, isJson⟩
    by_contra notGone
    rw [clears.loses.fileAt?_eq notGone] at missing
    exact isFile missing

/-- Steps over children of which each takes away what belongs to it alone. -/
theorem foldl {step : Nat × FileTree → String × FileEntry → Nat × FileTree}
    {gone : FileTree → String × FileEntry → Set Location} {Fits : FileTree → String × FileEntry → Prop}
    (steps : ∀ before child, Fits before.2 child → ClearsAway (gone before.2 child) before (step before child))
    (apart : ∀ tree after first second, first.1 ≠ second.1 → Fits tree first → Loses (gone tree first) tree after →
      Fits tree second → Fits after second ∧ gone after second = gone tree second)
    {children : List (String × FileEntry)} (distinct : (children.map Prod.fst).Nodup)
    (fits : ∀ child ∈ children, Fits before.2 child) :
    ClearsAway {place | ∃ child ∈ children, place ∈ gone before.2 child} before (children.foldl step before) := by
  induction children generalizing before with
  | nil =>
    refine (ClearsAway.refl before).congr fun place => ?_
    simp
  | cons first children ih =>
    obtain ⟨new, distinctLater⟩ := List.nodup_cons.mp distinct
    have fitsFirst := fits first List.mem_cons_self
    have clears := steps before first fitsFirst
    have undisturbed : ∀ child ∈ children, Fits (step before first).2 child ∧
        gone (step before first).2 child = gone before.2 child := by
      intro child member
      refine apart _ _ first child ?_ fitsFirst clears.loses (fits child (List.mem_cons_of_mem _ member))
      intro same
      exact new (same ▸ List.mem_map_of_mem member)
    refine (clears.trans (ih distinctLater fun child member => (undisturbed child member).1)).congr ?_
    intro place
    simp only [Set.mem_union, Set.mem_ofPred_eq, List.exists_mem_cons_iff]
    refine or_congr_right (exists_congr fun child => and_congr_right fun member => ?_)
    rw [(undisturbed child member).2]

end ClearsAway

theorem append_names (root : Location) (shard name : String) : root ++ [shard] ++ [name] = root ++ [shard, name] := by
  rw [List.append_assoc, List.singleton_append]

theorem isJson_iff (root : Location) (shard name : String) :
    IsJson (root ++ [shard, name]) ↔ ".json".toList <:+ name.toList := by
  rw [← append_names, IsJson, List.getLast?_concat]
  simp

theorem FileGoes.congr (same : after.entryAt? (root ++ [shard, name]) = tree.entryAt? (root ++ [shard, name]))
    (goes : FileGoes root tree shard name) : FileGoes root after shard name where
  isShard := goes.isShard
  isCacheName := goes.isCacheName
  isFile := by
    rw [FileTree.fileAt?_congr same]
    exact goes.isFile

theorem fileGoes_iff {entry : FileEntry} (stands : tree.entryAt? (root ++ [shard, name]) = some entry) :
    (entry.isFile && isShardName shard && isCacheFileName shard name) = true ↔ FileGoes root tree shard name := by
  rw [Bool.and_eq_true, Bool.and_eq_true, isShardName_iff, isCacheFileName_iff]
  cases entry with
  | directory =>
    refine iff_of_false (fun holds => by cases holds.1.1) fun goes => goes.isFile ?_
    exact fileAt?_of_directory stands
  | file content =>
    have isFile : tree.fileAt? (root ++ [shard, name]) ≠ none := by
      rw [fileAt?_eq_some_iff.mpr stands]
      exact Option.some_ne_none content
    exact ⟨fun holds => ⟨holds.1.2, holds.2, isFile⟩, fun goes => ⟨⟨rfl, goes.isShard⟩, goes.isCacheName⟩⟩

theorem clearFile_clears {before : Nat × FileTree} {child : String × FileEntry}
    (stands : before.2.entryAt? (root ++ [shard, child.1]) = some child.2) :
    ClearsAway {place | place = root ++ [shard, child.1] ∧ FileGoes root before.2 shard child.1} before
      (clearFile root shard before child) := by
  obtain ⟨number, tree⟩ := before
  obtain ⟨name, entry⟩ := child
  dsimp only at stands ⊢
  have proper : root ++ [shard, name] ≠ [] := by simp
  rw [clearFile]
  split
  · rename_i holds
    have goes := (fileGoes_iff stands).mp holds
    have json_iff := (isEntryEnding_iff goes.isCacheName).trans (isJson_iff root shard name).symm
    have only : ∀ place, place ∈ {place | place = root ++ [shard, name] ∧ FileGoes root tree shard name} ↔
        place ∈ ({root ++ [shard, name]} : Set Location) := by
      intro place
      exact ⟨fun isPlace => isPlace.1, fun isPlace => ⟨isPlace, goes⟩⟩
    refine ClearsAway.congr ?_ only
    split
    · rename_i isEntry
      exact .erase_json proper goes.isFile (json_iff.mp isEntry) number
    · rename_i isTemporary
      exact .erase_other proper (fun _ isJson => isTemporary (json_iff.mpr isJson)) number
  · rename_i holds
    refine (ClearsAway.refl (number, tree)).congr fun place => ?_
    simp only [Set.mem_ofPred_eq, Set.mem_empty_iff_false, iff_false, not_and]
    exact fun _ goes => holds ((fileGoes_iff stands).mpr goes)

theorem foldl_clearFile_clears {before : Nat × FileTree} (distinct : before.2.Distinct) (shard : String) :
    ClearsAway {place | ∃ name, place = root ++ [shard, name] ∧ FileGoes root before.2 shard name} before
      ((before.2.childrenOf (root ++ [shard])).foldl (clearFile root shard) before) := by
  let gone (tree : FileTree) (child : String × FileEntry) : Set Location :=
    {place | place = root ++ [shard, child.1] ∧ FileGoes root tree shard child.1}
  let Fits (tree : FileTree) (child : String × FileEntry) : Prop :=
    tree.entryAt? (root ++ [shard, child.1]) = some child.2
  have apart : ∀ tree after first second, first.1 ≠ second.1 → Fits tree first → Loses (gone tree first) tree after →
      Fits tree second → Fits after second ∧ gone after second = gone tree second := by
    intro tree after first second different _ loses stands
    have notGone : root ++ [shard, second.1] ∉ gone tree first := by
      rintro ⟨same, -⟩
      simp [Ne.symm different] at same
    have same := loses.kept _ notGone
    have goes_iff : FileGoes root after shard second.1 ↔ FileGoes root tree shard second.1 :=
      ⟨FileGoes.congr same.symm, FileGoes.congr same⟩
    exact ⟨same.trans stands, Set.ext fun place => and_congr_right fun _ => goes_iff⟩
  have stands : ∀ child ∈ before.2.childrenOf (root ++ [shard]), Fits before.2 child := by
    rintro ⟨name, entry⟩ member
    have found := (FileTree.mem_childrenOf distinct).mp member
    rwa [append_names] at found
  refine (ClearsAway.foldl (fun before child fits => clearFile_clears fits) apart
    (before.2.ascending_childrenOf _).nodup_keys stands).congr fun place => ?_
  constructor
  · rintro ⟨name, rfl, goes⟩
    obtain ⟨content, isFile⟩ := Option.ne_none_iff_exists'.mp goes.isFile
    have found := fileAt?_eq_some_iff.mp isFile
    rw [← append_names] at found
    exact ⟨(name, .file content), (FileTree.mem_childrenOf distinct).mpr found, rfl, goes⟩
  · rintro ⟨child, -, isPlace, goes⟩
    exact ⟨child.1, isPlace, goes⟩

section Emptied

variable {before middle : Nat × FileTree}

theorem childrenOf_eq_nil_iff_emptied (distinct : before.2.Distinct)
    (files : ClearsAway {place | ∃ name, place = root ++ [shard, name] ∧ FileGoes root before.2 shard name}
      before middle) :
    middle.2.childrenOf (root ++ [shard]) = [] ↔
      ∀ name, before.2.entryAt? (root ++ [shard, name]) ≠ none → FileGoes root before.2 shard name := by
  rw [FileTree.childrenOf_eq_nil_iff (files.loses.distinct distinct)]
  refine forall_congr' fun name => ?_
  rw [append_names]
  constructor
  · intro missing stands
    by_contra stays
    rw [files.loses.kept] at missing
    · exact stands missing
    · rintro ⟨other, same, goes⟩
      obtain rfl : name = other := by simpa using same
      exact stays goes
  · intro goes
    by_contra stands
    obtain ⟨notGone, same⟩ := files.loses.stands stands
    rw [same] at stands
    exact notGone ⟨name, rfl, goes stands⟩

/-- The directory itself, once the files of the cache in it are gone. -/
theorem removeDirectory_clears (distinct : before.2.Distinct)
    (isDirectory : before.2.entryAt? (root ++ [shard]) = some .directory)
    (files : ClearsAway {place | ∃ name, place = root ++ [shard, name] ∧ FileGoes root before.2 shard name}
      before middle) :
    ClearsAway {place | place = root ++ [shard] ∧ ShardGoes root before.2 shard} middle
      (middle.1, if isShardName shard then middle.2.removeDirectory (root ++ [shard]) else middle.2) := by
  have isEmpty_iff := childrenOf_eq_nil_iff_emptied distinct files
  by_cases goes : ShardGoes root before.2 shard
  · have removes : middle.2.removeDirectory (root ++ [shard]) = middle.2.erase (root ++ [shard]) := by
      rw [FileTree.removeDirectory, isEmpty_iff.mpr goes.emptied]
      rfl
    rw [if_pos ((isShardName_iff shard).mpr goes.isShard), removes]
    have noFile : middle.2.fileAt? (root ++ [shard]) = none := by
      refine fileAt?_of_directory ((files.loses.kept _ ?_).trans isDirectory)
      rintro ⟨name, same, -⟩
      simp at same
    exact (ClearsAway.erase_other (by simp) (fun isFile => absurd noFile isFile) middle.1).congr fun place =>
      ⟨And.left, fun isPlace => ⟨isPlace, goes⟩⟩
  · have unchanged : (if isShardName shard then middle.2.removeDirectory (root ++ [shard]) else middle.2) =
        middle.2 := by
      split
      · rename_i named
        rw [FileTree.removeDirectory, if_neg]
        intro isEmpty
        exact goes ⟨(isShardName_iff shard).mp named, isDirectory,
          isEmpty_iff.mp (List.isEmpty_iff.mp isEmpty)⟩
      · rfl
    rw [unchanged]
    refine (ClearsAway.refl middle).congr fun place => ?_
    exact iff_of_false (fun isGone => goes isGone.2) (Set.notMem_empty place)

end Emptied

theorem clearChild_clears {before : Nat × FileTree} {child : String × FileEntry}
    (wellFormed : before.2.WellFormed) (stands : before.2.entryAt? (root ++ [child.1]) = some child.2) :
    ClearsAway {place | GoesWith root before.2 child.1 place} before (clearChild root before child) := by
  obtain ⟨shard, entry⟩ := child
  dsimp only at stands ⊢
  cases entry with
  | file content =>
    -- nothing stands in a file, and a file is not one of the directories
    refine (ClearsAway.refl before).congr fun place => iff_of_false ?_ (Set.notMem_empty place)
    rintro (goes | goes)
    · rename_i name
      have missing := wellFormed.missing_below (by rw [stands]; rintro ⟨⟩) name
      rw [append_names] at missing
      exact goes.isFile (fileAt?_of_missing missing)
    · have isDirectory := goes.isDirectory
      rw [stands] at isDirectory
      cases isDirectory
  | directory =>
    have files := @foldl_clearFile_clears root before wellFormed.distinct shard
    have removal := removeDirectory_clears wellFormed.distinct stands files
    refine (files.trans removal).congr fun place => ?_
    constructor
    · rintro (goes | goes)
      · exact .inl ⟨_, rfl, goes⟩
      · exact .inr ⟨rfl, goes⟩
    · rintro (⟨name, rfl, goes⟩ | ⟨rfl, goes⟩)
      · exact .file goes
      · exact .directory goes

/-! ## The whole walk -/

theorem GoesWith.below {place : Location} (goes : GoesWith root tree shard place) :
    ∃ rest, place = root ++ shard :: rest := by
  cases goes with
  | @file name _ => exact ⟨[name], rfl⟩
  | directory _ => exact ⟨[], rfl⟩

theorem GoesWith.congr {place : Location}
    (same : ∀ rest, after.entryAt? (root ++ shard :: rest) = tree.entryAt? (root ++ shard :: rest))
    (goes : GoesWith root tree shard place) : GoesWith root after shard place := by
  cases goes with
  | @file name goes => exact .file (goes.congr (same [name]))
  | directory goes =>
    refine .directory ⟨goes.isShard, (same []).trans goes.isDirectory, fun name stands => ?_⟩
    rw [same [name]] at stands
    exact (goes.emptied name stands).congr (same [name])

theorem GoesWith.closed {place : Location} (wellFormed : tree.WellFormed) (goes : GoesWith root tree shard place)
    (name : String) (stands : tree.entryAt? (place ++ [name]) ≠ none) :
    GoesWith root tree shard (place ++ [name]) := by
  cases goes with
  | @file file goes =>
    have isDirectory := wellFormed.parents _ name stands
    exact absurd (fileAt?_of_directory isDirectory) goes.isFile
  | directory goes =>
    rw [append_names] at stands ⊢
    exact .file (goes.emptied name stands)

theorem foldl_clearChild_clears (wellFormed : tree.WellFormed) (root : Location) :
    ClearsAway (Goes root tree) (0, tree) ((tree.childrenOf root).foldl (clearChild root) (0, tree)) := by
  let gone (tree : FileTree) (child : String × FileEntry) : Set Location :=
    {place | GoesWith root tree child.1 place}
  let Fits (tree : FileTree) (child : String × FileEntry) : Prop :=
    tree.WellFormed ∧ tree.entryAt? (root ++ [child.1]) = some child.2
  have apart : ∀ tree after first second, first.1 ≠ second.1 → Fits tree first → Loses (gone tree first) tree after →
      Fits tree second → Fits after second ∧ gone after second = gone tree second := by
    rintro tree after first second different - loses ⟨wellFormed, stands⟩
    have same : ∀ rest, after.entryAt? (root ++ second.1 :: rest) = tree.entryAt? (root ++ second.1 :: rest) := by
      intro rest
      refine loses.kept _ fun goes => ?_
      obtain ⟨other, isBelow⟩ := GoesWith.below goes
      exact different (List.cons.inj (List.append_cancel_left isBelow)).1.symm
    refine ⟨⟨loses.wellFormed wellFormed fun _ goes => goes.closed wellFormed, (same []).trans stands⟩, ?_⟩
    exact Set.ext fun place => ⟨GoesWith.congr fun rest => (same rest).symm, GoesWith.congr same⟩
  have stands : ∀ child ∈ tree.childrenOf root, Fits tree child :=
    fun child member => ⟨wellFormed, (FileTree.mem_childrenOf wellFormed.distinct).mp member⟩
  refine (ClearsAway.foldl (fun before child fits => clearChild_clears fits.1 fits.2) apart
    (tree.ascending_childrenOf root).nodup_keys stands).congr fun place => ?_
  constructor
  · rintro ⟨shard, goes⟩
    have isDirectory : tree.entryAt? (root ++ [shard]) = some .directory := by
      cases goes with
      | @file name goes =>
        refine wellFormed.parents _ name fun missing => goes.isFile ?_
        rw [append_names] at missing
        exact fileAt?_of_missing missing
      | directory goes => exact goes.isDirectory
    exact ⟨(shard, .directory), (FileTree.mem_childrenOf wellFormed.distinct).mpr isDirectory, goes⟩
  · rintro ⟨child, -, goes⟩
    exact ⟨child.1, goes⟩

section Clear

variable {directory : String}

theorem clear_clears (wellFormed : tree.WellFormed) (found : tree.locationOf? directory = some root) :
    ClearsAway (Goes root tree) (0, tree) (clear tree directory) := by
  rw [clear, found]
  exact foldl_clearChild_clears wellFormed root

theorem Goes.wellFormed (loses : Loses (Goes root tree) tree after) (wellFormed : tree.WellFormed) :
    after.WellFormed := by
  refine loses.wellFormed wellFormed ?_
  rintro place ⟨shard, goes⟩ name stands
  exact ⟨shard, goes.closed wellFormed name stands⟩

/-- Once everything is gone that goes, nothing more does. -/
theorem Goes.nothing_left (loses : Loses (Goes root tree) tree after) (place : Location) : place ∉ Goes root after := by
  have noFile : ∀ shard name, ¬ FileGoes root after shard name := by
    intro shard name goes
    have stands : after.entryAt? (root ++ [shard, name]) ≠ none := fun missing =>
      goes.isFile (fileAt?_of_missing missing)
    obtain ⟨notGone, same⟩ := loses.stands stands
    exact notGone ⟨shard, .file (goes.congr same.symm)⟩
  rintro ⟨shard, goes | goes⟩
  · rename_i name
    exact noFile shard name goes
  · have stands : after.entryAt? (root ++ [shard]) ≠ none := by
      rw [goes.isDirectory]
      exact Option.some_ne_none _
    obtain ⟨notGone, same⟩ := loses.stands stands
    refine notGone ⟨shard, .directory ⟨goes.isShard, same.symm.trans goes.isDirectory, fun name stood => ?_⟩⟩
    by_contra stays
    have notFileGone : root ++ [shard, name] ∉ Goes root tree := by
      rintro ⟨other, isGone⟩
      generalize isPlace : root ++ [shard, name] = place at isGone
      cases isGone with
      | @file otherName goes =>
        obtain ⟨rfl, rfl⟩ : shard = other ∧ name = otherName := by simpa using isPlace
        exact stays goes
      | directory _ => simp at isPlace
    refine noFile shard name (goes.emptied name ?_)
    rwa [loses.kept _ notFileGone]

private theorem foldl_eq_of_fixed {α β : Type} {step : β → α → β} {items : List α} {start : β}
    (fixed : ∀ item ∈ items, step start item = start) : items.foldl step start = start := by
  induction items with
  | nil => rfl
  | cons item items ih =>
    rw [List.foldl_cons, fixed item List.mem_cons_self]
    exact ih fun other member => fixed other (List.mem_cons_of_mem _ member)

theorem clearChild_of_nothing (wellFormed : tree.WellFormed) (nothing : ∀ place, place ∉ Goes root tree)
    {child : String × FileEntry} (member : child ∈ tree.childrenOf root) (number : Nat) :
    clearChild root (number, tree) child = (number, tree) := by
  obtain ⟨shard, entry⟩ := child
  have stands := (FileTree.mem_childrenOf wellFormed.distinct).mp member
  cases entry with
  | file content => rfl
  | directory =>
    have keepsFiles : ∀ item ∈ tree.childrenOf (root ++ [shard]),
        clearFile root shard (number, tree) item = (number, tree) := by
      rintro ⟨name, found⟩ inside
      have standsInside := (FileTree.mem_childrenOf wellFormed.distinct).mp inside
      rw [append_names] at standsInside
      rw [clearFile, if_neg]
      intro named
      exact nothing _ ⟨shard, .file ((fileGoes_iff standsInside).mp named)⟩
    have keepsDirectory : (if isShardName shard then tree.removeDirectory (root ++ [shard]) else tree) = tree := by
      split
      · rename_i named
        rw [FileTree.removeDirectory, if_neg]
        intro isEmpty
        have bare := (FileTree.childrenOf_eq_nil_iff wellFormed.distinct).mp (List.isEmpty_iff.mp isEmpty)
        refine nothing _ ⟨shard, .directory ⟨(isShardName_iff shard).mp named, stands, fun name stood => ?_⟩⟩
        rw [← append_names, bare name] at stood
        exact absurd rfl stood
      · rfl
    rw [clearChild]
    dsimp only
    rw [foldl_eq_of_fixed keepsFiles]
    dsimp only
    rw [keepsDirectory]

theorem locationOf?_eq_some (found : tree.locationOf? directory = some root) : root = tree.placeOf directory := by
  unfold FileTree.locationOf? at found
  split at found
  · rename_i location located
    split at found
    · rw [← Option.some.inj found]
      exact FileTree.eq_placeOf_of_locate located
    · cases found
  · cases found

theorem clear_clear (wellFormed : tree.WellFormed) (directory : String) :
    clear (clear tree directory).2 directory = (0, (clear tree directory).2) := by
  cases found : tree.locationOf? directory with
  | none =>
    have unchanged : clear tree directory = (0, tree) := by rw [clear, found]
    rw [unchanged, unchanged]
  | some root =>
    have loses : Loses (Goes root tree) tree (clear tree directory).2 := (clear_clears wellFormed found).loses
    generalize (clear tree directory).2 = after at loses ⊢
    rw [clear]
    split
    · rfl
    · rename_i place again
      have same : place = root := by
        rw [locationOf?_eq_some again, locationOf?_eq_some found, FileTree.placeOf_congr loses.home]
      rw [same]
      exact foldl_eq_of_fixed fun child member =>
        clearChild_of_nothing (Goes.wellFormed loses wellFormed) (Goes.nothing_left loses) member 0

end Clear

end DiskCache

end Lintel
