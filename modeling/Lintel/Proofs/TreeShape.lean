import Lintel.Proofs.FileTree
import Lintel.Proofs.Table
import Mathlib.Data.Finset.Card
import Mathlib.Data.Finset.Filter
import Mathlib.Data.List.Nodup

/-!
# Files and the shape of a tree

The files of a tree, told apart from its directories, and what making directories leaves of them. Every
operation on a tree keeps its shape: no location is listed twice, and what stands somewhere stands in a
directory.
-/

set_option autoImplicit false

namespace Lintel

namespace FileTree

/-- A location that lies below another one. -/
def Below (root place : Location) : Prop := ∃ name names, place = root ++ name :: names

theorem not_below_nil (root : Location) : ¬ Below root [] := by
  rintro ⟨name, names, equal⟩
  simp at equal

theorem below_iff {root place : Location} : Below root place ↔ root <+: place ∧ place ≠ root := by
  constructor
  · rintro ⟨name, names, rfl⟩
    exact ⟨List.prefix_append _ _, by simp⟩
  · rintro ⟨⟨names, rfl⟩, different⟩
    cases names with
    | nil => exact absurd (List.append_nil root) different
    | cons name names => exact ⟨name, names, rfl⟩

instance (root place : Location) : Decidable (Below root place) :=
  decidable_of_iff _ below_iff.symm

/-! ## Files -/

/-- The content of the file at a location. -/
def fileAt? (tree : FileTree) (place : Location) : Option ByteArray :=
  match tree.entryAt? place with
  | some (.file content) => some content
  | _ => none

variable {tree after : FileTree} {place : Location}

theorem fileAt?_eq_some_iff {content : ByteArray} :
    tree.fileAt? place = some content ↔ tree.entryAt? place = some (.file content) := by
  unfold fileAt?
  cases tree.entryAt? place with
  | none => simp
  | some entry => cases entry <;> simp

theorem fileAt?_of_directory (isDirectory : tree.entryAt? place = some .directory) : tree.fileAt? place = none := by
  rw [fileAt?, isDirectory]

theorem fileAt?_of_missing (missing : tree.entryAt? place = none) : tree.fileAt? place = none := by
  rw [fileAt?, missing]

theorem fileAt?_congr (same : after.entryAt? place = tree.entryAt? place) :
    after.fileAt? place = tree.fileAt? place := by
  rw [fileAt?, fileAt?, same]

theorem directory_or_file (stands : tree.entryAt? place ≠ none) :
    tree.entryAt? place = some .directory ∨ tree.fileAt? place ≠ none := by
  obtain ⟨entry, isFound⟩ := Option.ne_none_iff_exists'.mp stands
  cases entry with
  | directory => exact .inl isFound
  | file content =>
    right
    rw [fileAt?_eq_some_iff.mpr isFound]
    exact Option.some_ne_none content

/-- The locations of the files below a root. -/
def filesBelow (tree : FileTree) (root : Location) : Finset Location :=
  (tree.entries.map Prod.fst).toFinset.filter fun place => Below root place ∧ (tree.fileAt? place).isSome

theorem mem_filesBelow {root : Location} :
    place ∈ tree.filesBelow root ↔ Below root place ∧ tree.fileAt? place ≠ none := by
  rw [filesBelow, Finset.mem_filter, Option.isSome_iff_ne_none, List.mem_toFinset]
  constructor
  · exact And.right
  · intro isFile
    refine ⟨?_, isFile⟩
    obtain ⟨below, held⟩ := isFile
    obtain ⟨content, isContent⟩ := Option.ne_none_iff_exists'.mp held
    have found := fileAt?_eq_some_iff.mp isContent
    have proper : place ≠ [] := by
      rintro rfl
      exact not_below_nil root below
    rw [entryAt?, if_neg proper] at found
    obtain ⟨entry, isFound, -⟩ := Option.map_eq_some_iff.mp found
    have isPlace : entry.1 = place := by simpa using List.find?_some isFound
    exact isPlace ▸ List.mem_map_of_mem (List.mem_of_find?_eq_some isFound)

/-! ## Directories that are made -/

/-- A tree in which directories have been made where nothing stood. -/
structure Grows (tree made : FileTree) : Prop where
  home : made.workingDirectory = tree.workingDirectory
  entries : ∀ place, made.entryAt? place = tree.entryAt? place ∨
    tree.entryAt? place = none ∧ made.entryAt? place = some .directory

theorem grows_createDirectories (tree : FileTree) (path : String) : tree.Grows (tree.createDirectories path).2 := by
  rw [createDirectories]
  split
  · exact ⟨rfl, fun _ => .inl rfl⟩
  · obtain ⟨home, entries⟩ := tree.createFrom_cases (tree.startOf path) (piecesOf path)
    exact ⟨home, entries⟩

namespace Grows

variable {made : FileTree}

theorem fileAt?_eq (grows : tree.Grows made) (place : Location) : made.fileAt? place = tree.fileAt? place := by
  rcases grows.entries place with same | ⟨missing, isDirectory⟩
  · exact fileAt?_congr same
  · rw [fileAt?_of_directory isDirectory, fileAt?_of_missing missing]

theorem directory (grows : tree.Grows made) (isDirectory : tree.entryAt? place = some .directory) :
    made.entryAt? place = some .directory := by
  rcases grows.entries place with same | ⟨missing, -⟩
  · rw [same, isDirectory]
  · rw [missing] at isDirectory
    cases isDirectory

end Grows

/-! ## Shape -/

/-- No location is listed twice. -/
def Distinct (tree : FileTree) : Prop := (tree.entries.map Prod.fst).Nodup

/-- A tree in which no location is listed twice, and in which everything stands in a directory. -/
structure WellFormed (tree : FileTree) : Prop where
  distinct : tree.Distinct
  parents : ∀ place name, tree.entryAt? (place ++ [name]) ≠ none → tree.entryAt? place = some .directory

theorem wellFormed_nil (workingDirectory : Location) : (⟨[], workingDirectory⟩ : FileTree).WellFormed where
  distinct := List.nodup_nil
  parents place name stands := absurd (by simp [entryAt?]) stands

theorem entryAt?_eq_some_iff (distinct : tree.Distinct) (proper : place ≠ [])
    {entry : FileEntry} : tree.entryAt? place = some entry ↔ (place, entry) ∈ tree.entries := by
  rw [entryAt?, if_neg proper, Option.map_eq_some_iff]
  constructor
  · rintro ⟨listed, isFound, rfl⟩
    have isPlace : listed.1 = place := by simpa using List.find?_some isFound
    rw [← isPlace]
    exact List.mem_of_find?_eq_some isFound
  · intro member
    cases isFound : tree.entries.find? (fun listed => listed.1 = place) with
    | none => exact absurd (List.find?_eq_none.mp isFound _ member) (by simp)
    | some listed =>
      have isPlace : listed.1 = place := by simpa using List.find?_some isFound
      have same : listed = (place, entry) :=
        List.inj_on_of_nodup_map distinct (List.mem_of_find?_eq_some isFound) member isPlace
      exact ⟨listed, rfl, by rw [same]⟩

/-- What is listed directly below a location, before it is put in order. -/
def listedBelow (tree : FileTree) (place : Location) : List (String × FileEntry) :=
  tree.entries.filterMap fun (location, entry) =>
    match location.getLast? with
    | some name => if location.dropLast = place then some (name, entry) else none
    | none => none

theorem childrenOf_eq (tree : FileTree) (place : Location) :
    tree.childrenOf place = Table.ofList (tree.listedBelow place) := rfl

theorem mem_listedBelow {name : String} {entry : FileEntry} :
    (name, entry) ∈ tree.listedBelow place ↔ (place ++ [name], entry) ∈ tree.entries := by
  rw [listedBelow, List.mem_filterMap]
  constructor
  · rintro ⟨⟨location, stands⟩, listed, isChild⟩
    dsimp only at isChild
    cases last : location.getLast? with
    | none => simp [last] at isChild
    | some lastName =>
      obtain ⟨front, rfl⟩ := List.getLast?_eq_some_iff.mp last
      simp only [last, List.dropLast_concat, Option.ite_none_right_eq_some, Option.some.injEq,
        Prod.mk.injEq] at isChild
      obtain ⟨rfl, rfl, rfl⟩ := isChild
      exact listed
  · intro listed
    exact ⟨_, listed, by simp⟩

theorem ascending_childrenOf (tree : FileTree) (place : Location) : Table.Ascending (tree.childrenOf place) :=
  Table.ascending_ofList _

theorem mem_childrenOf (distinct : tree.Distinct) {name : String} {entry : FileEntry} :
    (name, entry) ∈ tree.childrenOf place ↔ tree.entryAt? (place ++ [name]) = some entry := by
  rw [entryAt?_eq_some_iff distinct (by simp), childrenOf_eq]
  constructor
  · intro member
    exact mem_listedBelow.mp (Table.mem_of_mem_ofList member)
  · intro listed
    have isKey : name ∈ (tree.listedBelow place).map Prod.fst :=
      List.mem_map_of_mem (mem_listedBelow.mpr listed)
    obtain ⟨found, isFound⟩ := Option.isSome_iff_exists.mp ((Table.isSome_find?_ofList name _).mpr isKey)
    have member := Table.mem_of_find? isFound
    have stands := mem_listedBelow.mp (Table.mem_of_mem_ofList member)
    have same : (place ++ [name], found) = (place ++ [name], entry) :=
      List.inj_on_of_nodup_map distinct stands listed rfl
    rw [← (Prod.mk.inj same).2]
    exact member

theorem childrenOf_eq_nil_iff (distinct : tree.Distinct) :
    tree.childrenOf place = [] ↔ ∀ name, tree.entryAt? (place ++ [name]) = none := by
  rw [List.eq_nil_iff_forall_not_mem]
  constructor
  · intro noChild name
    rw [Option.eq_none_iff_forall_ne_some]
    intro entry stands
    exact noChild (name, entry) ((mem_childrenOf distinct).mpr stands)
  · rintro missing ⟨name, entry⟩ member
    have stands := (mem_childrenOf distinct).mp member
    rw [missing name] at stands
    cases stands

theorem Distinct.erase (distinct : tree.Distinct) (place : Location) : (tree.erase place).Distinct :=
  distinct.sublist (List.filter_sublist.map Prod.fst)

namespace WellFormed

theorem missing_below (wellFormed : tree.WellFormed) (notDirectory : tree.entryAt? place ≠ some .directory)
    (name : String) : tree.entryAt? (place ++ [name]) = none := by
  by_contra stands
  exact notDirectory (wellFormed.parents place name stands)

theorem parent (wellFormed : tree.WellFormed) (stands : tree.entryAt? place ≠ none) :
    tree.entryAt? place.dropLast = some .directory := by
  rcases List.eq_nil_or_concat place with rfl | ⟨above, name, rfl⟩
  · rfl
  · rw [List.concat_eq_append] at stands ⊢
    rw [List.dropLast_concat]
    exact wellFormed.parents above name stands

/-- A new entry has to stand in a directory, and a file in place of nothing or of a file. -/
theorem put (wellFormed : tree.WellFormed) {entry : FileEntry} (proper : place ≠ [])
    (inDirectory : tree.entryAt? place.dropLast = some .directory)
    (replaces : tree.entryAt? place = some .directory → entry = .directory) :
    (tree.put place entry).WellFormed where
  distinct := by
    have kept : ((tree.erase place).entries.map Prod.fst).Nodup := wellFormed.distinct.erase place
    have new : place ∉ (tree.erase place).entries.map Prod.fst := by
      intro member
      obtain ⟨listed, isKept, rfl⟩ := List.mem_map.mp member
      simpa using (List.mem_filter.mp isKept).2
    rw [Distinct, FileTree.put, List.map_append, List.map_singleton]
    refine List.nodup_append.mpr ⟨kept, List.nodup_singleton _, ?_⟩
    intro first firstMember second secondMember same
    rw [same, List.mem_singleton.mp secondMember] at firstMember
    exact new firstMember
  parents := by
    intro above name stands
    have standsAt := tree.entryAt?_put proper entry
    rw [standsAt] at stands ⊢
    split at stands
    · -- the new entry itself
      rename_i isPlace
      have isAbove : above = place.dropLast := by rw [← isPlace, List.dropLast_concat]
      rw [isAbove, if_neg, inDirectory]
      rw [← isPlace, List.dropLast_concat]
      intro same
      simpa using congrArg List.length same
    · have isDirectory := wellFormed.parents above name stands
      split
      · rename_i isPlace
        rw [isPlace] at isDirectory
        rw [replaces isDirectory]
      · exact isDirectory

theorem erase (wellFormed : tree.WellFormed) (proper : place ≠ [])
    (bare : ∀ name, tree.entryAt? (place ++ [name]) = none) : (tree.erase place).WellFormed where
  distinct := wellFormed.distinct.erase place
  parents := by
    intro above name stands
    rw [tree.entryAt?_erase proper] at stands ⊢
    split at stands
    · exact absurd rfl stands
    · rw [if_neg]
      · exact wellFormed.parents above name stands
      · rintro rfl
        exact stands (bare name)

theorem eraseFile (wellFormed : tree.WellFormed) {content : ByteArray}
    (isFile : tree.entryAt? place = some (.file content)) : (tree.erase place).WellFormed := by
  have proper : place ≠ [] := by
    rintro rfl
    cases isFile
  refine wellFormed.erase proper (wellFormed.missing_below ?_)
  rw [isFile]
  rintro ⟨⟩

theorem createFrom (wellFormed : tree.WellFormed) (current : Location) (pieces : List String) :
    (tree.createFrom current pieces).2.WellFormed := by
  induction pieces generalizing tree current with
  | nil => exact wellFormed
  | cons piece pieces ih =>
    rw [FileTree.createFrom]
    split
    · exact wellFormed
    · rename_i next stepped
      obtain ⟨isDirectory, rfl⟩ := step_eq_ok_iff.mp stepped
      split
      · rename_i missing
        have proper := ne_nil_of_missing missing
        have inDirectory : tree.entryAt? (advance current piece).dropLast = some .directory := by
          rw [advance] at missing ⊢
          split at missing
          · rw [isDirectory] at missing
            cases missing
          · split at missing
            · rw [wellFormed.parent (by rw [isDirectory]; exact Option.some_ne_none _)] at missing
              cases missing
            · rename_i notHere notAbove
              rw [if_neg notHere, if_neg notAbove, List.dropLast_concat, isDirectory]
        exact ih (wellFormed.put proper inDirectory fun _ => rfl) _
      · exact ih wellFormed _
      · exact wellFormed

theorem createDirectories (wellFormed : tree.WellFormed) (path : String) :
    (tree.createDirectories path).2.WellFormed := by
  rw [FileTree.createDirectories]
  split
  · exact wellFormed
  · exact wellFormed.createFrom _ _

theorem writeFile (wellFormed : tree.WellFormed) (path : String) (content : ByteArray) :
    (tree.writeFile path content).2.WellFormed := by
  rw [FileTree.writeFile]
  split
  · exact wellFormed
  · rename_i location _
    split
    · exact wellFormed
    · exact wellFormed
    · exact wellFormed
    · rename_i inDirectory notDirectory
      have proper : location ≠ [] := by
        rintro rfl
        exact notDirectory rfl
      exact wellFormed.put proper inDirectory fun isDirectory => absurd isDirectory notDirectory

theorem renameFile (wellFormed : tree.WellFormed) (source target : String) :
    (tree.renameFile source target).2.WellFormed := by
  rw [FileTree.renameFile]
  split
  · rename_i content start read located
    have isFile := readBytes_eq_ok read
    rw [← eq_placeOf_of_locate located] at isFile
    have moved := (wellFormed.eraseFile isFile).writeFile target content
    split
    · rename_i written
      rw [written] at moved
      exact moved
    · exact wellFormed
  · exact wellFormed
  · exact wellFormed

theorem removeFile (wellFormed : tree.WellFormed) (path : String) : (tree.removeFile path).2.WellFormed := by
  rcases tree.removeFile_cases path with unchanged | ⟨content, isFile, erased⟩
  · rw [unchanged]
    exact wellFormed
  · rw [erased]
    exact wellFormed.eraseFile isFile

theorem removeDirectory (wellFormed : tree.WellFormed) (proper : place ≠ []) :
    (tree.removeDirectory place).WellFormed := by
  rw [FileTree.removeDirectory]
  split
  · rename_i isEmpty
    exact wellFormed.erase proper ((childrenOf_eq_nil_iff wellFormed.distinct).mp (List.isEmpty_iff.mp isEmpty))
  · exact wellFormed

end WellFormed

end FileTree

end Lintel
