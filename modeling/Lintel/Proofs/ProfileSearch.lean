import Lintel.Profile.File
import Lintel.Proofs.TreeShape

/-!
# The search for a profile

The search goes from a directory up to the root. The nearest directory that holds a regular file with the
name of a profile decides, and there the first of these names. Nothing further is looked at, also when the
file that was found cannot be read.
-/

set_option autoImplicit false

namespace Lintel

namespace FileTree

variable {tree : FileTree} {location place : Location} {name : String}

/-! ## Locations as absolute paths -/

theorem toList_absolutePath (proper : location ≠ []) :
    (absolutePath location).toList = location.flatMap fun name => '/' :: name.toList := by
  have joined : ∀ first rest, ['/'].intercalate (List.map String.toList (first :: rest)) =
      first.toList ++ rest.flatMap fun name => '/' :: name.toList := by
    intro first rest
    induction rest generalizing first with
    | nil => simp [List.intercalate]
    | cons second rest ih =>
      rw [List.map_cons, List.map_cons, List.intercalate_cons_cons, ← List.map_cons, ih, List.flatMap_cons,
        List.append_assoc]
      rfl
  obtain ⟨first, rest, rfl⟩ := List.exists_cons_of_ne_nil proper
  rw [absolutePath, String.toList_append, String.toList_intercalate]
  exact congrArg ('/' :: ·) (joined first rest)

theorem PlainName.toList_ne_nil (plain : PlainName name) : name.toList ≠ [] :=
  fun empty => plain.nonempty (String.toList_eq_nil_iff.mp empty)

theorem PlainName.toList_ne_dot (plain : PlainName name) : name.toList ≠ ['.'] :=
  fun dot => plain.notCurrent (String.toList_injective dot)

theorem PlainName.toList_ne_dots (plain : PlainName name) : name.toList ≠ ['.', '.'] :=
  fun dots => plain.notParent (String.toList_injective dots)

theorem plain_concat_iff : (∀ other ∈ location ++ [name], PlainName other) ↔
    (∀ other ∈ location, PlainName other) ∧ PlainName name := by
  rw [List.forall_mem_append, List.forall_mem_singleton]

theorem absolutePath_concat (above : ∀ other ∈ location, PlainName other) (plain : PlainName name) :
    absolutePath (location ++ [name]) = Path.join (absolutePath location) name := by
  rw [Path.join, if_neg plain.notAbsolute]
  rcases List.eq_nil_or_concat location with rfl | ⟨front, last, rfl⟩
  · rfl
  · rw [List.concat_eq_append] at above ⊢
    have plainLast := (plain_concat_iff.mp above).2
    have proper : front ++ [last] ≠ [] := by simp
    have written := toList_absolutePath proper
    have nonempty : (absolutePath (front ++ [last])).isEmpty = false := by
      rw [← Bool.not_eq_true, String.isEmpty_iff, ← String.toList_eq_nil_iff, written]
      simp
    have noSlash : (absolutePath (front ++ [last])).toList.getLast? ≠ some '/' := by
      intro slash
      rw [written, List.flatMap_append, List.flatMap_singleton, List.getLast?_append_cons,
        List.getLast?_cons_of_ne_nil plainLast.toList_ne_nil] at slash
      exact plainLast.noSlash (List.mem_of_getLast? slash)
    rw [if_neg (by simp [nonempty]), if_neg noSlash]
    refine String.toList_injective ?_
    rw [toList_absolutePath (by simp), List.flatMap_append, String.toList_append, String.toList_append, written,
      List.flatMap_singleton, List.append_assoc]
    rfl

theorem splitAll_absolutePath (proper : location ≠ []) (plain : ∀ name ∈ location, PlainName name) :
    Text.splitAll '/' (absolutePath location).toList = [] :: location.map String.toList := by
  rw [toList_absolutePath proper]
  clear proper
  induction location using List.reverseRecOn with
  | nil => rfl
  | append_singleton above name ih =>
    obtain ⟨plainAbove, plainName⟩ := plain_concat_iff.mp plain
    rw [List.flatMap_append, List.flatMap_singleton, Text.splitAll_append, ih plainAbove,
      Text.splitAll_of_notMem plainName.noSlash, List.map_append]
    rfl

private theorem trimPieces_concat (first : List Char) (between : List (List Char)) {last : List Char}
    (nonempty : last ≠ []) (notDot : last ≠ ['.']) :
    Path.trimPieces (first :: (between ++ [last])) = first :: (between ++ [last]) := by
  simp [Path.trimPieces, nonempty, notDot]

private theorem trimPieces_names (plain : ∀ name ∈ location, PlainName name) :
    Path.trimPieces ([] :: location.map String.toList) = [] :: location.map String.toList := by
  rcases List.eq_nil_or_concat location with rfl | ⟨above, name, rfl⟩
  · rfl
  · rw [List.concat_eq_append] at plain ⊢
    have plainName := (plain_concat_iff.mp plain).2
    rw [List.map_append]
    exact trimPieces_concat [] _ plainName.toList_ne_nil plainName.toList_ne_dot

theorem parent?_absolutePath_concat (plain : ∀ other ∈ location ++ [name], PlainName other) :
    Path.parent? (absolutePath (location ++ [name])) = some (absolutePath location) := by
  have above := (plain_concat_iff.mp plain).1
  have pieces := splitAll_absolutePath (by simp) plain
  have dropped : ([] :: (location ++ [name]).map String.toList).dropLast = [] :: location.map String.toList := by
    rw [List.map_append, List.map_singleton, ← List.cons_append, List.dropLast_concat]
  rw [Path.parent?, pieces, trimPieces_names plain]
  split
  · rename_i impossible
    cases impossible
  · rename_i impossible
    simp at impossible
  · rw [dropped, trimPieces_names above]
    cases location with
    | nil => rfl
    | cons first rest =>
      refine congrArg some ?_
      simp [absolutePath, String.intercalate_cons_cons, Function.comp_def]

theorem fileName?_absolutePath_concat (plain : ∀ other ∈ location ++ [name], PlainName other) :
    Path.fileName? (absolutePath (location ++ [name])) = some name := by
  have plainName := (plain_concat_iff.mp plain).2
  have last : Path.pieceComponent? name.toList = some (.name name) := by
    simp [Path.pieceComponent?, plainName.toList_ne_nil, plainName.toList_ne_dot, plainName.toList_ne_dots]
  have root : Path.pieceComponent? [] = none := rfl
  rw [Path.fileName?, Path.components, splitAll_absolutePath (by simp) plain]
  simp [last, root]

/-! ## Where a directory is -/

private theorem plain_foldl_advance {pieces : List String} {current : Location}
    (whole : ∀ piece ∈ pieces, '/' ∉ piece.toList) (plain : ∀ name ∈ current, PlainName name) :
    ∀ name ∈ pieces.foldl advance current, PlainName name := by
  induction pieces generalizing current with
  | nil => exact plain
  | cons piece pieces ih =>
    refine ih (fun other member => whole other (List.mem_cons_of_mem _ member)) ?_
    intro name member
    rw [advance] at member
    split at member
    · exact plain name member
    · rename_i notHere
      split at member
      · exact plain name (List.mem_of_mem_dropLast member)
      · rename_i notAbove
        rcases List.mem_append.mp member with earlier | last
        · exact plain name earlier
        · rw [List.mem_singleton.mp last]
          exact ⟨fun empty => notHere (.inl empty), fun dot => notHere (.inr dot), notAbove,
            whole piece List.mem_cons_self⟩

/-- Only names are found on the way along a path. -/
theorem plain_placeOf (home : ∀ name ∈ tree.workingDirectory, PlainName name) (path : String) :
    ∀ name ∈ tree.placeOf path, PlainName name := by
  refine plain_foldl_advance ?_ ?_
  · intro piece member
    obtain ⟨characters, listed, rfl⟩ := List.mem_map.mp member
    rw [String.toList_ofList]
    exact Text.notMem_of_mem_splitAll listed
  · rw [startOf]
    split
    · exact fun name member => absurd member List.not_mem_nil
    · exact home

theorem WellFormed.isOpen_absolutePath (wellFormed : tree.WellFormed)
    (plain : ∀ name ∈ location, PlainName name) (isDirectory : tree.entryAt? location = some .directory) :
    tree.IsOpen (absolutePath location) ∧ tree.placeOf (absolutePath location) = location := by
  induction location using List.reverseRecOn with
  | nil => exact ⟨⟨rfl, rfl⟩, rfl⟩
  | append_singleton above name ih =>
    obtain ⟨plainAbove, plainName⟩ := plain_concat_iff.mp plain
    have stands : tree.entryAt? (above ++ [name]) ≠ none := by
      rw [isDirectory]
      exact Option.some_ne_none _
    obtain ⟨isOpen, placed⟩ := ih plainAbove (wellFormed.parents above name stands)
    rw [absolutePath_concat plainAbove plainName]
    constructor
    · exact isOpen.join plainName (by rw [placed, isDirectory])
    · rw [placeOf_join tree _ plainName, placed]

theorem WellFormed.directory_of_prefix (wellFormed : tree.WellFormed)
    (isDirectory : tree.entryAt? place = some .directory) (above : location <+: place) :
    tree.entryAt? location = some .directory := by
  induction place using List.reverseRecOn with
  | nil => rw [List.prefix_nil.mp above, isDirectory]
  | append_singleton front name ih =>
    rcases List.prefix_concat_iff.mp above with rfl | further
    · exact isDirectory
    · have stands : tree.entryAt? (front ++ [name]) ≠ none := by
        rw [isDirectory]
        exact Option.some_ne_none _
      exact ih (wellFormed.parents front name stands) further

/-! ## Upward -/

/-- A location and the locations above it, the nearest first. -/
def upward (place : Location) : List Location := place.inits.reverse

theorem upward_concat (above : Location) (name : String) :
    upward (above ++ [name]) = (above ++ [name]) :: upward above := by
  simp [upward, List.inits_append]

/-- A search upward stops at the deepest location where it finds something. -/
theorem findSome?_upward_eq_some_iff {α : Type} {find? : Location → Option α} {found : α} :
    (upward place).findSome? find? = some found ↔
      ∃ directory, directory <+: place ∧ find? directory = some found ∧
        ∀ nearer, nearer <+: place → directory.length < nearer.length → find? nearer = none := by
  induction place using List.reverseRecOn with
  | nil =>
    constructor
    · intro isFound
      refine ⟨[], List.prefix_refl [], by simpa [upward] using isFound, ?_⟩
      intro nearer above longer
      rw [List.prefix_nil.mp above] at longer
      exact absurd longer (Nat.lt_irrefl _)
    · rintro ⟨directory, above, isFound, -⟩
      rw [List.prefix_nil.mp above] at isFound
      simp [upward, isFound]
  | append_singleton front name ih =>
    rw [upward_concat, List.findSome?_cons]
    cases here : find? (front ++ [name]) with
    | some first =>
      constructor
      · intro isFound
        refine ⟨front ++ [name], List.prefix_refl _, here.trans isFound, ?_⟩
        intro nearer above longer
        exact absurd above.length_le (Nat.not_le.mpr longer)
      · rintro ⟨directory, above, isFound, nearest⟩
        rcases List.prefix_concat_iff.mp above with rfl | further
        · exact here.symm.trans isFound
        · -- the place itself is nearer, and something was found there
          have shorter := further.length_le
          have nothing := nearest (front ++ [name]) (List.prefix_refl _) (by simp; omega)
          rw [here] at nothing
          cases nothing
    | none =>
      refine ih.trans ?_
      constructor
      · rintro ⟨directory, above, isFound, nearest⟩
        refine ⟨directory, above.trans (List.prefix_append _ _), isFound, ?_⟩
        intro nearer within longer
        rcases List.prefix_concat_iff.mp within with rfl | further
        · exact here
        · exact nearest nearer further longer
      · rintro ⟨directory, above, isFound, nearest⟩
        rcases List.prefix_concat_iff.mp above with rfl | further
        · rw [here] at isFound
          cases isFound
        · exact ⟨directory, further, isFound, fun nearer within longer =>
            nearest nearer (within.trans (List.prefix_append _ _)) longer⟩

end FileTree

namespace Profile

open FileTree

variable {tree : FileTree} {place directory : Location} {name start : String}

/-- The fuel of the search is enough to reach the root. -/
theorem ancestors_absolutePath (plain : ∀ name ∈ place, PlainName name) {fuel : Nat}
    (enough : place.length < fuel) : ancestors fuel (absolutePath place) = (upward place).map absolutePath := by
  induction place using List.reverseRecOn generalizing fuel with
  | nil =>
    obtain ⟨fuel, rfl⟩ := Nat.exists_eq_add_one_of_ne_zero (Nat.ne_of_gt enough)
    rfl
  | append_singleton above name ih =>
    rw [List.length_append, List.length_singleton] at enough
    obtain ⟨fuel, rfl⟩ := Nat.exists_eq_add_one_of_ne_zero (Nat.ne_of_gt (Nat.zero_lt_of_lt enough))
    rw [ancestors, parent?_absolutePath_concat plain, upward_concat, List.map_cons]
    exact congrArg _ (ih (plain_concat_iff.mp plain).1 (by omega))

theorem length_lt_absolutePath (place : Location) : place.length < (absolutePath place).length + 1 := by
  rcases List.eq_nil_or_concat place with rfl | ⟨above, name, rfl⟩
  · exact Nat.zero_lt_one.trans_le (by decide)
  · rw [← String.length_toList, toList_absolutePath (by simp)]
    refine Nat.lt_succ_of_le ?_
    generalize above.concat name = names
    induction names with
    | nil => exact Nat.le_refl 0
    | cons first rest ih =>
      simp only [List.flatMap_cons, List.length_append, List.length_cons]
      omega

/-- From an existing directory every directory up to the root is searched, and nothing else. -/
theorem searchPath_of_locationOf? (located : tree.locationOf? start = some place)
    (plain : ∀ name ∈ place, PlainName name) : searchPath tree start = (upward place).map absolutePath := by
  rw [searchPath, searchStart, located]
  exact ancestors_absolutePath plain (length_lt_absolutePath place)

theorem plainName_of_mem_fileNames (listed : name ∈ fileNames) : PlainName name := by
  simp only [fileNames, List.mem_cons, List.not_mem_nil, or_false] at listed
  rcases listed with rfl | rfl | rfl <;> exact ⟨by decide, by decide, by decide, by decide⟩

/-! ## What decides -/

/-- A directory with a regular file that has the name of a profile. -/
def HoldsProfile (tree : FileTree) (directory : Location) : Prop :=
  ∃ name ∈ fileNames, tree.fileAt? (directory ++ [name]) ≠ none

/-- The profile file that decides for a place: it stands in the nearest directory, from the place upward, that
holds one, and no file there has an earlier one of the names. -/
structure Decides (tree : FileTree) (place directory : Location) (name : String) (content : ByteArray) :
    Prop where
  above : directory <+: place
  nearest : ∀ nearer, nearer <+: place → directory.length < nearer.length → ¬ HoldsProfile tree nearer
  first : ∃ earlier later, fileNames = earlier ++ name :: later ∧
    ∀ other ∈ earlier, tree.fileAt? (directory ++ [other]) = none
  holds : tree.fileAt? (directory ++ [name]) = some content

/-- What the bytes of a profile file say. Under the first of the names they are JSON, under the others
YAML. -/
def ofBytes (path name : String) (content : ByteArray) : Except ConfigError Profile :=
  match String.fromUTF8? content with
  | none => .error (.unreadable path .notText)
  | some text =>
    if name = ".skylos.json" then (ofJson text).mapError .json
    else match ofYaml? text with
      | some profile => .ok profile
      | none => .error .yaml

theorem ofText_absolutePath (plain : ∀ other ∈ directory ++ [name], PlainName other) (listed : name ∈ fileNames)
    (text : String) : ofText (absolutePath (directory ++ [name])) text =
      if name = ".skylos.json" then (ofJson text).mapError .json
      else match ofYaml? text with
        | some profile => .ok profile
        | none => .error .yaml := by
  have named := fileName?_absolutePath_concat plain
  have extension : Path.extension? (absolutePath (directory ++ [name])) =
      if name = ".skylos.json" then some "json"
      else if name = ".skylos.yaml" then some "yaml" else some "yml" := by
    rw [Path.extension?, named]
    simp only [fileNames, List.mem_cons, List.not_mem_nil, or_false] at listed
    rcases listed with rfl | rfl | rfl <;> decide
  rw [ofText, extension]
  split
  · rename_i isJson
    subst isJson
    cases ofJson text <;> rfl
  · refine (if_pos (by split <;> simp)).trans ?_
    cases ofYaml? text <;> rfl

theorem fileIn?_absolutePath (wellFormed : tree.WellFormed) (plain : ∀ name ∈ directory, PlainName name)
    (isDirectory : tree.entryAt? directory = some .directory) :
    fileIn? tree (absolutePath directory) =
      (fileNames.find? fun name => (tree.fileAt? (directory ++ [name])).isSome).map fun name =>
        absolutePath (directory ++ [name]) := by
  obtain ⟨isOpen, placed⟩ := wellFormed.isOpen_absolutePath plain isDirectory
  have sameTest : ∀ name ∈ fileNames, tree.isFile (Path.join (absolutePath directory) name) =
      (tree.fileAt? (directory ++ [name])).isSome := by
    intro name listed
    have located := isOpen.locate_join (plainName_of_mem_fileNames listed)
    rw [placed] at located
    rw [isFile, lookup, located, fileAt?]
    cases entry : tree.entryAt? (directory ++ [name]) with
    | none => simp [bind, Except.bind, entry]
    | some stands => cases stands <;> simp [bind, Except.bind, entry, FileEntry.isFile]
  have samePath : ∀ name ∈ fileNames, Path.join (absolutePath directory) name = absolutePath (directory ++ [name]) :=
    fun name listed => (absolutePath_concat plain (plainName_of_mem_fileNames listed)).symm
  rw [fileIn?, List.find?_map]
  simp only [fileNames, List.mem_cons, List.not_mem_nil, or_false, forall_eq_or_imp, forall_eq] at sameTest samePath
  simp only [fileNames, List.find?_cons, Function.comp_apply, sameTest]
  repeat' split
  all_goals simp [samePath]

theorem ofFile_absolutePath (wellFormed : tree.WellFormed) (plain : ∀ name ∈ directory, PlainName name)
    (isDirectory : tree.entryAt? directory = some .directory) (listed : name ∈ fileNames) {content : ByteArray}
    (holds : tree.fileAt? (directory ++ [name]) = some content) :
    ofFile tree (absolutePath (directory ++ [name])) =
      ofBytes (absolutePath (directory ++ [name])) name content := by
  obtain ⟨isOpen, placed⟩ := wellFormed.isOpen_absolutePath plain isDirectory
  have plainName := plainName_of_mem_fileNames listed
  have read := isOpen.readBytes_join plainName
  rw [placed, fileAt?_eq_some_iff.mp holds, contentOf, ← absolutePath_concat plain plainName] at read
  rw [ofFile, readText, read, ofBytes]
  simp only [bind, Except.bind]
  cases String.fromUTF8? content with
  | none => rfl
  | some text => exact ofText_absolutePath (plain_concat_iff.mpr ⟨plain, plainName⟩) listed text

/-! ## The search -/

theorem find_eq (tree : FileTree) (start : String) :
    find tree start = ((searchPath tree start).findSome? (fileIn? tree)).elim (.ok none) fun path =>
      (ofFile tree path).map fun profile => some (path, profile) := by
  delta find
  cases (searchPath tree start).findSome? (fileIn? tree) with
  | none => rfl
  | some path =>
    rw [Option.elim_some]
    dsimp only
    cases ofFile tree path <;> rfl

section Search

variable (wellFormed : tree.WellFormed) (plain : ∀ name ∈ place, PlainName name)
  (isDirectory : tree.entryAt? place = some .directory)

include wellFormed plain isDirectory

private theorem fileIn?_upward {directory : Location} (above : directory <+: place) :
    fileIn? tree (absolutePath directory) =
      (fileNames.find? fun name => (tree.fileAt? (directory ++ [name])).isSome).map fun name =>
        absolutePath (directory ++ [name]) :=
  fileIn?_absolutePath wellFormed (fun name member => plain name (above.subset member))
    (wellFormed.directory_of_prefix isDirectory above)

private theorem fileIn?_eq_none_iff {directory : Location} (above : directory <+: place) :
    fileIn? tree (absolutePath directory) = none ↔ ¬ HoldsProfile tree directory := by
  rw [fileIn?_upward wellFormed plain isDirectory above, Option.map_eq_none_iff, List.find?_eq_none, HoldsProfile]
  simp [Option.isSome_iff_ne_none]

/-- The file that decides is the one that the search stops at. -/
theorem findSome?_of_decides {directory : Location} {content : ByteArray}
    (decides : Decides tree place directory name content) :
    ((upward place).map absolutePath).findSome? (fileIn? tree) = some (absolutePath (directory ++ [name])) := by
  obtain ⟨above, nearest, ⟨earlier, later, listed, nothing⟩, holds⟩ := decides
  rw [List.findSome?_map]
  refine findSome?_upward_eq_some_iff.mpr ⟨directory, above, ?_, ?_⟩
  · rw [Function.comp_apply, fileIn?_upward wellFormed plain isDirectory above,
      List.find?_eq_some_iff_append.mpr ⟨by simp [holds], earlier, later, listed, ?_⟩]
    · rfl
    · intro other member
      simp [nothing other member]
  · intro nearer within longer
    exact (fileIn?_eq_none_iff wellFormed plain isDirectory within).mpr (nearest nearer within longer)

theorem exists_decides (held : ∃ directory, directory <+: place ∧ HoldsProfile tree directory) :
    ∃ directory name content, Decides tree place directory name content := by
  cases result : (upward place).findSome? (fileIn? tree ∘ absolutePath) with
  | none =>
    obtain ⟨directory, above, holds⟩ := held
    have listed : directory ∈ upward place := List.mem_reverse.mpr ((List.mem_inits _ _).mpr above)
    have nothing := List.findSome?_eq_none_iff.mp result directory listed
    exact absurd holds ((fileIn?_eq_none_iff wellFormed plain isDirectory above).mp nothing)
  | some path =>
    obtain ⟨directory, above, isFound, nearest⟩ := findSome?_upward_eq_some_iff.mp result
    rw [Function.comp_apply, fileIn?_upward wellFormed plain isDirectory above] at isFound
    obtain ⟨name, isFirst, -⟩ := Option.map_eq_some_iff.mp isFound
    obtain ⟨isHeld, earlier, later, listed, nothing⟩ := List.find?_eq_some_iff_append.mp isFirst
    obtain ⟨content, holds⟩ := Option.isSome_iff_exists.mp isHeld
    refine ⟨directory, name, content, above, ?_, ⟨earlier, later, listed, ?_⟩, holds⟩
    · intro nearer within longer
      exact (fileIn?_eq_none_iff wellFormed plain isDirectory within).mp (nearest nearer within longer)
    · intro other member
      simpa using nothing other member

end Search

/-- The search for a profile goes from an existing directory to the root and ends there. It finds nothing
exactly when no directory on the way holds a profile file. Otherwise one file decides, the first in the nearest
directory, and the search gives what that file says, or why it cannot be read. -/
theorem find_nearest (wellFormed : tree.WellFormed) (home : ∀ name ∈ tree.workingDirectory, PlainName name)
    (existing : tree.isDirectory start = true) :
    ∃ place, tree.locationOf? start = some place ∧
      searchPath tree start = (upward place).map absolutePath ∧
      (find tree start = .ok none ↔ ∀ directory, directory <+: place → ¬ HoldsProfile tree directory) ∧
      ((∃ directory, directory <+: place ∧ HoldsProfile tree directory) →
        ∃ directory name content, Decides tree place directory name content) ∧
      ∀ directory name content, Decides tree place directory name content →
        find tree start = (ofBytes (absolutePath (directory ++ [name])) name content).map fun profile =>
          some (absolutePath (directory ++ [name]), profile) := by
  obtain ⟨nonempty, isOpen⟩ := isOpen_of_isDirectory existing
  have located := isOpen.locationOf?_eq nonempty
  have isDirectory := isOpen.isDirectory
  have plain := plain_placeOf home start
  have searched := searchPath_of_locationOf? located plain
  have decided : ∀ directory name content, Decides tree (tree.placeOf start) directory name content →
      find tree start = (ofBytes (absolutePath (directory ++ [name])) name content).map fun profile =>
        some (absolutePath (directory ++ [name]), profile) := by
    intro directory name content decides
    obtain ⟨earlier, later, listed, -⟩ := decides.first
    have read := ofFile_absolutePath wellFormed (fun other member => plain other (decides.above.subset member))
      (wellFormed.directory_of_prefix isDirectory decides.above) (by rw [listed]; simp) decides.holds
    rw [find_eq, searched, findSome?_of_decides wellFormed plain isDirectory decides, Option.elim_some, read]
  refine ⟨tree.placeOf start, located, searched, ⟨?_, ?_⟩,
    exists_decides wellFormed plain isDirectory, decided⟩
  · intro foundNone directory above holds
    obtain ⟨nearest, name, content, decides⟩ := exists_decides wellFormed plain isDirectory ⟨directory, above, holds⟩
    rw [decided nearest name content decides] at foundNone
    cases read : ofBytes (absolutePath (nearest ++ [name])) name content <;> simp [read, Except.map] at foundNone
  · intro nothing
    have noFile : (searchPath tree start).findSome? (fileIn? tree) = none := by
      rw [searched, List.findSome?_map, List.findSome?_eq_none_iff]
      intro directory listed
      have above := (List.mem_inits _ _).mp (List.mem_reverse.mp listed)
      exact (fileIn?_eq_none_iff wellFormed plain isDirectory above).mpr (nothing directory above)
    rw [find_eq, noFile, Option.elim_none]

/-- A broken profile between a directory that has the name of a profile, below it, and a profile that can be
read, above it. -/
def brokenProfileTree : FileTree :=
  ((((((⟨[], ["work", "app"]⟩ : FileTree).put ["work"] .directory).put ["work", ".skylos.yaml"]
    (.file "exclude: []".toUTF8)).put ["work", "app"] .directory).put ["work", "app", ".skylos.json"]
    (.file "\x7b".toUTF8)).put ["work", "app", "src"] .directory).put
    ["work", "app", "src", ".skylos.json"] .directory

theorem find_brokenProfileTree :
    brokenProfileTree.WellFormed ∧ (∀ name ∈ brokenProfileTree.workingDirectory, PlainName name) ∧
      brokenProfileTree.isDirectory "src" = true ∧
      Decides brokenProfileTree ["work", "app", "src"] ["work", "app"] ".skylos.json" "\x7b".toUTF8 ∧
      find brokenProfileTree "src" = .error (.json .truncated) := by
  have wellFormed : brokenProfileTree.WellFormed :=
    ((((((wellFormed_nil _).put (by decide) rfl (by decide)).put (by decide) rfl (by decide)).put (by decide) rfl
      (by decide)).put (by decide) rfl (by decide)).put (by decide) rfl (by decide)).put (by decide) rfl (by decide)
  have home : ∀ name ∈ brokenProfileTree.workingDirectory, PlainName name := by
    have names : brokenProfileTree.workingDirectory = ["work", "app"] := rfl
    rw [names]
    simp only [List.mem_cons, List.not_mem_nil, or_false]
    rintro name (rfl | rfl) <;> exact ⟨by decide, by decide, by decide, by decide⟩
  have existing : brokenProfileTree.isDirectory "src" = true := by decide
  have decides : Decides brokenProfileTree ["work", "app", "src"] ["work", "app"] ".skylos.json" "\x7b".toUTF8 := by
    refine ⟨⟨["src"], rfl⟩, ?_, ⟨[], _, rfl, by simp⟩, rfl⟩
    intro nearer within longer
    obtain rfl : nearer = ["work", "app", "src"] :=
      within.eq_of_length_le (Nat.succ_le_of_lt longer)
    rintro ⟨name, listed, isHeld⟩
    simp only [fileNames, List.mem_cons, List.not_mem_nil, or_false] at listed
    rcases listed with rfl | rfl | rfl <;> exact isHeld rfl
  refine ⟨wellFormed, home, existing, decides, ?_⟩
  obtain ⟨place, located, -, -, -, decided⟩ := find_nearest wellFormed home existing
  have isPlace : brokenProfileTree.locationOf? "src" = some ["work", "app", "src"] := by decide
  obtain rfl : place = ["work", "app", "src"] := Option.some.inj (located.symm.trans isPlace)
  have notRead : ofJson "\x7b" = .error .truncated := by rfl
  have broken (path : String) : ofBytes path ".skylos.json" "\x7b".toUTF8 = .error (.json .truncated) := by
    simp only [ofBytes, Text.fromUTF8?_toUTF8, if_true, notRead, Except.mapError]
  exact (decided _ _ _ decides).trans (by rw [broken]; rfl)

end Profile

end Lintel
