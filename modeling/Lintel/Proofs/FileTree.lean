import Lintel.FileTree
import Lintel.Proofs.TextPieces

/-!
# Locations in a file tree

What the operations on a tree do, said of locations in place of paths. A path whose walk succeeds leads
to the place that its text alone determines, and a name behind a directory leads one step further.
Changing one location leaves all others as they are.
-/

set_option autoImplicit false

namespace Lintel

namespace FileTree

/-! ## Changing one location -/

@[simp] theorem entryAt?_nil (tree : FileTree) : tree.entryAt? [] = some .directory := rfl

theorem ne_nil_of_missing {tree : FileTree} {place : Location} (missing : tree.entryAt? place = none) :
    place ≠ [] := by
  rintro rfl
  cases missing

theorem entryAt?_erase (tree : FileTree) {location : Location} (proper : location ≠ [])
    (other : Location) :
    (tree.erase location).entryAt? other = if other = location then none else tree.entryAt? other := by
  by_cases root : other = []
  · subst root
    rw [if_neg (Ne.symm proper)]
    rfl
  · simp only [entryAt?, root, if_false, erase, List.find?_filter]
    split
    · rename_i same
      subst same
      rw [List.find?_eq_none.mpr (by simp)]
      rfl
    · rename_i different
      congr 2
      funext entry
      by_cases here : entry.1 = other
      · simp [here, different]
      · simp [here]

theorem entryAt?_put (tree : FileTree) {location : Location} (proper : location ≠ []) (entry : FileEntry)
    (other : Location) :
    (tree.put location entry).entryAt? other =
      if other = location then some entry else tree.entryAt? other := by
  have erased := tree.entryAt?_erase proper other
  by_cases root : other = []
  · subst root
    rw [if_neg (Ne.symm proper)]
    rfl
  · simp only [entryAt?, root, if_false] at erased ⊢
    simp only [put, List.find?_append, Option.map_or, erased]
    split
    · rename_i same
      subst same
      simp
    · rename_i different
      simp [Ne.symm different]

/-! ## Paths and places -/

/-- One piece of a path, walked without looking at what is there. -/
def advance (current : Location) (piece : String) : Location :=
  if piece = "" ∨ piece = "." then current
  else if piece = ".." then current.dropLast
  else current ++ [piece]

/-- The place that the text of a path determines, whether or not something is there. -/
def placeOf (tree : FileTree) (path : String) : Location :=
  (piecesOf path).foldl advance (tree.startOf path)

/-- Walks a path; the empty path leads nowhere but to its start. -/
def walk (tree : FileTree) (path : String) : Except FileError Location :=
  (piecesOf path).foldlM tree.step (tree.startOf path)

/-- A step leads where the piece says, and only from a directory. -/
theorem step_eq_ok_iff {tree : FileTree} {current next : Location} {piece : String} :
    tree.step current piece = .ok next ↔
      tree.entryAt? current = some .directory ∧ next = advance current piece := by
  rw [step, advance]
  split
  · rename_i missing
    simp [missing]
  · rename_i content file
    simp [file]
  · rename_i directory
    simp only [directory, true_and]
    repeat' split
    all_goals simp only [Except.ok.injEq, eq_comm]

theorem step_of_directory {tree : FileTree} {current : Location}
    (directory : tree.entryAt? current = some .directory) (piece : String) :
    tree.step current piece = .ok (advance current piece) :=
  step_eq_ok_iff.mpr ⟨directory, rfl⟩

theorem step_blank (tree : FileTree) (current : Location) (piece : String) :
    (tree.step current "" >>= fun next => tree.step next piece) = tree.step current piece := by
  unfold step
  cases entry : tree.entryAt? current with
  | none => rfl
  | some found =>
    cases found with
    | file content => rfl
    | directory => simp [bind, Except.bind, entry]

private theorem foldlM_step_cons (tree : FileTree) (current : Location) (piece : String)
    (pieces : List String) :
    (piece :: pieces).foldlM tree.step current =
      (tree.step current piece >>= fun next => pieces.foldlM tree.step next) := rfl

theorem eq_foldl_of_foldlM_step {tree : FileTree} {pieces : List String} {current place : Location}
    (walked : pieces.foldlM tree.step current = .ok place) : place = pieces.foldl advance current := by
  induction pieces generalizing current with
  | nil => exact (Except.ok.inj walked).symm
  | cons piece pieces ih =>
    rw [foldlM_step_cons] at walked
    cases stepped : tree.step current piece with
    | error cause => simp [stepped, bind, Except.bind] at walked
    | ok next =>
      simp only [stepped, bind, Except.bind] at walked
      rw [ih walked, (step_eq_ok_iff.mp stepped).2]
      rfl

theorem eq_placeOf_of_walk {tree : FileTree} {path : String} {place : Location}
    (walked : tree.walk path = .ok place) : place = tree.placeOf path :=
  eq_foldl_of_foldlM_step walked

theorem locate_eq_walk {path : String} (tree : FileTree) (nonempty : path ≠ "") :
    tree.locate path = tree.walk path := by
  rw [locate, if_neg (by simpa using nonempty), walk]

theorem eq_placeOf_of_locate {tree : FileTree} {path : String} {place : Location}
    (located : tree.locate path = .ok place) : place = tree.placeOf path := by
  rw [locate] at located
  split at located
  · cases located
  · exact eq_placeOf_of_walk located

/-- A name that leads one step down. -/
structure PlainName (name : String) : Prop where
  nonempty : name ≠ ""
  notCurrent : name ≠ "."
  notParent : name ≠ ".."
  noSlash : '/' ∉ name.toList

theorem advance_plain {name : String} (plain : PlainName name) (current : Location) :
    advance current name = current ++ [name] := by
  simp [advance, plain.nonempty, plain.notCurrent, plain.notParent]

theorem PlainName.notAbsolute {name : String} (plain : PlainName name) : name.toList.head? ≠ some '/' := by
  intro leading
  exact plain.noSlash (List.mem_of_head? leading)

theorem piecesOf_plain {name : String} (plain : PlainName name) : piecesOf name = [name] := by
  rw [piecesOf, Text.splitAll_of_notMem plain.noSlash]
  simp

/-- The pieces of a name behind a directory: those of the directory, up to an empty one at its end, and
the name. -/
theorem piecesOf_join (directory : String) {name : String} (plain : PlainName name) :
    ∃ before, piecesOf (Path.join directory name) = before ++ [name] ∧
      (piecesOf directory = before ∨ piecesOf directory = before ++ [""]) := by
  have pieceOfName : Text.splitAll '/' name.toList = [name.toList] :=
    Text.splitAll_of_notMem plain.noSlash
  rw [Path.join, if_neg plain.notAbsolute]
  split
  · rename_i empty
    rw [String.isEmpty_iff] at empty
    subst empty
    exact ⟨[], piecesOf_plain plain, .inr rfl⟩
  · split
    · rename_i slash
      obtain ⟨front, written⟩ := List.getLast?_eq_some_iff.mp slash
      refine ⟨(Text.splitAll '/' front).map String.ofList, ?_, .inr ?_⟩
      · rw [piecesOf, String.toList_append, written, List.append_assoc, List.singleton_append,
          Text.splitAll_append, pieceOfName, List.map_append]
        simp
      · rw [piecesOf, written, Text.splitAll_append, List.map_append]
        rfl
    · refine ⟨piecesOf directory, ?_, .inl rfl⟩
      rw [piecesOf, String.toList_append, String.toList_append, List.append_assoc]
      have between : "/".toList ++ name.toList = '/' :: name.toList := rfl
      rw [between, Text.splitAll_append, pieceOfName, List.map_append, piecesOf]
      simp

theorem startOf_join (tree : FileTree) (directory : String) {name : String} (plain : PlainName name) :
    tree.startOf (Path.join directory name) = tree.startOf directory := by
  have leading : (Path.join directory name).toList.head? = some '/' ↔
      directory.toList.head? = some '/' := by
    rw [Path.join, if_neg plain.notAbsolute]
    split
    · rename_i empty
      rw [String.isEmpty_iff] at empty
      subst empty
      simp [plain.notAbsolute]
    · rename_i nonempty
      have written : directory.toList ≠ [] := by
        rw [ne_eq, String.toList_eq_nil_iff]
        simpa using nonempty
      obtain ⟨first, more, shape⟩ := List.exists_cons_of_ne_nil written
      split <;> simp [shape]
  simp only [startOf, leading]

theorem placeOf_join (tree : FileTree) (directory : String) {name : String} (plain : PlainName name) :
    tree.placeOf (Path.join directory name) = tree.placeOf directory ++ [name] := by
  obtain ⟨before, joined, pieces | pieces⟩ := piecesOf_join directory plain
  · rw [placeOf, placeOf, startOf_join tree directory plain, joined, pieces, List.foldl_append]
    exact advance_plain plain _
  · rw [placeOf, placeOf, startOf_join tree directory plain, joined, pieces, List.foldl_append,
      List.foldl_append]
    exact advance_plain plain _

theorem walk_join (tree : FileTree) (directory : String) {name : String} (plain : PlainName name) :
    tree.walk (Path.join directory name) =
      (tree.walk directory >>= fun place => tree.step place name) := by
  obtain ⟨before, joined, pieces | pieces⟩ := piecesOf_join directory plain
  · rw [walk, walk, startOf_join tree directory plain, joined, pieces, List.foldlM_append]
    simp only [List.foldlM_cons, List.foldlM_nil, bind_pure]
  · rw [walk, walk, startOf_join tree directory plain, joined, pieces, List.foldlM_append,
      List.foldlM_append]
    simp only [List.foldlM_cons, List.foldlM_nil, bind_pure, bind_assoc, step_blank]

theorem join_ne_empty (directory : String) {name : String} (plain : PlainName name) :
    Path.join directory name ≠ "" := by
  rw [Path.join, if_neg plain.notAbsolute]
  split
  · exact plain.nonempty
  · split <;> simp [plain.nonempty]

/-! ## Directories that are there -/

/-- A path that leads to a directory. -/
structure IsOpen (tree : FileTree) (directory : String) : Prop where
  walked : tree.walk directory = .ok (tree.placeOf directory)
  isDirectory : tree.entryAt? (tree.placeOf directory) = some .directory

private theorem directory_of_foldlM_step {tree : FileTree} {pieces : List String}
    {current place : Location} (walked : pieces.foldlM tree.step current = .ok place)
    (directory : tree.entryAt? place = some .directory) : tree.entryAt? current = some .directory := by
  cases pieces with
  | nil => rwa [Except.ok.inj walked]
  | cons piece pieces =>
    cases stepped : tree.step current piece with
    | error cause => simp [stepped, bind, Except.bind] at walked
    | ok next => exact (step_eq_ok_iff.mp stepped).1

/-- Nothing is made on a way that can be walked to a directory. -/
theorem createFrom_append {tree : FileTree} {before : List String} {current place : Location}
    (walked : before.foldlM tree.step current = .ok place)
    (directory : tree.entryAt? place = some .directory) (after : List String) :
    tree.createFrom current (before ++ after) = tree.createFrom place after := by
  induction before generalizing current with
  | nil => rw [Except.ok.inj walked, List.nil_append]
  | cons piece before ih =>
    rw [foldlM_step_cons] at walked
    cases stepped : tree.step current piece with
    | error cause => simp [stepped, bind, Except.bind] at walked
    | ok next =>
      simp only [stepped, bind, Except.bind] at walked
      have here := directory_of_foldlM_step walked directory
      simp only [List.cons_append, createFrom, stepped, here]
      exact ih walked

/-- A directory is made below an open one, unless it is there or a file stands in its place. -/
theorem createDirectories_join {tree : FileTree} {directory name : String} (isOpen : tree.IsOpen directory)
    (plain : PlainName name) :
    tree.createDirectories (Path.join directory name) =
      match tree.entryAt? (tree.placeOf directory ++ [name]) with
      | none => (.ok (), tree.put (tree.placeOf directory ++ [name]) .directory)
      | some .directory => (.ok (), tree)
      | some (.file _) => (.error .alreadyExists, tree) := by
  obtain ⟨walked, isDirectory⟩ := isOpen
  have last : tree.createFrom (tree.placeOf directory) [name] =
      match tree.entryAt? (tree.placeOf directory ++ [name]) with
      | none => (.ok (), tree.put (tree.placeOf directory ++ [name]) .directory)
      | some .directory => (.ok (), tree)
      | some (.file _) => (.error .alreadyExists, tree) := by
    simp only [createFrom, step_of_directory isDirectory, advance_plain plain]
    rfl
  rw [createDirectories, if_neg (by simpa using join_ne_empty directory plain),
    startOf_join tree directory plain, ← last]
  obtain ⟨before, joined, pieces | pieces⟩ := piecesOf_join directory plain
  · rw [walk, pieces] at walked
    rw [joined, createFrom_append walked isDirectory]
  · -- the walk to the directory ends with an empty piece, which stays where it is
    rw [walk, pieces, List.foldlM_append] at walked
    cases front : before.foldlM tree.step (tree.startOf directory) with
    | error cause => simp [front, bind, Except.bind] at walked
    | ok place =>
      simp only [front, bind, Except.bind, foldlM_step_cons] at walked
      cases blank : tree.step place "" with
      | error cause => simp [blank] at walked
      | ok next =>
        simp only [blank] at walked
        have reached : next = tree.placeOf directory := Except.ok.inj walked
        have same : next = place := (step_eq_ok_iff.mp blank).2
        rw [← reached, same] at isDirectory ⊢
        rw [joined, createFrom_append front isDirectory]

/-- What making directories leaves: every entry that was there, and directories where nothing was. -/
theorem createFrom_cases (tree : FileTree) (current : Location) (pieces : List String) :
    (tree.createFrom current pieces).2.workingDirectory = tree.workingDirectory ∧
      ∀ place, (tree.createFrom current pieces).2.entryAt? place = tree.entryAt? place ∨
        tree.entryAt? place = none ∧
          (tree.createFrom current pieces).2.entryAt? place = some .directory := by
  induction pieces generalizing tree current with
  | nil => exact ⟨rfl, fun _ => .inl rfl⟩
  | cons piece pieces ih =>
    rw [createFrom]
    split
    · exact ⟨rfl, fun _ => .inl rfl⟩
    · rename_i next _
      split
      · rename_i missing
        have proper := ne_nil_of_missing missing
        obtain ⟨sameStart, cases⟩ := ih (tree.put next .directory) next
        refine ⟨sameStart, fun place => ?_⟩
        have grown := cases place
        rw [tree.entryAt?_put proper] at grown
        split at grown
        · rename_i here
          subst here
          exact .inr ⟨missing, grown.elim id And.right⟩
        · exact grown
      · exact ih tree next
      · exact ⟨rfl, fun _ => .inl rfl⟩

theorem createFrom_keeps (tree : FileTree) (current : Location) (pieces : List String) {place : Location}
    (present : tree.entryAt? place ≠ none) :
    (tree.createFrom current pieces).2.entryAt? place = tree.entryAt? place :=
  ((tree.createFrom_cases current pieces).2 place).resolve_right fun missing => present missing.1

theorem file_of_createDirectories {tree : FileTree} {path : String} {place : Location} {content : ByteArray}
    (found : (tree.createDirectories path).2.entryAt? place = some (.file content)) :
    tree.entryAt? place = some (.file content) := by
  rw [createDirectories] at found
  split at found
  · exact found
  · rcases (tree.createFrom_cases (tree.startOf path) (piecesOf path)).2 place with same | ⟨_, directory⟩
    · rwa [same] at found
    · rw [directory] at found
      cases found

/-- A way on which directories have been made can be walked to its end, which is a directory. -/
theorem walk_of_createFrom {tree made : FileTree} {current : Location} {pieces : List String}
    (start : tree.entryAt? current = some .directory ∨ pieces ≠ [])
    (created : tree.createFrom current pieces = (.ok (), made)) :
    ∃ place, pieces.foldlM made.step current = .ok place ∧ made.entryAt? place = some .directory := by
  induction pieces generalizing tree current with
  | nil =>
    cases created
    rcases start with directory | nonempty
    · exact ⟨current, rfl, directory⟩
    · exact absurd rfl nonempty
  | cons piece pieces ih =>
    have later : ∀ grown : FileTree, grown.entryAt? (advance current piece) = some .directory →
        (∀ place, tree.entryAt? place ≠ none → grown.entryAt? place = tree.entryAt? place) →
        tree.entryAt? current = some .directory →
        grown.createFrom (advance current piece) pieces = (.ok (), made) →
        ∃ place, (piece :: pieces).foldlM made.step current = .ok place ∧
          made.entryAt? place = some .directory := by
      intro grown directory kept here continued
      obtain ⟨place, walked, isDirectory⟩ := ih (.inl directory) continued
      have present : grown.entryAt? current ≠ none := by
        rw [kept current (by rw [here]; exact Option.some_ne_none _), here]
        exact Option.some_ne_none _
      have keeps := grown.createFrom_keeps (advance current piece) pieces present
      rw [continued, kept current (by rw [here]; exact Option.some_ne_none _), here] at keeps
      refine ⟨place, ?_, isDirectory⟩
      rw [foldlM_step_cons, step_of_directory keeps]
      exact walked
    rw [createFrom] at created
    split at created
    · cases created
    · rename_i next stepped
      obtain ⟨here, rfl⟩ := step_eq_ok_iff.mp stepped
      split at created
      · rename_i missing
        have proper := ne_nil_of_missing missing
        refine later _ ?_ ?_ here created
        · rw [entryAt?_put _ proper, if_pos rfl]
        · intro place present
          rw [entryAt?_put _ proper, if_neg]
          rintro rfl
          exact present missing
      · rename_i directory
        exact later tree directory (fun _ _ => rfl) here created
      · cases created

theorem startOf_congr {tree other : FileTree} (same : other.workingDirectory = tree.workingDirectory)
    (path : String) : other.startOf path = tree.startOf path := by
  rw [startOf, startOf, same]

theorem placeOf_congr {tree other : FileTree} (same : other.workingDirectory = tree.workingDirectory)
    (path : String) : other.placeOf path = tree.placeOf path := by
  rw [placeOf, placeOf, startOf_congr same]

theorem isOpen_of_createDirectories {tree made : FileTree} {directory : String} (nonempty : directory ≠ "")
    (created : tree.createDirectories directory = (.ok (), made)) : made.IsOpen directory := by
  rw [createDirectories, if_neg (by simpa using nonempty)] at created
  have pieces : piecesOf directory ≠ [] := by
    simpa [piecesOf] using Text.splitAll_ne_nil '/' directory.toList
  have sameStart := (tree.createFrom_cases (tree.startOf directory) (piecesOf directory)).1
  rw [created] at sameStart
  obtain ⟨place, walked, isDirectory⟩ := walk_of_createFrom (.inr pieces) created
  rw [← startOf_congr sameStart] at walked
  have reached : place = made.placeOf directory := eq_placeOf_of_walk walked
  rw [reached] at walked isDirectory
  exact ⟨walked, isDirectory⟩

private theorem piecesOf_empty : piecesOf "" = [""] := rfl

private theorem placeOf_empty (tree : FileTree) : tree.placeOf "" = tree.startOf "" := by
  rw [placeOf, piecesOf_empty]
  rfl

theorem isOpen_empty {tree : FileTree} (isDirectory : tree.entryAt? (tree.placeOf "") = some .directory) :
    tree.IsOpen "" where
  walked := by
    rw [placeOf_empty] at isDirectory ⊢
    rw [walk, piecesOf_empty, foldlM_step_cons, step_of_directory isDirectory]
    rfl
  isDirectory := isDirectory

theorem createDirectories_stuck {tree : FileTree} {name : String} (plain : PlainName name)
    (missing : tree.entryAt? (tree.placeOf "") ≠ some .directory) :
    (tree.createDirectories (Path.join "" name)).2 = tree := by
  rw [placeOf_empty] at missing
  rw [createDirectories, if_neg (by simpa using join_ne_empty "" plain), startOf_join tree "" plain]
  have joined : Path.join "" name = name := by
    rw [Path.join, if_neg plain.notAbsolute]
    rfl
  rw [joined, piecesOf_plain plain, createFrom]
  split
  · rfl
  · rename_i next stepped
    exact absurd (step_eq_ok_iff.mp stepped).1 missing

private theorem foldlM_step_of_keeps {tree other : FileTree} {pieces : List String}
    {current place : Location}
    (kept : ∀ place, tree.entryAt? place = some .directory → other.entryAt? place = some .directory)
    (walked : pieces.foldlM tree.step current = .ok place) :
    pieces.foldlM other.step current = .ok place := by
  induction pieces generalizing current with
  | nil => exact walked
  | cons piece pieces ih =>
    rw [foldlM_step_cons] at walked ⊢
    cases stepped : tree.step current piece with
    | error cause => simp [stepped, bind, Except.bind] at walked
    | ok next =>
      obtain ⟨directory, rfl⟩ := step_eq_ok_iff.mp stepped
      simp only [stepped, bind, Except.bind] at walked
      rw [step_of_directory (kept current directory)]
      exact ih walked

/-- What reading a location as a file gives. -/
def contentOf : Option FileEntry → Except FileError ByteArray
  | none => .error .notFound
  | some .directory => .error .isDirectory
  | some (.file content) => .ok content

namespace IsOpen

variable {tree other : FileTree} {directory name : String}

theorem of_keeps (isOpen : tree.IsOpen directory)
    (same : other.workingDirectory = tree.workingDirectory)
    (kept : ∀ place, tree.entryAt? place = some .directory → other.entryAt? place = some .directory) :
    other.IsOpen directory where
  walked := by
    rw [walk, startOf_congr same, placeOf_congr same]
    exact foldlM_step_of_keeps kept isOpen.walked
  isDirectory := by
    rw [placeOf_congr same]
    exact kept _ isOpen.isDirectory

theorem walk_join (isOpen : tree.IsOpen directory) (plain : PlainName name) :
    tree.walk (Path.join directory name) = .ok (tree.placeOf directory ++ [name]) := by
  rw [FileTree.walk_join tree directory plain, isOpen.walked]
  exact (step_of_directory isOpen.isDirectory name).trans (by rw [advance_plain plain])

theorem locate_join (isOpen : tree.IsOpen directory) (plain : PlainName name) :
    tree.locate (Path.join directory name) = .ok (tree.placeOf directory ++ [name]) := by
  rw [locate_eq_walk tree (join_ne_empty directory plain), isOpen.walk_join plain]

theorem join (isOpen : tree.IsOpen directory) (plain : PlainName name)
    (below : tree.entryAt? (tree.placeOf directory ++ [name]) = some .directory) :
    tree.IsOpen (Path.join directory name) where
  walked := by rw [isOpen.walk_join plain, placeOf_join tree directory plain]
  isDirectory := by rwa [placeOf_join tree directory plain]

theorem readBytes_join (isOpen : tree.IsOpen directory) (plain : PlainName name) :
    tree.readBytes (Path.join directory name) =
      contentOf (tree.entryAt? (tree.placeOf directory ++ [name])) := by
  simp only [readBytes, lookup, isOpen.locate_join plain, bind, Except.bind]
  cases tree.entryAt? (tree.placeOf directory ++ [name]) with
  | none => rfl
  | some entry => cases entry <;> rfl

theorem writeFile_join (isOpen : tree.IsOpen directory) (plain : PlainName name)
    (free : tree.entryAt? (tree.placeOf directory ++ [name]) ≠ some .directory) (content : ByteArray) :
    tree.writeFile (Path.join directory name) content =
      (.ok (), tree.put (tree.placeOf directory ++ [name]) (.file content)) := by
  rw [writeFile, isOpen.locate_join plain]
  simp only [List.dropLast_concat, isOpen.isDirectory]

theorem readBytes_below_missing (isOpen : tree.IsOpen directory) {file : String}
    (plain : PlainName name) (plainFile : PlainName file)
    (missing : tree.entryAt? (tree.placeOf directory ++ [name]) = none) :
    tree.readBytes (Path.join (Path.join directory name) file) = .error .notFound := by
  have stuck : tree.locate (Path.join (Path.join directory name) file) = .error .notFound := by
    rw [locate_eq_walk tree (join_ne_empty _ plainFile), FileTree.walk_join tree _ plainFile,
      isOpen.walk_join plain]
    simp only [bind, Except.bind, step, missing]
  simp only [readBytes, lookup, stuck, bind, Except.bind]

end IsOpen

theorem IsOpen.locationOf?_eq {tree : FileTree} {directory : String} (isOpen : tree.IsOpen directory)
    (nonempty : directory ≠ "") : tree.locationOf? directory = some (tree.placeOf directory) := by
  have located : tree.locate directory = .ok (tree.placeOf directory) := by
    rw [locate_eq_walk tree nonempty, isOpen.walked]
  simp only [locationOf?, located, isOpen.isDirectory, Option.isSome_some, if_true]

theorem isOpen_of_isDirectory {tree : FileTree} {directory : String}
    (isDirectory : tree.isDirectory directory = true) : directory ≠ "" ∧ tree.IsOpen directory := by
  have nonempty : directory ≠ "" := by
    rintro rfl
    cases isDirectory
  refine ⟨nonempty, ?_⟩
  rw [FileTree.isDirectory, lookup, locate_eq_walk tree nonempty] at isDirectory
  cases walked : tree.walk directory with
  | error cause => simp [walked, bind, Except.bind] at isDirectory
  | ok place =>
    obtain rfl := eq_placeOf_of_walk walked
    refine ⟨walked, ?_⟩
    cases stands : tree.entryAt? (tree.placeOf directory) with
    | none => simp [walked, stands, bind, Except.bind] at isDirectory
    | some entry =>
      cases entry with
      | directory => rfl
      | file content => simp [walked, stands, bind, Except.bind, FileEntry.isFile] at isDirectory

/-! ## Files -/

/-- Writing a file fails and changes nothing, or it puts the file at the place of the path, where no
directory stood. -/
theorem writeFile_cases (tree : FileTree) (path : String) (content : ByteArray) :
    (∃ cause, tree.writeFile path content = (.error cause, tree)) ∨
      tree.entryAt? (tree.placeOf path) ≠ some .directory ∧
        tree.writeFile path content = (.ok (), tree.put (tree.placeOf path) (.file content)) := by
  rw [writeFile]
  split
  · exact .inl ⟨_, rfl⟩
  · rename_i place located
    rw [← eq_placeOf_of_locate located]
    split
    · exact .inl ⟨_, rfl⟩
    · exact .inl ⟨_, rfl⟩
    · exact .inl ⟨_, rfl⟩
    · rename_i noDirectory
      exact .inr ⟨noDirectory, rfl⟩

theorem readBytes_eq_ok {tree : FileTree} {path : String} {content : ByteArray}
    (read : tree.readBytes path = .ok content) :
    tree.entryAt? (tree.placeOf path) = some (.file content) := by
  rw [readBytes, lookup] at read
  cases located : tree.locate path with
  | error cause => simp [located, bind, Except.bind] at read
  | ok place =>
    rw [← eq_placeOf_of_locate located]
    cases entry : tree.entryAt? place with
    | none => simp [located, entry, bind, Except.bind] at read
    | some found =>
      cases found with
      | directory => simp [located, entry, bind, Except.bind] at read
      | file bytes =>
        simp only [located, entry, bind, Except.bind, Except.ok.injEq] at read
        rw [read]

theorem renameFile_cases (tree : FileTree) (source target : String) :
    (∃ cause, tree.renameFile source target = (.error cause, tree)) ∨
      ∃ content, tree.entryAt? (tree.placeOf source) = some (.file content) ∧
        (tree.erase (tree.placeOf source)).entryAt? (tree.placeOf target) ≠ some .directory ∧
        tree.renameFile source target =
          (.ok (), (tree.erase (tree.placeOf source)).put (tree.placeOf target) (.file content)) := by
  rw [renameFile]
  split
  · rename_i content start read located
    rw [← eq_placeOf_of_locate located]
    have found := readBytes_eq_ok read
    rw [← eq_placeOf_of_locate located] at found
    rcases (tree.erase start).writeFile_cases target content with ⟨cause, failed⟩ | ⟨noDirectory, written⟩
    · exact .inl ⟨cause, by rw [failed]⟩
    · refine .inr ⟨content, found, noDirectory, ?_⟩
      rw [written]
      rfl
  · exact .inl ⟨_, rfl⟩
  · exact .inl ⟨_, rfl⟩

theorem removeFile_cases (tree : FileTree) (path : String) :
    (tree.removeFile path).2 = tree ∨
      ∃ content, tree.entryAt? (tree.placeOf path) = some (.file content) ∧
        (tree.removeFile path).2 = tree.erase (tree.placeOf path) := by
  rw [removeFile]
  split
  · rename_i content place looked located
    rw [← eq_placeOf_of_locate located]
    refine .inr ⟨content, ?_, rfl⟩
    rw [lookup, located] at looked
    cases entry : tree.entryAt? place with
    | none => simp [entry, bind, Except.bind] at looked
    | some found =>
      simp only [entry, bind, Except.bind, Except.ok.injEq] at looked
      rw [looked]
  · exact .inl rfl
  · exact .inl rfl
  · exact .inl rfl

/-! ## Where a reading looks -/

/-- The places that a walk comes by, its start and its end included. -/
def placesFrom (current : Location) : List String → List Location
  | [] => [current]
  | piece :: pieces => current :: placesFrom (advance current piece) pieces

/-- The places that a walk along a path comes by. -/
def placesOn (tree : FileTree) (path : String) : List Location :=
  placesFrom (tree.startOf path) (piecesOf path)

private theorem mem_placesFrom (current : Location) (pieces : List String) :
    pieces.foldl advance current ∈ placesFrom current pieces := by
  induction pieces generalizing current with
  | nil => exact List.mem_singleton.mpr rfl
  | cons piece pieces ih => exact List.mem_cons_of_mem _ (ih (advance current piece))

private theorem foldlM_step_congr {tree other : FileTree} {pieces : List String} {current : Location}
    (agree : ∀ place ∈ placesFrom current pieces, other.entryAt? place = tree.entryAt? place) :
    pieces.foldlM other.step current = pieces.foldlM tree.step current := by
  induction pieces generalizing current with
  | nil => rfl
  | cons piece pieces ih =>
    have here := agree current List.mem_cons_self
    have sameStep : other.step current piece = tree.step current piece := by
      rw [step, step, here]
    rw [foldlM_step_cons, foldlM_step_cons, sameStep]
    cases stepped : tree.step current piece with
    | error cause => rfl
    | ok next =>
      obtain ⟨_, rfl⟩ := step_eq_ok_iff.mp stepped
      exact ih fun place member => agree place (List.mem_cons_of_mem _ member)

/-- Reading a file looks at the places on the way and nowhere else. -/
theorem readText_congr {tree other : FileTree} {path : String}
    (home : other.workingDirectory = tree.workingDirectory)
    (agree : ∀ place ∈ tree.placesOn path, other.entryAt? place = tree.entryAt? place) :
    other.readText path = tree.readText path := by
  have sameLocation : other.locate path = tree.locate path := by
    rw [locate, locate, startOf_congr home, foldlM_step_congr agree]
  have sameEntry : other.lookup path = tree.lookup path := by
    rw [lookup, lookup, sameLocation]
    cases located : tree.locate path with
    | error cause => rfl
    | ok place =>
      have reached := agree (tree.placeOf path) (mem_placesFrom _ _)
      rw [← eq_placeOf_of_locate located] at reached
      simp only [bind, Except.bind, reached]
  rw [readText, readText, readBytes, readBytes, sameEntry]

end FileTree

end Lintel
