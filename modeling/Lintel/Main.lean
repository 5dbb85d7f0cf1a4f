import Lintel.CommandLine

/-!
# The program

Reads the part of the file system that an invocation can look at into a tree, runs on it, prints what
comes out, and carries out what has changed in the tree. Whatever cannot be read is taken for missing.
-/

set_option autoImplicit false

namespace Lintel.Program

/-- The location that a path names, going by its text alone. -/
def placeOf (tree : FileTree) (path : String) : Location :=
  (FileTree.piecesOf path).foldl (fun place piece =>
    if piece = "" ∨ piece = "." then place
    else if piece = ".." then place.dropLast
    else place ++ [piece]) (tree.startOf path)

/-- The entries that a run may look for in the directories above its target. -/
def landmarks : List Location :=
  (Profile.fileNames ++ [".ignore", ".gitignore", ".git"]).map (fun name => [name])
    ++ [[".git", "info", "exclude"]]

/-- Reads one entry. -/
def readEntry (tree : FileTree) (place : Location) : IO FileTree := do
  if place.isEmpty then return tree
  try
    let path ← IO.FS.realPath (FileTree.absolutePath place)
    if ← path.isDir then return tree.put place .directory
    else return tree.put place (.file (← IO.FS.readBinFile path))
  catch _ => return tree

/-- Reads an entry and everything below it. Links are left out. -/
partial def readAll (tree : FileTree) (place : Location) : IO FileTree := do
  let tree ← readEntry tree place
  if (tree.entryAt? place).all FileEntry.isFile then return tree
  try
    let directory ← IO.FS.realPath (FileTree.absolutePath place)
    let children ← directory.readDir
    children.foldlM (fun tree child => do
      let isLink := (← child.path.symlinkMetadata).type == .symlink
      if isLink then return tree else readAll tree (place ++ [child.fileName])) tree
  catch _ => return tree

/-- Reads the directories above an entry and what a run may look for in them. -/
def readAbove (tree : FileTree) (place : Location) : IO FileTree :=
  (List.range place.length).foldlM (fun tree count => do
    let directory := place.take count
    let tree ← readEntry tree directory
    landmarks.foldlM (fun tree name => readEntry tree (directory ++ name)) tree) tree

/-- Reads everything at a path and what a run may look for above it. -/
def readPath (tree : FileTree) (path : String) : IO FileTree := do
  let place := placeOf tree path
  readAll (← readAbove tree place) place

/-- Reads what an invocation can look at. -/
def snapshot (arguments : List String) : IO FileTree := do
  let directory ← IO.currentDir
  let start : FileTree := ⟨[], []⟩
  let tree : FileTree := { start with workingDirectory := placeOf start directory.toString }
  match CommandLine.parse arguments with
  | .ok (.run invocation) =>
    let tree ← readAbove tree (tree.workingDirectory ++ ["."])
    let tree ← readPath tree invocation.path
    let tree ← invocation.config.toList.foldlM readPath tree
    readPath tree (CommandLine.cacheDirectory tree invocation)
  | _ => return tree

/-- The order in which changes are carried out: nothing before the directory that holds it. -/
def byDepth (entries : List (Location × FileEntry)) : List (Location × FileEntry) :=
  entries.mergeSort fun first second => first.1.length ≤ second.1.length

/-- Takes away what a run removed and writes what it added or changed. -/
def carryOut (before after : FileTree) : IO Unit := do
  for (place, entry) in (byDepth before.entries).reverse do
    if (after.entryAt? place).isNone then
      let path := FileTree.absolutePath place
      if entry.isFile then IO.FS.removeFile path else IO.FS.removeDir path
  for (place, entry) in byDepth after.entries do
    if before.entryAt? place ≠ some entry then
      match entry with
      | .directory => IO.FS.createDirAll (FileTree.absolutePath place)
      | .file content => IO.FS.writeBinFile (FileTree.absolutePath place) content

/-- Waits until a task is done, for a number of milliseconds at most. -/
partial def waitFor {α : Type} (task : Task α) (milliseconds : Nat) : IO Bool := do
  if ← IO.hasFinished task then return true
  else if milliseconds = 0 then return false
  else
    let pause := min milliseconds 10
    IO.sleep pause.toUInt32
    waitFor task (milliseconds - pause)

/-- The time that an invocation may take, in milliseconds. -/
def timeLimit? (arguments : List String) : Option Nat :=
  match CommandLine.parse arguments with
  | .ok (.run invocation) => invocation.timeLimit.map (· * 1000)
  | _ => none

/-- Runs within the time limit. A run that is not done by then counts as cancelled from its start. -/
def runInTime (environment : CommandLine.Environment) (arguments : List String) :
    IO CommandLine.Outcome := do
  match timeLimit? arguments with
  | none => return CommandLine.main environment arguments
  | some limit =>
    let task := Task.spawn fun _ => CommandLine.main environment arguments
    if ← waitFor task limit then return task.get
    else return CommandLine.main { environment with token := environment.token.cancel } arguments

end Lintel.Program

def main (arguments : List String) : IO UInt32 := do
  let output ← IO.getStdout
  let coloured := Lintel.Text.wantsColour (← IO.getEnv "CLICOLOR_FORCE") (← IO.getEnv "NO_COLOR")
    (← IO.getEnv "CLICOLOR") (← output.isTty)
  let tree ← Lintel.Program.snapshot arguments
  let processId ← IO.monoNanosNow
  let outcome ← Lintel.Program.runInTime { coloured, processId, tree } arguments
  output.putStr outcome.output
  output.flush
  if let some message := outcome.error then IO.eprintln s!"error: {message}"
  try Lintel.Program.carryOut tree outcome.tree
  catch problem => IO.eprintln s!"warning: {problem}"
  return outcome.exitCode.toUInt32
