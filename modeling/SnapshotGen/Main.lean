import SnapshotGen.CommandLine.Program
import SnapshotGen.Filter.Standard
import SnapshotGen.Text.Utf8

/-!
The command line. What the program may look at is read into a tree, the run is computed, and the
files that it leaves changed are written.
-/

namespace SnapshotGen.Machine

def pathOf (place : List String) : String :=
  "/" ++ "/".intercalate place

def environment : IO Environment := do
  match ← (IO.FS.readBinFile "/proc/self/environ").toBaseIO with
  | .ok content => return .ofText (Text.decodedWithSubstitutes content.toList)
  | .error _ => return ⟨[]⟩

/-! ### Reading -/

def consulted : List (List String) :=
  [".env"] :: ["snapgen.toml"] :: Ignore.rulePlaces

def withFile (tree : FileTree) (place : List String) : IO FileTree := do
  match ← (IO.FS.readBinFile (pathOf place)).toBaseIO with
  | .ok content => return tree.plant place (.file content)
  | .error _ => return tree

def withDirectory (tree : FileTree) (place : List String) : IO FileTree := do
  let .ok found ← (IO.FS.realPath (pathOf place)).toBaseIO | return tree
  if !(← found.isDir) then return tree
  let tree := if (tree.find place).isOk then tree else tree.plant place .empty
  (consulted.map (place ++ ·)).foldlM withFile tree

def placesAlong (place : List String) : List Path.Part → List (List String)
  | [] => [place]
  | .root :: parts => place :: placesAlong [] parts
  | .here :: parts => place :: placesAlong place parts
  | .up :: parts => place :: placesAlong place.dropLast parts
  | .name name :: parts => place :: placesAlong (place ++ [String.ofList name]) parts

def withWay (tree : FileTree) (start : List String) (path : String) : IO FileTree :=
  (placesAlong start (Path.parts path.toList)).foldlM withDirectory tree

def withFileAt (disk : Disk) (path : String) : IO Disk := do
  let tree ← withWay disk.tree disk.workingDirectory path
  match (placesAlong disk.workingDirectory (Path.parts path.toList)).getLast? with
  | some place => return { disk with tree := ← withFile tree place }
  | none => return { disk with tree }

/-- Entries that no search enters are left out. -/
partial def treeAt (path : String) : IO FileTree := do
  let found ← IO.FS.realPath path
  if !(← found.isDir) then return .file (← IO.FS.readBinFile path)
  let mut entries := []
  for entry in ← found.readDir do
    let metadata ← entry.path.symlinkMetadata
    let isRead := metadata.type == .dir || metadata.type == .file
    if isRead && !([".git", "node_modules"].contains entry.fileName) then
      if let .ok tree ← (treeAt entry.path.toString).toBaseIO then
        entries := (entry.fileName, tree) :: entries
  return .directory entries

def withTreeAt (disk : Disk) (path : String) : IO Disk := do
  let way := placesAlong disk.workingDirectory (Path.parts path.toList)
  let tree ← way.foldlM withDirectory disk.tree
  match way.getLast? with
  | none => return { disk with tree }
  | some place =>
    match ← (treeAt (pathOf place)).toBaseIO with
    | .ok found => return { disk with tree := ← withDirectory (tree.plant place found) place }
    | .error _ => return { disk with tree }

/-- A disk with what stands in the working directory and those above it. -/
def workingDisk : IO Disk := do
  let working := (← IO.currentDir).toString
  let parts := Path.parts working.toList
  let workingDirectory := parts.filterMap fun part => part.name?.map String.ofList
  return ⟨← withWay .empty [] working, workingDirectory⟩

/-- A disk with the files that a user keeps for all directories. -/
def withUserFiles (environment : Environment) (disk : Disk) : IO Disk := do
  let userFile := (CommandLine.userFilePath? environment).toList
  let disk ← (userFile ++ Ignore.UserRules.settingsPaths environment).foldlM withFileAt disk
  (Ignore.UserRules.path? environment disk).toList.foldlM withFileAt disk

/-! ### Asking -/

def question (standard : String) : String :=
  "? Give me the path to components please ! (" ++ standard ++ ") \u203a "

/-- Asks for a line where the input is a terminal; the question goes to the terminal of the errors. -/
def ask (standard : String) : IO CommandLine.Prompt := do
  let input ← IO.getStdin
  let errors ← IO.getStderr
  if !(← input.isTty) then return none
  if !(← errors.isTty) then return some (.error "not a terminal")
  let answered ← (do
    errors.putStr (question standard)
    errors.flush
    input.getLine).toBaseIO
  match answered with
  | .ok line => return some (.ok (String.ofList ((Text.lines line.toList).headD [])))
  | .error problem => return some (.error problem.toString)

/-- A disk with all that a request leads to, and what is answered to its question. -/
def surroundings (arguments : List String) : IO CommandLine.Surroundings := do
  let inherited ← environment
  let first : CommandLine.Surroundings := ⟨inherited, ← workingDisk, Filter.standard?, none⟩
  let before := { first with disk := ← withUserFiles (CommandLine.environment first) first.disk }
  let .ok request := CommandLine.Request.ofArguments arguments | return before
  let .ok settings := CommandLine.settingsOf request before | return before
  let prompt ← if request.componentsPath.isNone then ask settings.general.componentsPath else pure none
  let .ok root := request.root prompt settings | return { before with prompt }
  let disk ← withTreeAt before.disk root
  match CommandLine.templatePath? settings disk with
  | some path => return { before with disk := ← withFileAt disk path, prompt }
  | none => return { before with disk, prompt }

/-! ### Writing -/

def writeChanges (before after : FileTree) : IO Unit :=
  for (place, content) in before.changes after do
    IO.FS.writeBinFile (pathOf place) content

/-- Reports a run that returns; what an endless one would have written is not known. -/
def report (surroundings : CommandLine.Surroundings) (outcome : CommandLine.Outcome) : IO UInt32 := do
  writeChanges surroundings.disk.tree outcome.disk.tree
  IO.print outcome.output
  for line in outcome.errors do
    IO.eprintln line
  return UInt32.ofNat outcome.code

partial def wait : IO UInt32 := do
  IO.sleep 1000
  wait

end SnapshotGen.Machine

open SnapshotGen in
def main (arguments : List String) : IO UInt32 := do
  let surroundings ← Machine.surroundings arguments
  match CommandLine.run arguments surroundings with
  | some outcome => Machine.report surroundings outcome
  | none => Machine.wait
