import SnapshotGen.Disk
import SnapshotGen.TestName

/-!
The files below a directory that may define components: those with a wanted extension that are not
kept out, and no tests where tests are skipped.
-/

namespace SnapshotGen.ComponentFiles

/-- What is searched for, and which places of a disk are kept out. -/
structure Search where
  extensions : List String
  skipTests : Bool
  excludes : Disk → List String → Bool

namespace Search

def isWanted (search : Search) (path : List Char) : Bool :=
  match Path.extension? path with
  | some extension => search.extensions.contains (String.ofList extension)
  | none => false

/-- Names that are passed over even where they are not kept out. -/
def isPassedOver (search : Search) (name : String) (isDirectory : Bool) : Bool :=
  if isDirectory then name = "node_modules" || (search.skipTests && TestName.isDirectory name)
  else search.skipTests && TestName.isFile name

def enters (search : Search) (excludes : List String → Bool) (directory : List String)
    (name : String) (isDirectory : Bool) : Bool :=
  !excludes (directory ++ [name]) && !search.isPassedOver name isDirectory

mutual

/-- The files in what stands at a place and is reached on a path. -/
def filesIn (search : Search) (excludes : List String → Bool) (place : List String)
    (path : List Char) : FileTree → List (List Char)
  | .file _ => if search.isWanted path then [path] else []
  | .directory entries => search.filesAmong excludes place path entries

def filesAmong (search : Search) (excludes : List String → Bool) (place : List String)
    (path : List Char) : List (String × FileTree) → List (List Char)
  | [] => []
  | (name, entry) :: more =>
    (if search.enters excludes place name entry.isDirectory then
      search.filesIn excludes (place ++ [name]) (Path.join path name.toList) entry
    else []) ++ search.filesAmong excludes place path more

end

/-- The wanted files at and below a path, in the order of paths. -/
def collect (search : Search) (disk : Disk) (root : String) : List String :=
  match disk.place root, disk.find root with
  | .ok place, .ok tree =>
    let found := search.filesIn (search.excludes disk) place root.toList tree
    (found.mergeSort Path.before).map String.ofList
  | _, _ => []

end Search

end SnapshotGen.ComponentFiles
