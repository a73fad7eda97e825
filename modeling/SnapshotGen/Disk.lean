import SnapshotGen.Disk.Tree
import SnapshotGen.Path

/-!
Disks: a tree of files with a working directory, in which path texts are looked up.
-/

namespace SnapshotGen

structure Disk where
  tree : FileTree
  workingDirectory : List String

namespace Disk

/-- Follows a path from a place in the tree. Each component but the last must be a directory. -/
def follow (tree : FileTree) (place : List String) :
    List Path.Part → Except FileProblem (List String)
  | [] => .ok place
  | part :: more => do
    let here ← tree.find place
    if !here.isDirectory then .error .notDirectory
    else
      match part with
      | .root => follow tree [] more
      | .here => follow tree place more
      | .up => follow tree place.dropLast more
      | .name name => follow tree (place ++ [String.ofList name]) more

/-- The place in the tree that a path leads to; nothing needs to stand there. -/
def place (disk : Disk) (path : String) : Except FileProblem (List String) :=
  if path.isEmpty then .error .missing
  else follow disk.tree disk.workingDirectory (Path.parts path.toList)

/-- What a path leads to. A path that ends with a separator leads to a directory. -/
def find (disk : Disk) (path : String) : Except FileProblem FileTree := do
  let found ← disk.tree.find (← disk.place path)
  if path.toList.getLast? = some '/' && !found.isDirectory then .error .notDirectory
  else return found

def isDirectory (disk : Disk) (path : String) : Bool :=
  match disk.find path with
  | .ok tree => tree.isDirectory
  | .error _ => false

def read (disk : Disk) (path : String) : Except FileProblem String := do
  (← disk.find path).text

def write (disk : Disk) (path text : String) : Except FileProblem Disk := do
  let tree ← disk.tree.write text.toUTF8 (← disk.place path)
  return { disk with tree }

def workingPath (disk : Disk) : String :=
  "/" ++ "/".intercalate disk.workingDirectory

/-- A path as it is called from anywhere. -/
def absolute (disk : Disk) (path : String) : String :=
  String.ofList (Path.join disk.workingPath.toList path.toList)

end Disk

end SnapshotGen
