import SnapshotGen.Disk.Tree
import SnapshotGen.Extraction.Extract

/-!
The component in a source file, as far as the file can be read and defines one.
-/

namespace SnapshotGen.SourceFile

inductive Failure
  | unreadable (path : String) (problem : FileProblem)
  | noComponent (path : String) (failure : Extraction.Failure)
  deriving DecidableEq, Repr

namespace Failure

def message : Failure → String
  | unreadable path problem => "failed to read " ++ path ++ ": " ++ problem.message
  | noComponent path failure => path ++ " is not a component: " ++ failure.message

end Failure

def extract (path : String) (content : Except FileProblem String) :
    Except Failure Extraction.Extract :=
  match content with
  | .error problem => .error (.unreadable path problem)
  | .ok source => (Extraction.extract path source).mapError (.noComponent path)

end SnapshotGen.SourceFile
