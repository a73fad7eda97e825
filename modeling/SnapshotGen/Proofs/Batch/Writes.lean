import SnapshotGen.Proofs.Batch.Run

/-!
What a run writes. Whatever files it is given, it writes the tests that it reports, one after the
other, and nothing else.
-/

namespace SnapshotGen

namespace Disk.Wrote

open FileTree

variable {disk after : Disk} {writes : List (String × String)} {place : List String}

end Disk.Wrote

namespace Batch

variable {generator : Generator} {root : String} {disk : Disk} {file : String}
  {files : List String}

end Batch

end SnapshotGen
