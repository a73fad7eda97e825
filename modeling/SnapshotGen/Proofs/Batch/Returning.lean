import SnapshotGen.Proofs.Batch.Run

/-!
Batches that return: each file that a batch comes to must be one for which all that is asked of the
tools returns.
-/

namespace SnapshotGen

variable {tools : Tools} {root : String} {disk : Disk} {files : List String}

structure Tools.Total (tools : Tools) : Prop where
  render : ∀ model, (tools.render model).isSome
  format : ∀ format ∈ tools.format, ∀ text path, (format text path).isSome

theorem Tools.Total.returnsFor (total : tools.Total) (file : String) :
    tools.returnsFor root disk file = true := by
  unfold Tools.returnsFor
  split
  · rfl
  · rename_i extract _
    dsimp only
    have renders := total.render
      (.ofComponent tools.catalog file (Batch.relativePath root file) extract.component)
    split
    · rename_i endless
      rw [endless] at renders
      cases renders
    · rfl
    · cases isFormat : tools.format with
      | none => rfl
      | some format => exact total.format format isFormat _ _

namespace Batch

end Batch

end SnapshotGen
