import SnapshotGen.Proofs.Batch.Step

/-!
Runs of independent files. Each file comes out as it would alone, whatever is written before it.
-/

namespace SnapshotGen.Batch

open FileTree

variable {generator : Generator} {root : String} {disk before : Disk} {file : String}
  {files : List String}

theorem run_nil : run generator root disk [] = ⟨disk, [], []⟩ := rfl

theorem run_cons :
    run generator root disk (file :: files) =
      let first := step generator root disk file
      let rest := run generator root first.disk files
      ⟨rest.disk, first.entry :: rest.entries, first.notices ++ rest.notices⟩ := by
  simp only [run, steps, List.getLast?_cons, List.map_cons, List.flatMap_cons]
  cases (steps generator root (step generator root disk file).disk files).getLast? <;> rfl

theorem disk_run_cons :
    (run generator root disk (file :: files)).disk =
      (run generator root (step generator root disk file).disk files).disk := by
  rw [run_cons]

/-- A disk on which tests of other files were written. -/
structure Underway (disk before : Disk) (files : List String) : Prop where
  later : Disk.Later disk before
  kept : ∀ file ∈ files, ∀ place, disk.place file = .ok place →
    before.tree.sight place = disk.tree.sight place

theorem Underway.start (disk : Disk) (files : List String) : Underway disk disk files :=
  ⟨.refl disk, fun _ _ _ _ => rfl⟩

theorem Underway.read_eq (underway : Underway disk before files)
    (independent : Independent disk files) (member : file ∈ files) :
    before.read file = disk.read file := by
  obtain ⟨plain, place, content, placed, isFile⟩ := independent.stands file member
  exact underway.later.read_eq placed isFile plain (underway.kept file member place placed)

theorem Underway.written?_eq (underway : Underway disk before files)
    (independent : Independent disk files) (member : file ∈ files) :
    written? generator root before file = written? generator root disk file :=
  written?_of_later underway.later (independent.test file member)
    (underway.read_eq independent member)

theorem Underway.step (generator : Generator) (root : String)
    (underway : Underway disk before files) (independent : Independent disk files)
    (member : file ∈ files) : Underway disk (step generator root before file).disk files where
  later := underway.later.trans later_step
  kept other otherMember place placed := by
    rw [← underway.kept other otherMember place placed]
    refine sight_step_other fun text isWritten placedTest => ?_
    exact independent.noSource file member other otherMember (isScript_of_written? isWritten)
      ((underway.later.symm.place_eq placedTest).trans placed.symm)

theorem Underway.tail (underway : Underway disk before (file :: files)) :
    Underway disk before files :=
  ⟨underway.later, fun other member => underway.kept other (.tail _ member)⟩

theorem Underway.run (generator : Generator) (root : String) {others : List String}
    (underway : Underway disk before files) (independent : Independent disk files)
    (included : ∀ other ∈ others, other ∈ files) :
    Underway disk (run generator root before others).disk files := by
  induction others generalizing before with
  | nil => exact underway
  | cons other others induction =>
      rw [disk_run_cons]
      exact induction (underway.step generator root independent (included other (.head _)))
        fun last member => included last (.tail _ member)

theorem run_of_underway (generator : Generator) (root : String)
    (independent : Independent disk files) (underway : Underway disk before files) :
    (run generator root before files).entries =
        files.map (fun file => (step generator root disk file).entry) ∧
      (run generator root before files).notices =
        files.flatMap (fun file => (step generator root disk file).notices) := by
  induction files generalizing before with
  | nil => exact ⟨rfl, rfl⟩
  | cons file files induction =>
      have member : file ∈ file :: files := .head _
      obtain ⟨sameEntry, sameNotices⟩ := step_of_later generator root underway.later
        (independent.test file member) (underway.read_eq independent member)
      obtain ⟨sameEntries, sameRest⟩ :=
        induction independent.tail (underway.step generator root independent member).tail
      simp only [run_cons, sameEntry, sameEntries, sameNotices, sameRest, List.map_cons,
        List.flatMap_cons, and_self]

/-- Where the test of a file stands that is written. -/
def IsTarget (generator : Generator) (root : String) (disk : Disk) (file : String)
    (place : List String) : Prop :=
  (written? generator root disk file).isSome ∧ disk.place (testPath file) = .ok place

theorem sight_run_other (independent : Independent disk files)
    (underway : Underway disk before files) {place : List String}
    (apart : ∀ file ∈ files, ¬IsTarget generator root disk file place) :
    (run generator root before files).disk.tree.sight place = before.tree.sight place := by
  induction files generalizing before with
  | nil => rfl
  | cons file files induction =>
      have member : file ∈ file :: files := .head _
      have after := underway.step generator root independent member
      rw [disk_run_cons, induction independent.tail after.tail
        fun other otherMember => apart other (.tail _ otherMember)]
      refine sight_step_other fun text isWritten placed => apart file member ⟨?_, ?_⟩
      · rw [← underway.written?_eq independent member, isWritten]
        rfl
      · exact underway.later.symm.place_eq placed

theorem sight_run_self (independent : Independent disk files)
    (underway : Underway disk before files) (member : file ∈ files) {text : String}
    {place : List String} (isWritten : written? generator root disk file = some text)
    (placed : disk.place (testPath file) = .ok place) :
    (run generator root before files).disk.tree.sight place = .file text.toUTF8 := by
  induction files generalizing before with
  | nil => contradiction
  | cons first files induction =>
      have firstMember : first ∈ first :: files := .head _
      have onwards := (underway.step generator root independent firstMember).tail
      rw [disk_run_cons]
      rcases List.mem_cons.mp member with rfl | inFiles
      · have isScript := isScript_of_written? isWritten
        have apart : ∀ other ∈ files, ¬IsTarget generator root disk other place := by
          rintro other otherMember ⟨otherWritten, otherPlaced⟩
          obtain ⟨_, otherWritten⟩ := Option.isSome_iff_exists.mp otherWritten
          have same := independent.apart file member other (.tail _ otherMember) isScript
            (isScript_of_written? otherWritten) (placed.trans otherPlaced.symm)
          subst same
          exact (List.nodup_cons.mp independent.nodup).1 otherMember
        rw [sight_run_other independent.tail onwards apart]
        exact sight_step_self ((underway.written?_eq independent member).trans isWritten)
          (underway.later.place_eq placed)
      · exact induction independent.tail onwards inFiles

end SnapshotGen.Batch
