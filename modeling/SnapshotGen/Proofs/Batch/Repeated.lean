import SnapshotGen.Proofs.Batch.Settled

/-!
A batch that is run again: the same files are collected, the same is reported of them, and nothing
changes any more.
-/

namespace SnapshotGen.Batch

open ComponentFiles (Search)
open Ignore (ReadsRules)

variable {search : Search} {generator : Generator} {root base : String} {disk before : Disk}
  {files : List String}

/-- The tests of files go unseen by a search. -/
def Unseen (disk : Disk) (root : String) (files : List String) : Prop :=
  ∀ file ∈ files, IsScript file → ∀ place, disk.place (testPath file) = .ok place →
    TestName.IsPlace place ∧ disk.place root ≠ .ok place

theorem collect_step (skips : search.skipTests = true) (readsRules : ReadsRules search.excludes)
    {file : String} (later : Disk.Later disk before) (unseen : Unseen disk root [file]) :
    search.collect (step generator base before file).disk root = search.collect before root := by
  cases isWritten : written? generator base before file with
  | none => rw [(step_of_written?_eq_none isWritten).1]
  | some text =>
      have written := (step_of_written?_eq_some isWritten).1
      obtain ⟨place, tree, placed, _, _⟩ := Disk.write_eq_ok_iff.mp written
      obtain ⟨isTest, different⟩ := unseen file (.head _) (isScript_of_written? isWritten) place
        (later.symm.place_eq placed)
      exact Search.collect_of_write skips readsRules isTest placed
        (fun rootPlaced => different (later.symm.place_eq rootPlaced)) written

theorem collect_run (skips : search.skipTests = true) (readsRules : ReadsRules search.excludes)
    (later : Disk.Later disk before) (unseen : Unseen disk root files) :
    search.collect (run generator base before files).disk root = search.collect before root := by
  induction files generalizing before with
  | nil => rfl
  | cons file files induction =>
      have first : Unseen disk root [file] := by
        intro other member
        rw [List.mem_singleton.mp member]
        exact unseen file (.head _)
      rw [disk_run_cons]
      exact (induction (later.trans later_step) fun other member =>
        unseen other (.tail _ member)).trans (collect_step skips readsRules later first)

/-- Nothing changes where the tests are in place already. -/
theorem disk_run_eq_self
    (inPlace : ∀ file ∈ files, ∀ text, written? generator base disk file = some text →
      ∃ place, disk.place (testPath file) = .ok place ∧
        disk.tree.sight place = .file text.toUTF8) :
    (run generator base disk files).disk = disk := by
  induction files with
  | nil => rfl
  | cons file files induction =>
      have sameDisk : (step generator base disk file).disk = disk := by
        cases isWritten : written? generator base disk file with
        | none => exact (step_of_written?_eq_none isWritten).1
        | some text =>
            obtain ⟨place, placed, isFile⟩ := inPlace file (.head _) text isWritten
            have written := (step_of_written?_eq_some isWritten).1
            rw [Disk.write_of_sight placed isFile] at written
            exact (Except.ok.inj written).symm
      rw [disk_run_cons, sameDisk]
      exact induction fun other member => inPlace other (.tail _ member)

theorem run_run (independent : Independent disk files) :
    (run generator base (run generator base disk files).disk files).entries =
        (run generator base disk files).entries ∧
      (run generator base (run generator base disk files).disk files).disk =
        (run generator base disk files).disk := by
  have start := Underway.start disk files
  have underway := start.run generator base independent fun _ member => member
  have settled : Settled generator base disk files _ := settled_of_independent independent
  constructor
  · rw [(run_of_underway generator base independent underway).1,
      (run_of_underway generator base independent start).1]
  · refine disk_run_eq_self fun file member text isWritten => ?_
    rw [underway.written?_eq independent member] at isWritten
    obtain ⟨place, placed, isFile⟩ := settled.written file member text isWritten
    exact ⟨place, underway.later.place_eq placed, isFile⟩

/-- After a batch the same files are collected, none of them a test that it made, and a second batch
makes and skips the same and changes nothing. What is kept out may be any decision that looks at
nothing but places and files of rules. -/
theorem collect_run_collect (search : Search) (generator : Generator) (base root : String)
    (skips : search.skipTests = true) (readsRules : ReadsRules search.excludes)
    (wellFormed : disk.tree.WellFormed) :
    let first := run generator base disk (search.collect disk root)
    let second := run generator base first.disk (search.collect first.disk root)
    search.collect first.disk root = search.collect disk root ∧
      (∀ path ∈ first.generated, path ∉ search.collect first.disk root) ∧
      second.generated = first.generated ∧ second.skipped = first.skipped ∧
      second.disk = first.disk := by
  intro first second
  have independent : Independent disk (search.collect disk root) :=
    independent_collect skips wellFormed
  have unseen : Unseen disk root (search.collect disk root) :=
    fun file member isScript place placed => testPath_isTest wellFormed member isScript placed
  have sameFiles : search.collect first.disk root = search.collect disk root :=
    collect_run skips readsRules (.refl disk) unseen
  have sameRun : second = run generator base first.disk (search.collect disk root) := by
    simp only [second, sameFiles]
  obtain ⟨sameEntries, sameDisk⟩ :
      second.entries = first.entries ∧ second.disk = first.disk := by
    rw [sameRun]
    exact run_run independent
  refine ⟨sameFiles, ?_, ?_, ?_, sameDisk⟩
  · intro path isGenerated member
    rw [sameFiles] at member
    rw [(settled_of_independent independent).generated] at isGenerated
    obtain ⟨file, isWritten, rfl⟩ := List.mem_map.mp isGenerated
    obtain ⟨fileMember, isWritten⟩ := List.mem_filter.mp isWritten
    obtain ⟨text, isWritten⟩ := Option.isSome_iff_exists.mp isWritten
    exact independent.noSource file fileMember _ member (isScript_of_written? isWritten) rfl
  · rw [Report.generated, sameEntries]
    rfl
  · rw [Report.skipped, sameEntries]
    rfl

theorem collect_run_collect_mixed :
    let first := run mixedGenerator "." mixedDisk (mixedSearch.collect mixedDisk ".")
    let second := run mixedGenerator "." first.disk (mixedSearch.collect first.disk ".")
    mixedSearch.collect first.disk "." = mixedFiles ∧
      second.generated = ["./Badge.test.js", "./Card.test.js", "./List.test.js"] ∧
      second.skipped = ["./Broken.js"] ∧ second.disk = first.disk := by
  intro first second
  obtain ⟨sameFiles, _, sameGenerated, sameSkipped, sameDisk⟩ :=
    collect_run_collect mixedSearch mixedGenerator "." "." rfl
      (Ignore.readsRules_excludes []) wellFormed_mixedDisk
  obtain ⟨skipped, generated, _⟩ := run_mixed
  rw [← collect_mixedDisk] at skipped generated
  exact ⟨sameFiles.trans collect_mixedDisk, sameGenerated.trans generated,
    sameSkipped.trans skipped, sameDisk⟩

end SnapshotGen.Batch
