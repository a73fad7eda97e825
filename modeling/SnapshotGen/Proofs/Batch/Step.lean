import SnapshotGen.Proofs.Batch.Targets
import SnapshotGen.Proofs.Outcomes

/-!
One file of a batch. What becomes of it is told by what reading it gives and by the directories of
the disk, so it comes out the same while other files are written.
-/

namespace SnapshotGen.Batch

open FileTree

variable (generator : Generator) (root : String) (disk : Disk) (file : String)

def rendered? : Option String := do
  let source ← (disk.read file).toOption
  let extract ← (Extraction.extract file source).toOption
  (generator.render (TestModel.ofComponent generator.catalog file (relativePath root file)
    extract.component)).toOption

def formatted? : Option String := do
  let text ← rendered? generator root disk file
  let format ← generator.format
  (format text (testPath file)).toOption

/-- The text that is written for a file: the formatted one, else the rendered one; none where
reading, extraction, rendering or writing fails. -/
def written? : Option String :=
  ((formatted? generator root disk file).or (rendered? generator root disk file)).filter fun text =>
    (disk.write (testPath file) text).isOk

variable {generator root disk file}

theorem draft_eq (path text : String) :
    (generator.draft path text).text =
        ((generator.format.bind fun format => (format text path).toOption)).getD text ∧
      (generator.draft path text).isFormatted =
        (generator.format.bind fun format => (format text path).toOption).isSome := by
  unfold Generator.draft
  cases generator.format with
  | none => exact ⟨rfl, rfl⟩
  | some format =>
      cases made : format text path <;> simp [made, Except.toOption]

/-- What is said about a file before anything is written, given what reading it gave. -/
def readingNotices (generator : Generator) (root file : String)
    (content : Except FileProblem String) : List Notice :=
  let relative := relativePath root file
  match SourceFile.extract file content with
  | .error failed => [.notExtracted relative failed.message]
  | .ok extract =>
    let component := extract.component
    extractNotices extract ++ standInNotices generator.catalog component ++
      (TestModel.diagnostics file component).map .remark ++
        match generator.render
          (TestModel.ofComponent generator.catalog file relative component) with
        | .error failed => [.notWritten relative failed.message]
        | .ok _ => []

theorem step_eq :
    step generator root disk file =
      match rendered? generator root disk file with
      | none => ⟨disk, .skipped file, readingNotices generator root file (disk.read file)⟩
      | some text =>
        let last := save disk file (relativePath root file) (generator.draft (testPath file) text)
        { last with
          notices := readingNotices generator root file (disk.read file) ++ last.notices } := by
  cases isRead : disk.read file with
  | error problem =>
      simp [step, rendered?, readingNotices, isRead, SourceFile.extract, Except.toOption]
  | ok source =>
      cases extracted : Extraction.extract file source with
      | error failure =>
          simp [step, rendered?, readingNotices, isRead, extracted, SourceFile.extract,
            mapError_error, Except.toOption]
      | ok extract =>
          cases rendered : generator.render (TestModel.ofComponent generator.catalog file
              (relativePath root file) extract.component) <;>
            simp [step, rendered?, readingNotices, isRead, extracted, rendered, SourceFile.extract,
              mapError_ok, Except.toOption]

theorem save_of_ok {after : Disk} {relative : String} {draft : Generator.Draft}
    (written : disk.write (testPath file) draft.text = .ok after) :
    save disk file relative draft =
      ⟨after, .generated (testPath file) draft.isFormatted,
        draftNotices (testPath file) draft ++ [.written (testPath file) draft.isFormatted]⟩ := by
  unfold save
  extract_lets path said
  rw [written]

theorem save_of_error {problem : FileProblem} {relative : String} {draft : Generator.Draft}
    (failed : disk.write (testPath file) draft.text = .error problem) :
    save disk file relative draft =
      ⟨disk, .skipped file, draftNotices (testPath file) draft ++ [.notWritten relative
        (Engine.Failure.inaccessible (testPath file) problem.message).message]⟩ := by
  unfold save
  extract_lets path said
  rw [failed]

theorem isScript_of_rendered? {text : String}
    (rendered : rendered? generator root disk file = some text) : IsScript file := by
  simp only [rendered?, Option.bind_eq_bind, Option.bind_eq_some_iff] at rendered
  obtain ⟨source, _, extract, extracted, _⟩ := rendered
  cases found : Extraction.extract file source with
  | error failure => simp [found, Except.toOption] at extracted
  | ok extract => exact isScript_of_extract found

theorem candidate_eq {text : String} (rendered : rendered? generator root disk file = some text) :
    (formatted? generator root disk file).or (rendered? generator root disk file) =
      some (generator.draft (testPath file) text).text := by
  rw [(draft_eq _ _).1, formatted?, rendered]
  simp only [Option.bind_eq_bind, Option.bind_some]
  cases generator.format.bind fun format => (format text (testPath file)).toOption with
  | none => rfl
  | some formatted => rfl

theorem written?_of_ok {text : String} {after : Disk}
    (rendered : rendered? generator root disk file = some text)
    (written : disk.write (testPath file) (generator.draft (testPath file) text).text = .ok after) :
    written? generator root disk file = some (generator.draft (testPath file) text).text := by
  rw [written?, candidate_eq rendered, Option.filter_some, written]
  rfl

theorem written?_of_error {text : String} {problem : FileProblem}
    (rendered : rendered? generator root disk file = some text)
    (failed : disk.write (testPath file) (generator.draft (testPath file) text).text =
      .error problem) :
    written? generator root disk file = none := by
  rw [written?, candidate_eq rendered, Option.filter_some, failed]
  rfl

theorem written?_of_rendered?_eq_none (nothing : rendered? generator root disk file = none) :
    written? generator root disk file = none := by
  rw [written?, formatted?, nothing]
  rfl

theorem isScript_of_written? {text : String}
    (isWritten : written? generator root disk file = some text) : IsScript file := by
  cases rendered : rendered? generator root disk file with
  | none => simp [written?_of_rendered?_eq_none rendered] at isWritten
  | some text => exact isScript_of_rendered? rendered

theorem formatted?_isSome {text : String}
    (rendered : rendered? generator root disk file = some text) :
    (formatted? generator root disk file).isSome =
      (generator.draft (testPath file) text).isFormatted := by
  rw [(draft_eq _ _).2, formatted?, rendered]
  rfl

theorem step_of_written?_eq_none (nothing : written? generator root disk file = none) :
    (step generator root disk file).disk = disk ∧
      (step generator root disk file).entry = .skipped file := by
  rw [step_eq]
  cases rendered : rendered? generator root disk file with
  | none => exact ⟨rfl, rfl⟩
  | some text =>
      cases written : disk.write (testPath file) (generator.draft (testPath file) text).text with
      | error problem =>
          dsimp only
          rw [save_of_error written]
          exact ⟨rfl, rfl⟩
      | ok after => simp [written?_of_ok rendered written] at nothing

theorem step_of_written?_eq_some {text : String}
    (isWritten : written? generator root disk file = some text) :
    disk.write (testPath file) text = .ok (step generator root disk file).disk ∧
      (step generator root disk file).entry =
        .generated (testPath file) (formatted? generator root disk file).isSome := by
  rw [step_eq]
  cases rendered : rendered? generator root disk file with
  | none => simp [written?_of_rendered?_eq_none rendered] at isWritten
  | some draftText =>
      rw [formatted?_isSome rendered]
      cases written : disk.write (testPath file) (generator.draft (testPath file) draftText).text with
      | error problem => simp [written?_of_error rendered written] at isWritten
      | ok after =>
          obtain rfl := Option.some.inj ((written?_of_ok rendered written).symm.trans isWritten)
          dsimp only
          rw [save_of_ok written]
          exact ⟨written, rfl⟩

/-- The test of a file, if it is a script, goes into a directory. -/
def HasFolder (disk : Disk) (file : String) : Prop :=
  IsScript file → ∃ folder name, disk.tree.sight folder = .directory ∧
    disk.place (testPath file) = .ok (folder ++ [name])

variable {before : Disk}

theorem rendered?_of_read (sameRead : before.read file = disk.read file) :
    rendered? generator root before file = rendered? generator root disk file := by
  rw [rendered?, rendered?, sameRead]

theorem written?_of_later (later : Disk.Later disk before) (hasFolder : HasFolder disk file)
    (sameRead : before.read file = disk.read file) :
    written? generator root before file = written? generator root disk file := by
  have sameRendered : rendered? generator root before file = rendered? generator root disk file :=
    rendered?_of_read sameRead
  cases rendered : rendered? generator root disk file with
  | none =>
      rw [written?_of_rendered?_eq_none rendered,
        written?_of_rendered?_eq_none (sameRendered.trans rendered)]
  | some text =>
      obtain ⟨folder, name, isDirectory, placed⟩ := hasFolder (isScript_of_rendered? rendered)
      have sameErrors := later.write_eq_error_iff isDirectory placed
        (generator.draft (testPath file) text).text
      cases written : disk.write (testPath file) (generator.draft (testPath file) text).text with
      | error problem =>
          rw [written?_of_error rendered written, written?_of_error
            (sameRendered.trans rendered) ((sameErrors problem).mpr written)]
      | ok after =>
          cases written' : before.write (testPath file)
              (generator.draft (testPath file) text).text with
          | error problem =>
              rw [(sameErrors problem).mp written'] at written
              contradiction
          | ok other =>
              rw [written?_of_ok rendered written,
                written?_of_ok (sameRendered.trans rendered) written']

theorem save_of_later (later : Disk.Later disk before) {folder : List String}
    {name : String} (isDirectory : disk.tree.sight folder = .directory)
    (placed : disk.place (testPath file) = .ok (folder ++ [name])) (relative : String)
    (draft : Generator.Draft) :
    (save before file relative draft).entry = (save disk file relative draft).entry ∧
      (save before file relative draft).notices = (save disk file relative draft).notices := by
  have sameErrors := later.write_eq_error_iff isDirectory placed draft.text
  cases written : disk.write (testPath file) draft.text with
  | error problem =>
      rw [save_of_error written, save_of_error ((sameErrors problem).mpr written)]
      exact ⟨rfl, rfl⟩
  | ok after =>
      cases written' : before.write (testPath file) draft.text with
      | error problem =>
          rw [(sameErrors problem).mp written'] at written
          contradiction
      | ok other =>
          rw [save_of_ok written, save_of_ok written']
          exact ⟨rfl, rfl⟩

theorem step_of_later (generator : Generator) (root : String) (later : Disk.Later disk before)
    (hasFolder : HasFolder disk file) (sameRead : before.read file = disk.read file) :
    (step generator root before file).entry = (step generator root disk file).entry ∧
      (step generator root before file).notices = (step generator root disk file).notices := by
  rw [step_eq, step_eq, rendered?_of_read sameRead, sameRead]
  cases rendered : rendered? generator root disk file with
  | none => exact ⟨rfl, rfl⟩
  | some text =>
      obtain ⟨folder, name, isDirectory, placed⟩ := hasFolder (isScript_of_rendered? rendered)
      obtain ⟨sameEntry, sameNotices⟩ := save_of_later later isDirectory placed
        (relativePath root file) (generator.draft (testPath file) text)
      simp only [sameEntry, sameNotices, and_self]

theorem later_step : Disk.Later disk (step generator root disk file).disk := by
  cases isWritten : written? generator root disk file with
  | none =>
      rw [(step_of_written?_eq_none isWritten).1]
      exact .refl disk
  | some text => exact Disk.later_of_write (step_of_written?_eq_some isWritten).1

theorem sight_step_self {text : String} {place : List String}
    (isWritten : written? generator root disk file = some text)
    (placed : disk.place (testPath file) = .ok place) :
    (step generator root disk file).disk.tree.sight place = .file text.toUTF8 := by
  obtain ⟨_, tree, placed', treeWritten, same⟩ :=
    Disk.write_eq_ok_iff.mp (step_of_written?_eq_some isWritten).1
  obtain rfl := Except.ok.inj (placed.symm.trans placed')
  rw [same]
  exact sight_write_self treeWritten

theorem sight_step_other {place : List String}
    (apart : ∀ text, written? generator root disk file = some text →
      disk.place (testPath file) ≠ .ok place) :
    (step generator root disk file).disk.tree.sight place = disk.tree.sight place := by
  cases isWritten : written? generator root disk file with
  | none => rw [(step_of_written?_eq_none isWritten).1]
  | some text =>
      obtain ⟨target, tree, placed, treeWritten, same⟩ :=
        Disk.write_eq_ok_iff.mp (step_of_written?_eq_some isWritten).1
      rw [same]
      refine sight_write_other ?_ treeWritten
      rintro rfl
      exact apart text isWritten placed

end SnapshotGen.Batch
