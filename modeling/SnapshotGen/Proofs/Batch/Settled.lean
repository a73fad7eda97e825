import SnapshotGen.Ignore.Rules
import SnapshotGen.Proofs.Batch.Run
import SnapshotGen.Proofs.Extraction.Uses

/-!
What a batch of collected files leaves: a test for each file that gives one, each as if its file
were the only one, in whatever order the files come.
-/

namespace SnapshotGen.Batch

open FileTree

variable {generator : Generator} {root : String} {disk : Disk} {file : String}
  {files : List String} {report : Report}

def outcome (generator : Generator) (root : String) (disk : Disk) (file : String) : Entry :=
  if (written? generator root disk file).isSome then
    .generated (testPath file) (formatted? generator root disk file).isSome
  else .skipped file

theorem entry_step : (step generator root disk file).entry = outcome generator root disk file := by
  unfold outcome
  cases isWritten : written? generator root disk file with
  | none => exact (step_of_written?_eq_none isWritten).2
  | some text => exact (step_of_written?_eq_some isWritten).2

theorem filterMap_outcomes {α : Type} {pick : Entry → Option α} {picked : String → Bool}
    {value : String → α}
    (picks : ∀ file, pick (outcome generator root disk file) =
      if picked file then some (value file) else none) :
    (files.map (outcome generator root disk)).filterMap pick =
      (files.filter picked).map value := by
  induction files with
  | nil => rfl
  | cons file files induction =>
      rw [List.map_cons, List.filterMap_cons, List.filter_cons, picks file, induction]
      cases picked file <;> rfl

theorem skipped_of_outcomes (entries : report.entries = files.map (outcome generator root disk)) :
    report.skipped = files.filter fun file => (written? generator root disk file).isNone := by
  rw [Report.skipped, entries, filterMap_outcomes, List.map_id]
  intro file
  cases isWritten : written? generator root disk file <;> simp [outcome, isWritten]

theorem generated_of_outcomes (entries : report.entries = files.map (outcome generator root disk)) :
    report.generated =
      (files.filter fun file => (written? generator root disk file).isSome).map testPath := by
  rw [Report.generated, entries]
  apply filterMap_outcomes
  intro file
  cases isWritten : written? generator root disk file <;> simp [outcome, isWritten]

theorem formatted_of_outcomes (entries : report.entries = files.map (outcome generator root disk)) :
    report.formatted =
      (files.filter fun file => (written? generator root disk file).isSome &&
        (formatted? generator root disk file).isSome).length := by
  rw [Report.formatted, entries, List.countP_map, List.countP_eq_length_filter]
  congr 1
  apply List.filter_congr
  intro file _
  cases isWritten : written? generator root disk file <;> simp [outcome, isWritten]

theorem length_of_outcomes (entries : report.entries = files.map (outcome generator root disk)) :
    report.generated.length + report.skipped.length = files.length := by
  rw [generated_of_outcomes entries, skipped_of_outcomes entries, List.length_map]
  clear entries
  induction files with
  | nil => rfl
  | cons file files induction =>
      rw [List.filter_cons, List.filter_cons]
      cases written? generator root disk file <;> simp <;> omega

/-- What a batch leaves of files that stand on a disk, each on its own. -/
structure Settled (generator : Generator) (root : String) (disk : Disk) (files : List String)
    (report : Report) : Prop where
  counted : report.generated.length + report.skipped.length = files.length
  skipped : report.skipped = files.filter fun file => (written? generator root disk file).isNone
  generated : report.generated =
    (files.filter fun file => (written? generator root disk file).isSome).map testPath
  formatted : report.formatted =
    (files.filter fun file => (written? generator root disk file).isSome &&
      (formatted? generator root disk file).isSome).length
  written : ∀ file ∈ files, ∀ text, written? generator root disk file = some text →
    ∃ place, disk.place (testPath file) = .ok place ∧
      report.disk.tree.sight place = .file text.toUTF8
  untouched : ∀ place, (∀ file ∈ files, ¬IsTarget generator root disk file place) →
    report.disk.tree.sight place = disk.tree.sight place
  workingDirectory : report.disk.workingDirectory = disk.workingDirectory
  entriesAlone : report.entries = files.flatMap fun file =>
    (run generator root disk [file]).entries
  noticesAlone : report.notices = files.flatMap fun file =>
    (run generator root disk [file]).notices
  filesAlone : ∀ file ∈ files, ∀ place, IsTarget generator root disk file place →
    report.disk.tree.sight place = (run generator root disk [file]).disk.tree.sight place

theorem run_singleton :
    run generator root disk [file] =
      ⟨(step generator root disk file).disk, [(step generator root disk file).entry],
        (step generator root disk file).notices⟩ := by
  simp only [run_cons, run_nil, List.append_nil]

theorem settled_of_independent (independent : Independent disk files) :
    Settled generator root disk files (run generator root disk files) := by
  have underway := Underway.start disk files
  have later := (underway.run generator root independent fun _ member => member).later
  obtain ⟨entries, notices⟩ := run_of_underway generator root independent underway
  have outcomes : (run generator root disk files).entries =
      files.map (outcome generator root disk) := by
    rw [entries]
    exact List.map_congr_left fun file _ => entry_step
  refine
    { counted := length_of_outcomes outcomes
      skipped := skipped_of_outcomes outcomes
      generated := generated_of_outcomes outcomes
      formatted := formatted_of_outcomes outcomes
      written := ?_
      untouched := fun place apart => sight_run_other independent underway apart
      workingDirectory := later.workingDirectory
      entriesAlone := ?_
      noticesAlone := ?_
      filesAlone := ?_ }
  · intro file member text isWritten
    obtain ⟨folder, name, _, placed⟩ :=
      independent.test file member (isScript_of_written? isWritten)
    exact ⟨_, placed, sight_run_self independent underway member isWritten placed⟩
  · rw [entries, List.map_eq_flatMap]
    simp only [run_singleton]
  · rw [notices]
    simp only [run_singleton]
  · rintro file member place ⟨isWritten, placed⟩
    obtain ⟨text, isWritten⟩ := Option.isSome_iff_exists.mp isWritten
    rw [sight_run_self independent underway member isWritten placed, run_singleton]
    exact (sight_step_self isWritten placed).symm

/-- The order of independent files does not tell in what is left. -/
theorem sight_run_perm (independent : Independent disk files) {others : List String}
    (permuted : others.Perm files) (place : List String) :
    (run generator root disk others).disk.tree.sight place =
      (run generator root disk files).disk.tree.sight place := by
  have settled : Settled generator root disk files _ := settled_of_independent independent
  have othersSettled : Settled generator root disk others _ :=
    settled_of_independent (independent.perm permuted)
  by_cases isTarget : ∃ file ∈ files, IsTarget generator root disk file place
  · obtain ⟨file, member, target⟩ := isTarget
    rw [settled.filesAlone file member place target,
      othersSettled.filesAlone file (permuted.mem_iff.mpr member) place target]
  · have apart : ∀ file ∈ files, ¬IsTarget generator root disk file place :=
      fun file member target => isTarget ⟨file, member, target⟩
    rw [settled.untouched place apart, othersSettled.untouched place fun file member =>
      apart file (permuted.mem_iff.mp member)]

/-- A batch of the files that a search collects settles each of them on its own, in any order. No
reading of declarations is broken off, unless an object is used inside itself. -/
theorem run_collect (search : ComponentFiles.Search) (generator : Generator) (base root : String)
    (skips : search.skipTests = true) (wellFormed : disk.tree.WellFormed) :
    Settled generator base disk (search.collect disk root)
        (run generator base disk (search.collect disk root)) ∧
      (∀ others : List String, others.Perm (search.collect disk root) →
        (run generator base disk others).disk.workingDirectory =
            (run generator base disk (search.collect disk root)).disk.workingDirectory ∧
          ∀ place, (run generator base disk others).disk.tree.sight place =
            (run generator base disk (search.collect disk root)).disk.tree.sight place) ∧
      (∀ file ∈ search.collect disk root, ∀ source dialect program object,
        disk.read file = .ok source → Script.Dialect.ofPath? file.toList = some dialect →
        Script.Module.read? dialect source.toList = some program →
        Extraction.typesObject? program = some object →
        ¬Extraction.SelfContaining (Extraction.Survey.ofProgram program) object →
        (Extraction.declared? (Extraction.Survey.ofProgram program) (program.count .object + 1)
          object).isSome) := by
  have independent : Independent disk (search.collect disk root) :=
    independent_collect skips wellFormed
  have settled : Settled generator base disk (search.collect disk root) _ :=
    settled_of_independent independent
  refine ⟨settled, ?_, ?_⟩
  · intro others permuted
    have othersSettled : Settled generator base disk others _ :=
      settled_of_independent (independent.perm permuted)
    constructor
    · rw [othersSettled.workingDirectory, settled.workingDirectory]
    · exact sight_run_perm independent permuted
  · intro file _ source dialect program object _ _ _ found plain
    exact Extraction.declared?_typesObject? found plain

/-- A disk with four scripts; the second one is malformed. -/
def mixedDisk : Disk :=
  let script (lines : List String) : FileTree := .file (Text.ofLines lines).toUTF8
  ⟨.directory [
    ("Badge.js", script ["export default () => <a />;"]),
    ("Broken.js", script ["const Broken = ;"]),
    ("Card.js", script [
      "const Card = () => <b />;",
      "Card.propTypes = \x7b size: PropTypes.number.isRequired \x7d;",
      "export default Card;"]),
    ("List.js", script ["export default () => <ul />;"])], []⟩

theorem wellFormed_mixedDisk : mixedDisk.tree.WellFormed := by
  simp only [mixedDisk, WellFormed, EntriesWellFormed]
  decide

def mixedSearch : ComponentFiles.Search :=
  ⟨["js"], true, Ignore.excludes []⟩

def mixedFiles : List String :=
  ["./Badge.js", "./Broken.js", "./Card.js", "./List.js"]

theorem collect_mixedDisk : mixedSearch.collect mixedDisk "." = mixedFiles := by
  have placed : mixedDisk.place "." = .ok [] := rfl
  have files : mixedSearch.filesIn (mixedSearch.excludes mixedDisk) [] ".".toList mixedDisk.tree =
      mixedFiles.map String.toList := by decide +kernel
  rw [ComponentFiles.Search.collect_of_find placed rfl, files,
    List.mergeSort_of_pairwise (by decide +kernel)]
  rfl

/-- A generator whose tests hold the names of the components. Its formatter fails for one of them. -/
def mixedGenerator : Generator :=
  { catalog := .empty
    render := fun model => .ok model.componentName
    format := some fun text path =>
      if path = "./Card.test.js" then .error (.notText "format") else .ok (text ++ ";") }

theorem run_mixed :
    let report := run mixedGenerator "." mixedDisk mixedFiles
    report.skipped = ["./Broken.js"] ∧
      report.generated = ["./Badge.test.js", "./Card.test.js", "./List.test.js"] ∧
      report.formatted = 2 ∧
      (report.disk.read "./Badge.test.js").toOption = some "Badge;" ∧
      (report.disk.read "./Card.test.js").toOption = some "Card" := by
  decide +kernel

/-- The object of the types of a card uses no other one. -/
theorem exists_typesObject_card :
    ∃ source program object, mixedDisk.read "./Card.js" = .ok source ∧
      Script.Module.read? .javaScript source.toList = some program ∧
      Extraction.typesObject? program = some object ∧
      ¬Extraction.SelfContaining (Extraction.Survey.ofProgram program) object := by
  have evaluated : (mixedDisk.read "./Card.js").toOption.any fun source =>
      (Script.Module.read? .javaScript source.toList).any fun program =>
        (Extraction.typesObject? program).any fun object =>
          object.childNodes.all fun member => (Extraction.pair? member).all fun entry =>
            (Extraction.fieldsObject? (Extraction.Survey.ofProgram program)
              (Extraction.splitRequired entry.2).1).isNone := by
    decide +kernel
  obtain ⟨source, isRead, evaluated⟩ := (Option.any_eq_true ..).mp evaluated
  obtain ⟨program, isProgram, evaluated⟩ := (Option.any_eq_true ..).mp evaluated
  obtain ⟨object, isObject, evaluated⟩ := (Option.any_eq_true ..).mp evaluated
  refine ⟨source, program, object, toOption_eq_some.mp isRead, isProgram, isObject, ?_⟩
  have usesNone : ∀ inner, ¬Extraction.Uses (Extraction.Survey.ofProgram program) object inner := by
    rintro inner ⟨member, isMember, name, value, _, isPair, hasFields⟩
    have noFields := List.all_eq_true.mp evaluated member isMember
    rw [isPair] at noFields
    simp [hasFields] at noFields
  rintro ⟨inner, reaches, contains⟩
  rcases Relation.ReflTransGen.cases_head reaches with rfl | ⟨next, uses, _⟩
  · obtain ⟨next, uses, _⟩ := Relation.TransGen.head'_iff.mp contains
    exact usesNone next uses
  · exact usesNone next uses

theorem run_collect_mixed :
    let files := mixedSearch.collect mixedDisk "."
    let report := run mixedGenerator "." mixedDisk files
    files = mixedFiles ∧ Settled mixedGenerator "." mixedDisk files report ∧
      report.skipped = ["./Broken.js"] ∧
      report.generated = ["./Badge.test.js", "./Card.test.js", "./List.test.js"] ∧
      report.formatted = 2 ∧
      (report.disk.read "./Badge.test.js").toOption = some "Badge;" ∧
      (report.disk.read "./Card.test.js").toOption = some "Card" ∧
      (∀ place, (run mixedGenerator "." mixedDisk files.reverse).disk.tree.sight place =
        report.disk.tree.sight place) ∧
      ∃ program object, Extraction.typesObject? program = some object ∧
        (Extraction.declared? (Extraction.Survey.ofProgram program) (program.count .object + 1)
          object).isSome := by
  intro files report
  obtain ⟨settled, permuted, isBounded⟩ :=
    run_collect mixedSearch mixedGenerator "." "." rfl wellFormed_mixedDisk
  obtain ⟨skipped, generated, formatted, badge, card⟩ := run_mixed
  obtain ⟨source, program, object, isRead, isProgram, isObject, plain⟩ := exists_typesObject_card
  have sameFiles : files = mixedFiles := collect_mixedDisk
  have isCollected : "./Card.js" ∈ files := by
    rw [sameFiles]
    decide
  have sameReport : report = run mixedGenerator "." mixedDisk mixedFiles := by
    rw [← sameFiles]
  rw [← sameReport] at skipped generated formatted badge card
  exact ⟨sameFiles, settled, skipped, generated, formatted, badge, card,
    (permuted _ (List.reverse_perm _)).2, program, object, isObject,
    isBounded _ isCollected source .javaScript program object isRead rfl isProgram isObject plain⟩

end SnapshotGen.Batch
