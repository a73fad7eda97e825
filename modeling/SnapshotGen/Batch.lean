import SnapshotGen.Disk
import SnapshotGen.Formatter
import SnapshotGen.Notice
import SnapshotGen.SourceFile
import SnapshotGen.Template.Engine
import SnapshotGen.TestName

/-!
Batches: a test is written beside each of several source files. A file that gives no test is
skipped, and the batch goes on. A batch may be made with tools that do not always return; it returns
where they do.
-/

namespace SnapshotGen

/-- How tests are made: the fixtures, the text of a test, and what is made of that text for a path. -/
structure Generator where
  catalog : Catalog
  render : TestModel → Except Engine.Failure String
  format : Option (String → String → Except Formatter.Failure String)

namespace Generator

/-- A text for a test file. Where formatting failed, it is the text as rendered. -/
structure Draft where
  text : String
  isFormatted : Bool
  complaint : Option Formatter.Failure

def draft (generator : Generator) (path text : String) : Draft :=
  match generator.format with
  | none => ⟨text, false, none⟩
  | some format =>
    match format text path with
    | .ok formatted => ⟨formatted, true, none⟩
    | .error failed => ⟨text, false, some failed⟩

end Generator

namespace Batch

inductive Entry
  | generated (path : String) (isFormatted : Bool)
  | skipped (path : String)
  deriving DecidableEq, Repr

/-- What became of a file, with what is to be said about it. -/
structure Step where
  disk : Disk
  entry : Entry
  notices : List Notice

def testPath (file : String) : String :=
  String.ofList (TestName.forSource file.toList)

def relativePath (root file : String) : String :=
  match Path.below? root.toList file.toList with
  | some parts => String.ofList (Path.ofParts parts)
  | none => file

def extractNotices (extract : Extraction.Extract) : List Notice :=
  let component := extract.component
  extract.spreads.map .spreadSkipped ++
    [.extracted (component.displayName.getD "") (component.props.getD []).length]

def standInNotices (catalog : Catalog) (component : Component) : List Notice :=
  ((TestModel.attributeProps component).filter (·.declaredDefault.isNone)).map fun prop =>
    .standIn prop.name (TestModel.propText catalog prop)

def draftNotices (path : String) (draft : Generator.Draft) : List Notice :=
  (draft.complaint.map fun failed => .notFormatted path failed.message).toList

def save (disk : Disk) (file relative : String) (draft : Generator.Draft) : Step :=
  let path := testPath file
  let said := draftNotices path draft
  match disk.write path draft.text with
  | .ok disk =>
    ⟨disk, .generated path draft.isFormatted, said ++ [.written path draft.isFormatted]⟩
  | .error problem =>
    let failed := Engine.Failure.inaccessible path problem.message
    ⟨disk, .skipped file, said ++ [.notWritten relative failed.message]⟩

def step (generator : Generator) (root : String) (disk : Disk) (file : String) : Step :=
  let relative := relativePath root file
  match SourceFile.extract file (disk.read file) with
  | .error failed => ⟨disk, .skipped file, [.notExtracted relative failed.message]⟩
  | .ok extract =>
    let component := extract.component
    let model := TestModel.ofComponent generator.catalog file relative component
    let said :=
      extractNotices extract ++ standInNotices generator.catalog component ++
        (TestModel.diagnostics file component).map .remark
    let last : Step :=
      match generator.render model with
      | .error failed => ⟨disk, .skipped file, [.notWritten relative failed.message]⟩
      | .ok text => save disk file relative (generator.draft (testPath file) text)
    { last with notices := said ++ last.notices }

def steps (generator : Generator) (root : String) (disk : Disk) : List String → List Step
  | [] => []
  | file :: more =>
    let first := step generator root disk file
    first :: steps generator root first.disk more

structure Report where
  disk : Disk
  entries : List Entry
  notices : List Notice

namespace Report

def generated (report : Report) : List String :=
  report.entries.filterMap fun
    | .generated path _ => some path
    | .skipped _ => none

def skipped (report : Report) : List String :=
  report.entries.filterMap fun
    | .generated .. => none
    | .skipped path => some path

def formatted (report : Report) : Nat :=
  report.entries.countP fun
    | .generated _ isFormatted => isFormatted
    | .skipped _ => false

def summary (report : Report) : String :=
  "generated " ++ toString report.generated.length ++ " test file(s), skipped " ++
    toString report.skipped.length

end Report

def run (generator : Generator) (root : String) (disk : Disk) (files : List String) : Report :=
  let all := steps generator root disk files
  { disk := (all.getLast?.map (·.disk)).getD disk
    entries := all.map (·.entry)
    notices := all.flatMap (·.notices) }

end Batch

/-- What a generator is made of where a template or a program may go on without end. -/
structure Tools where
  catalog : Catalog
  render : TestModel → Option (Except Engine.Failure String)
  format : Option (String → String → Option (Except Formatter.Failure String))

namespace Tools

/-- The generator of the tools. What it answers where they do not return does not count. -/
def generator (tools : Tools) : Generator :=
  { catalog := tools.catalog
    render := fun model => (tools.render model).getD (.error (.inaccessible "" ""))
    format := tools.format.map fun format text path => (format text path).getD (.error (.notText "")) }

/-- Whether all that is asked of the tools for a file returns. -/
def returnsFor (tools : Tools) (root : String) (disk : Disk) (file : String) : Bool :=
  match SourceFile.extract file (disk.read file) with
  | .error _ => true
  | .ok extract =>
    let relative := Batch.relativePath root file
    match tools.render (.ofComponent tools.catalog file relative extract.component) with
    | none => false
    | some (.error _) => true
    | some (.ok text) =>
      tools.format.all fun format => (format text (Batch.testPath file)).isSome

def returnsForAll (tools : Tools) (root : String) (disk : Disk) : List String → Bool
  | [] => true
  | file :: more =>
    tools.returnsFor root disk file &&
      tools.returnsForAll root (Batch.step tools.generator root disk file).disk more

end Tools

def Batch.run? (tools : Tools) (root : String) (disk : Disk) (files : List String) :
    Option Report :=
  if tools.returnsForAll root disk files then some (run tools.generator root disk files) else none

end SnapshotGen
