import SnapshotGen.Proofs.Batch.Targets

/-!
What a test imports as its component: a path without an extension, as seen from the folder of the
test. Files that differ in nothing but their extensions have tests of their own, which import the
same path from the same folder.
-/

namespace SnapshotGen.Batch

open ComponentFiles (Search)

/-- A model that is built for a file, of whatever component. -/
def IsModelOf (file : String) (model : TestModel) : Prop :=
  ∃ catalog relativePath component,
    model = TestModel.ofComponent catalog file relativePath component

def testFolder? (file : String) : Option (List Path.Part) :=
  (Path.parent? (testPath file).toList).map Path.parts

/-- Tests that take the same file for that of their component. -/
def SameImport (model other : TestModel) : Prop :=
  testFolder? model.sourcePath = testFolder? other.sourcePath ∧
    model.relativeImportPath = other.relativeImportPath

/-- A wanted file with the parts of its name. -/
structure StandsAs (search : Search) (file : String) (folder : List Path.Part)
    (stem extension : List Char) : Prop where
  parts : Path.parts file.toList = folder ++ [.name (stem ++ '.' :: extension)]
  nonempty : stem ≠ []
  free : '.' ∉ extension
  wanted : String.ofList extension ∈ search.extensions

/-- Two files beside one another whose names differ in their extensions alone. -/
def NamedAlike (search : Search) (file other : String) : Prop :=
  ∃ folder stem extension otherExtension, extension ≠ otherExtension ∧
    StandsAs search file folder stem extension ∧ StandsAs search other folder stem otherExtension

variable {search : Search} {disk : Disk} {root file other : String} {folder : List Path.Part}
  {stem extension : List Char}

theorem exists_standsAs (wanted : search.isWanted file.toList = true) :
    ∃ folder stem extension, StandsAs search file folder stem extension := by
  obtain ⟨extension, extended⟩ := extension?_of_isWanted wanted
  obtain ⟨stem, named, _, nonempty, free⟩ := Path.fileName?_of_extension? extended
  rw [Search.isWanted, extended] at wanted
  exact ⟨_, stem, extension, Path.parts_eq_of_fileName? named, nonempty, free,
    List.contains_iff_mem.mp wanted⟩

theorem StandsAs.fileName? (stands : StandsAs search file folder stem extension) :
    Path.fileName? file.toList = some (stem ++ '.' :: extension) := by
  rw [Path.fileName?, stands.parts, List.getLast?_concat]
  rfl

theorem StandsAs.fileNameOf_eq (stands : StandsAs search file folder stem extension) :
    TestModel.fileNameOf file = String.ofList stem := by
  rw [TestModel.fileNameOf, Path.fileStem?, stands.fileName?, Option.map_some,
    Path.splitName_append stands.nonempty stands.free, Option.getD_some]

theorem StandsAs.testFolder?_eq (stands : StandsAs search file folder stem extension) :
    testFolder? file = some folder := by
  have extended : Path.extension? file.toList = some extension := by
    rw [Path.extension?, stands.fileName?, Option.bind_some,
      Path.splitName_append stands.nonempty stands.free]
  obtain ⟨ownStem, named, _, _, target⟩ := TestName.forSource_of_extension? extended
  have isName := TestName.isName_ofParts (Path.isName_of_fileName? named)
  obtain ⟨testFolder, parent, same⟩ := Path.parent?_withFileName named isName
  rw [testFolder?, testPath, String.toList_ofList, target, parent, Option.map_some, same,
    stands.parts, List.dropLast_concat]

theorem sameImport_iff_of_standsAs {model otherModel : TestModel}
    {otherFolder : List Path.Part} {otherStem otherExtension : List Char}
    (isModel : IsModelOf file model) (otherIsModel : IsModelOf other otherModel)
    (stands : StandsAs search file folder stem extension)
    (otherStands : StandsAs search other otherFolder otherStem otherExtension) :
    SameImport model otherModel ↔ folder = otherFolder ∧ stem = otherStem := by
  obtain ⟨catalog, relativePath, component, rfl⟩ := isModel
  obtain ⟨otherCatalog, otherRelativePath, otherComponent, rfl⟩ := otherIsModel
  have sameFolder : testFolder? file = testFolder? other ↔ folder = otherFolder := by
    rw [stands.testFolder?_eq, otherStands.testFolder?_eq, Option.some.injEq]
  have sameStem : "./" ++ TestModel.fileNameOf file = "./" ++ TestModel.fileNameOf other ↔
      stem = otherStem := by
    rw [String.append_right_inj, stands.fileNameOf_eq, otherStands.fileNameOf_eq]
    exact ⟨ofList_injective, congrArg String.ofList⟩
  exact and_congr sameFolder sameStem

theorem not_namedAlike {only : String} (single : ∀ wanted ∈ search.extensions, wanted = only) :
    ¬NamedAlike search file other := by
  rintro ⟨folder, stem, extension, otherExtension, differ, stands, otherStands⟩
  exact differ (ofList_injective
    ((single _ stands.wanted).trans (single _ otherStands.wanted).symm))

/-- Of two collected files the tests are two files. They import the same path from the same folder
just if the names of the files differ in nothing but wanted extensions, which needs two of these. -/
theorem sameImport_iff (wellFormed : disk.tree.WellFormed)
    (member : file ∈ search.collect disk root) (otherMember : other ∈ search.collect disk root)
    (differ : file ≠ other) :
    (IsScript file → IsScript other → disk.place (testPath file) ≠ disk.place (testPath other)) ∧
      (∀ model otherModel, IsModelOf file model → IsModelOf other otherModel →
        (SameImport model otherModel ↔ NamedAlike search file other)) ∧
      ∀ only, (∀ wanted ∈ search.extensions, wanted = only) → ¬NamedAlike search file other := by
  refine ⟨fun isScript otherScript same => ?_, fun model otherModel isModel otherIsModel => ?_,
    fun only => not_namedAlike⟩
  · exact differ (testPath_apart wellFormed member otherMember isScript otherScript same)
  constructor
  · intro sameImport
    obtain ⟨_, _, collected⟩ := Search.collects_of_mem wellFormed member
    obtain ⟨_, _, otherCollected⟩ := Search.collects_of_mem wellFormed otherMember
    obtain ⟨folder, stem, extension, stands⟩ := exists_standsAs collected.wanted
    obtain ⟨otherFolder, otherStem, otherExtension, otherStands⟩ :=
      exists_standsAs otherCollected.wanted
    obtain ⟨rfl, rfl⟩ :=
      (sameImport_iff_of_standsAs isModel otherIsModel stands otherStands).mp sameImport
    refine ⟨folder, stem, extension, otherExtension, ?_, stands, otherStands⟩
    rintro rfl
    exact differ (Search.eq_of_parts_eq wellFormed member otherMember
      (stands.parts.trans otherStands.parts.symm))
  · rintro ⟨folder, stem, extension, otherExtension, _, stands, otherStands⟩
    exact (sameImport_iff_of_standsAs isModel otherIsModel stands otherStands).mpr ⟨rfl, rfl⟩

def twinsSearch : Search := ⟨["js", "jsx"], true, Ignore.excludes []⟩

def twinsDisk : Disk :=
  ⟨.directory [("Card.js", .file "export default () => <a />;".toUTF8),
    ("Card.jsx", .file "export default () => <b />;".toUTF8)], []⟩

theorem wellFormed_twinsDisk : twinsDisk.tree.WellFormed := by
  simp only [twinsDisk, FileTree.WellFormed, FileTree.EntriesWellFormed]
  decide

theorem collect_twinsDisk : twinsSearch.collect twinsDisk "." = ["./Card.js", "./Card.jsx"] := by
  have placed : twinsDisk.place "." = .ok [] := rfl
  have files : twinsSearch.filesIn (twinsSearch.excludes twinsDisk) [] ".".toList twinsDisk.tree =
      ["./Card.js".toList, "./Card.jsx".toList] := by decide +kernel
  rw [Search.collect_of_find placed rfl, files, List.mergeSort_of_pairwise (by decide +kernel)]
  rfl

theorem sameImport_iff_twins :
    twinsDisk.tree.WellFormed ∧ twinsSearch.collect twinsDisk "." = ["./Card.js", "./Card.jsx"] ∧
      NamedAlike twinsSearch "./Card.js" "./Card.jsx" := by
  have member : "./Card.js" ∈ twinsSearch.collect twinsDisk "." := by
    rw [collect_twinsDisk]
    exact .head _
  have otherMember : "./Card.jsx" ∈ twinsSearch.collect twinsDisk "." := by
    rw [collect_twinsDisk]
    exact .tail _ (.head _)
  refine ⟨wellFormed_twinsDisk, collect_twinsDisk, ?_⟩
  have exactly := (sameImport_iff wellFormed_twinsDisk member otherMember (by decide)).2.1
  refine (exactly _ _ ⟨.empty, "", ⟨none, "", none⟩, rfl⟩ ⟨.empty, "", ⟨none, "", none⟩, rfl⟩).mp ?_
  exact ⟨by decide +kernel, by decide +kernel⟩

/-- A generator whose tests hold nothing but what they import. -/
def importGenerator : Generator :=
  ⟨.empty, fun model => .ok model.relativeImportPath, none⟩

/-- Both tests are written, and both take the component from the same path. -/
theorem twins_share_import :
    let report := run importGenerator "." twinsDisk (twinsSearch.collect twinsDisk ".")
    report.generated = ["./Card.test.js", "./Card.test.jsx"] ∧
      (report.disk.read "./Card.test.js").toOption = some "./Card" ∧
      (report.disk.read "./Card.test.jsx").toOption = some "./Card" ∧
      ∀ model otherModel, IsModelOf "./Card.js" model → IsModelOf "./Card.jsx" otherModel →
        SameImport model otherModel := by
  rw [collect_twinsDisk]
  refine ⟨by decide +kernel, by decide +kernel, by decide +kernel, ?_⟩
  rintro _ _ ⟨_, _, _, rfl⟩ ⟨_, _, _, rfl⟩
  have sameFolder : testFolder? "./Card.js" = testFolder? "./Card.jsx" := by decide +kernel
  have sameName : TestModel.fileNameOf "./Card.js" = TestModel.fileNameOf "./Card.jsx" := by
    decide +kernel
  exact ⟨sameFolder, congrArg ("./" ++ ·) sameName⟩

end SnapshotGen.Batch
