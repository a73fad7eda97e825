import SnapshotGen.Proofs.Path.Trailing
import SnapshotGen.Proofs.TestNames

/-!
Where the test of a script stands: in the folder of the script, under a name of tests, and at a path
that tells which of all paths with an extension it is the test of.
-/

namespace SnapshotGen

namespace TestName

variable {source other : List Char}

theorem exists_forSource_eq {name : List Char} (named : Path.fileName? source = some name) :
    ∃ stem extension, forSource source = Path.withFileName source (ofParts stem extension) ∧
      stem ≠ [] ∧ Path.IsName (ofParts stem extension) ∧
      (Path.extension? source = some extension ∨ extension = ['j', 's']) := by
  have isName := Path.isName_of_fileName? named
  rcases Path.splitName_cases name with split | ⟨stem, extension, rfl, nonempty, free, split⟩
  · have hasStem : Path.fileStem? source = some name := by
      rw [Path.fileStem?, named, Option.map_some, split]
    have noExtension : Path.extension? source = none := by
      rw [Path.extension?, named, Option.bind_some, split]
    refine ⟨name, ['j', 's'], ?_, isName.nonempty, ?_, .inr rfl⟩
    · rw [forSource, hasStem, noExtension, Option.getD_some, Option.getD_none, ofParts]
    · refine isName_ofParts (Path.isName_append_extension ?_ ?_ ?_ isName.plain) <;> decide
  · have hasStem : Path.fileStem? source = some stem := by
      rw [Path.fileStem?, named, Option.map_some, split]
    have extended : Path.extension? source = some extension := by
      rw [Path.extension?, named, Option.bind_some, split]
    refine ⟨stem, extension, ?_, nonempty, isName_ofParts isName, .inl extended⟩
    rw [forSource, hasStem, extended, Option.getD_some, Option.getD_some, ofParts]

theorem parts_forSource {extension : List Char} (extended : Path.extension? source = some extension) :
    ∃ stem, '.' ∉ extension ∧
      Path.parts source = (Path.parts source).dropLast ++ [.name (stem ++ '.' :: extension)] ∧
      Path.parts (forSource source) =
        (Path.parts source).dropLast ++ [.name (ofParts stem extension)] := by
  obtain ⟨stem, named, _, free, target⟩ := forSource_of_extension? extended
  refine ⟨stem, free, Path.parts_eq_of_fileName? named, ?_⟩
  rw [target, Path.parts_withFileName named (isName_ofParts (Path.isName_of_fileName? named))]

theorem parts_inj_of_forSource (extended : (Path.extension? source).isSome)
    (otherExtended : (Path.extension? other).isSome)
    (same : Path.parts (forSource source) = Path.parts (forSource other)) :
    Path.parts source = Path.parts other := by
  obtain ⟨extension, extended⟩ := Option.isSome_iff_exists.mp extended
  obtain ⟨otherExtension, otherExtended⟩ := Option.isSome_iff_exists.mp otherExtended
  obtain ⟨stem, free, parts, testParts⟩ := parts_forSource extended
  obtain ⟨otherStem, otherFree, otherParts, otherTestParts⟩ := parts_forSource otherExtended
  rw [testParts, otherTestParts] at same
  obtain ⟨sameFolder, sameName⟩ := List.append_inj' same rfl
  obtain ⟨rfl, rfl⟩ := ofParts_inj free otherFree (Path.Part.name.inj (List.singleton_inj.mp sameName))
  rw [parts, otherParts, sameFolder]

/-- The test of a script has a name of tests and stands in the folder of the script. Paths with an
extension, which always have a stem in front of it, are the same if their tests are. -/
theorem forSource_tells :
    (∀ source dialect, Script.Dialect.ofPath? source = some dialect →
      ∃ name folder testFolder, Path.fileName? (forSource source) = some name ∧
        isFile (String.ofList name) ∧ Path.parent? source = some folder ∧
        Path.parent? (forSource source) = some testFolder ∧
        Path.parts testFolder = Path.parts folder) ∧
    ∀ source other, (Path.extension? source).isSome → (Path.extension? other).isSome →
      Path.parts (forSource source) = Path.parts (forSource other) →
      Path.parts source = Path.parts other := by
  refine ⟨fun source dialect known => ?_, fun _ _ => parts_inj_of_forSource⟩
  obtain ⟨c, ends, noSeparator, noDot⟩ := Script.Dialect.getLast?_of_ofPath? known
  obtain ⟨name, named⟩ := Path.exists_fileName? ends noSeparator noDot
  obtain ⟨stem, extension, target, nonempty, isName, byExtension⟩ := exists_forSource_eq named
  have isScript : String.ofList extension ∈ scriptExtensions := by
    rcases byExtension with extended | rfl
    · exact Script.Dialect.mem_scriptExtensions
        (Script.Dialect.ofExtension?_of_ofPath? known extended)
    · decide
  obtain ⟨folder, parent, parts⟩ := Path.parts_parent? named
  obtain ⟨testFolder, testParent, testParts⟩ := Path.parent?_withFileName named isName
  rw [target]
  refine ⟨_, folder, testFolder, Path.fileName?_withFileName named isName,
    isFile_ofParts nonempty isScript, parent, testParent, ?_⟩
  rw [testParts, parts, List.dropLast_concat]

/-- A file whose name is nothing but a dot and an extension, and one file by two paths. -/
theorem forSource_tells_card :
    let hidden := "src/.tsx".toList
    let source := "src//Card.View.js".toList
    let other := "src/./Card.View.js".toList
    Script.Dialect.ofPath? hidden = some .tsx ∧ forSource hidden = "src/.tsx.test.js".toList ∧
      (∃ name folder testFolder, Path.fileName? (forSource hidden) = some name ∧
        isFile (String.ofList name) ∧ Path.parent? hidden = some folder ∧
        Path.parent? (forSource hidden) = some testFolder ∧
        Path.parts testFolder = Path.parts folder) ∧
      Path.extension? source = some "js".toList ∧ Path.extension? other = some "js".toList ∧
      Path.parts (forSource source) = Path.parts (forSource other) ∧
      Path.parts source = Path.parts other := by
  intro hidden source other
  have known : Script.Dialect.ofPath? hidden = some .tsx := by decide +kernel
  have extended : Path.extension? source = some "js".toList := by decide +kernel
  have otherExtended : Path.extension? other = some "js".toList := by decide +kernel
  have same : Path.parts (forSource source) = Path.parts (forSource other) := by decide +kernel
  refine ⟨known, by decide +kernel, forSource_tells.1 hidden .tsx known, extended, otherExtended,
    same, ?_⟩
  exact forSource_tells.2 source other (by rw [extended]; rfl) (by rw [otherExtended]; rfl) same

end TestName

end SnapshotGen
