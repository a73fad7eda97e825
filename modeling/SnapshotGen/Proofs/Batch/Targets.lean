import SnapshotGen.Batch
import SnapshotGen.Proofs.ComponentFiles.Stable
import SnapshotGen.Proofs.TestNames

/-!
Where the tests of collected files stand: beside their files, each at a place of its own, and none
in place of a collected file.
-/

namespace SnapshotGen.Batch

open FileTree

/-- The path of a file tells a dialect; no component is read from another file. -/
def IsScript (file : String) : Prop :=
  ∃ dialect, Script.Dialect.ofPath? file.toList = some dialect

theorem isScript_of_extract {file source : String} {extract : Extraction.Extract}
    (extracted : Extraction.extract file source = .ok extract) : IsScript file := by
  unfold Extraction.extract at extracted
  split at extracted
  · rename_i dialect known
    exact ⟨dialect, known⟩
  · contradiction

theorem place_testPath {disk : Disk} {file : String} {place : List String} {extension : List Char}
    (extended : Path.extension? file.toList = some extension) (isScript : IsScript file)
    (placed : disk.place file = .ok place) :
    ∃ folder stem, disk.tree.sight folder = .directory ∧ '.' ∉ extension ∧
      place = folder ++ [String.ofList (stem ++ '.' :: extension)] ∧
      disk.place (testPath file) = .ok (folder ++ [String.ofList (TestName.ofParts stem extension)]) ∧
      TestName.isFile (String.ofList (TestName.ofParts stem extension)) = true := by
  obtain ⟨dialect, known⟩ := isScript
  have script :=
    Script.Dialect.mem_scriptExtensions (Script.Dialect.ofExtension?_of_ofPath? known extended)
  obtain ⟨stem, named, nonempty, free, target⟩ := TestName.forSource_of_extension? extended
  have isName := TestName.isName_ofParts (Path.isName_of_fileName? named)
  obtain ⟨folder, isDirectory, rfl, placedTest⟩ := Disk.place_withFileName named isName placed
  refine ⟨folder, stem, isDirectory, free, rfl, ?_, TestName.isFile_ofParts nonempty script⟩
  rw [testPath, target]
  exact placedTest

/-- Files whose tests do not get into the way of one another, nor of the files. -/
structure Independent (disk : Disk) (files : List String) : Prop where
  nodup : files.Nodup
  stands : ∀ file ∈ files, file.toList.getLast? ≠ some '/' ∧
    ∃ place content, disk.place file = .ok place ∧ disk.tree.sight place = .file content
  test : ∀ file ∈ files, IsScript file → ∃ folder name, disk.tree.sight folder = .directory ∧
    disk.place (testPath file) = .ok (folder ++ [name])
  apart : ∀ file ∈ files, ∀ other ∈ files, IsScript file → IsScript other →
    disk.place (testPath file) = disk.place (testPath other) → file = other
  noSource : ∀ file ∈ files, ∀ other ∈ files, IsScript file →
    disk.place (testPath file) ≠ disk.place other

theorem Independent.tail {disk : Disk} {file : String} {files : List String}
    (independent : Independent disk (file :: files)) : Independent disk files where
  nodup := (List.nodup_cons.mp independent.nodup).2
  stands other member := independent.stands other (.tail _ member)
  test other member := independent.test other (.tail _ member)
  apart one oneMember other otherMember :=
    independent.apart one (.tail _ oneMember) other (.tail _ otherMember)
  noSource one oneMember other otherMember :=
    independent.noSource one (.tail _ oneMember) other (.tail _ otherMember)

theorem Independent.perm {disk : Disk} {files others : List String}
    (independent : Independent disk files) (permuted : others.Perm files) :
    Independent disk others where
  nodup := permuted.nodup_iff.mpr independent.nodup
  stands other member := independent.stands other (permuted.mem_iff.mp member)
  test other member := independent.test other (permuted.mem_iff.mp member)
  apart one oneMember other otherMember :=
    independent.apart one (permuted.mem_iff.mp oneMember) other (permuted.mem_iff.mp otherMember)
  noSource one oneMember other otherMember :=
    independent.noSource one (permuted.mem_iff.mp oneMember) other (permuted.mem_iff.mp otherMember)

open ComponentFiles (Search)

variable {search : Search} {disk : Disk} {root file : String}

theorem extension?_of_isWanted {path : List Char} (wanted : search.isWanted path = true) :
    ∃ extension, Path.extension? path = some extension := by
  unfold Search.isWanted at wanted
  split at wanted
  · rename_i extension extended
    exact ⟨extension, extended⟩
  · contradiction

theorem place_testPath_of_mem (wellFormed : disk.tree.WellFormed)
    (member : file ∈ search.collect disk root) (isScript : IsScript file) :
    ∃ folder stem extension, disk.tree.sight folder = .directory ∧ '.' ∉ extension ∧
      disk.place file = .ok (folder ++ [String.ofList (stem ++ '.' :: extension)]) ∧
      disk.place (testPath file) =
        .ok (folder ++ [String.ofList (TestName.ofParts stem extension)]) ∧
      TestName.isFile (String.ofList (TestName.ofParts stem extension)) = true := by
  obtain ⟨start, names, collected⟩ := Search.collects_of_mem wellFormed member
  obtain ⟨extension, extended⟩ := extension?_of_isWanted collected.wanted
  obtain ⟨folder, stem, isDirectory, free, same, placed, isTest⟩ :=
    place_testPath extended isScript collected.place
  exact ⟨folder, stem, extension, isDirectory, free, same ▸ collected.place, placed, isTest⟩

theorem ofList_injective {cs ds : List Char} (same : String.ofList cs = String.ofList ds) :
    cs = ds := by
  rw [← String.toList_ofList (l := cs), same, String.toList_ofList]

theorem testPath_apart (wellFormed : disk.tree.WellFormed) {other : String}
    (member : file ∈ search.collect disk root) (otherMember : other ∈ search.collect disk root)
    (isScript : IsScript file) (otherScript : IsScript other)
    (same : disk.place (testPath file) = disk.place (testPath other)) : file = other := by
  obtain ⟨folder, stem, extension, _, free, placed, placedTest, _⟩ :=
    place_testPath_of_mem wellFormed member isScript
  obtain ⟨folder', stem', extension', _, free', placed', placedTest', _⟩ :=
    place_testPath_of_mem wellFormed otherMember otherScript
  rw [placedTest, placedTest', Except.ok.injEq] at same
  obtain ⟨rfl, sameNames⟩ := List.append_inj' same rfl
  obtain ⟨rfl, rfl⟩ :=
    TestName.ofParts_inj free free' (ofList_injective (List.singleton_inj.mp sameNames))
  exact Search.eq_of_place_eq wellFormed member otherMember (placed.trans placed'.symm)

theorem testPath_noSource (skips : search.skipTests = true) (wellFormed : disk.tree.WellFormed)
    {other : String} (member : file ∈ search.collect disk root)
    (otherMember : other ∈ search.collect disk root) (isScript : IsScript file) :
    disk.place (testPath file) ≠ disk.place other := by
  intro same
  obtain ⟨folder, stem, extension, _, _, placed, placedTest, isTest⟩ :=
    place_testPath_of_mem wellFormed member isScript
  obtain ⟨start, names, collected⟩ := Search.collects_of_mem wellFormed otherMember
  rw [placedTest] at same
  rcases List.eq_nil_or_concat names with rfl | ⟨front, last, rfl⟩
  · -- The root is the one file: its test has another name.
    rw [collected.alone rfl, List.mem_singleton] at member
    subst member
    rw [placed, Except.ok.injEq] at same
    have sameName := (List.append_inj' same rfl).2
    exact TestName.ofParts_ne stem extension (ofList_injective (List.singleton_inj.mp sameName))
  · rw [List.concat_eq_append] at collected
    rw [collected.place, Except.ok.injEq, ← List.append_assoc] at same
    obtain rfl := List.singleton_inj.mp (List.append_inj' same rfl).2
    have noTest :=
      collected.noTest skips (String.ofList (TestName.ofParts stem extension)) (by simp)
    rw [isTest] at noTest
    contradiction

theorem testPath_isTest (wellFormed : disk.tree.WellFormed)
    (member : file ∈ search.collect disk root) (isScript : IsScript file) {place : List String}
    (placed : disk.place (testPath file) = .ok place) :
    TestName.IsPlace place ∧ disk.place root ≠ .ok place := by
  obtain ⟨folder, stem, extension, _, _, placedFile, placedTest, isTest⟩ :=
    place_testPath_of_mem wellFormed member isScript
  obtain rfl := Except.ok.inj (placedTest.symm.trans placed)
  constructor
  · intro name isLast
    obtain rfl : String.ofList (TestName.ofParts stem extension) = name := by simpa using isLast
    exact isTest
  · intro rootPlaced
    obtain ⟨start, names, collected⟩ := Search.collects_of_mem wellFormed member
    have sameStart := Except.ok.inj (collected.placed.symm.trans rootPlaced)
    have samePlace := Except.ok.inj (collected.place.symm.trans placedFile)
    rcases List.eq_nil_or_concat names with rfl | ⟨front, last, rfl⟩
    · rw [List.append_nil, sameStart] at samePlace
      have sameName := (List.append_inj' samePlace rfl).2
      exact TestName.ofParts_ne stem extension (ofList_injective (List.singleton_inj.mp sameName))
    · have sameLength := congrArg List.length samePlace
      have startLength := congrArg List.length sameStart
      simp only [List.length_append, List.length_concat, List.length_cons,
        List.length_nil] at sameLength startLength
      omega

theorem independent_collect (skips : search.skipTests = true) (wellFormed : disk.tree.WellFormed) :
    Independent disk (search.collect disk root) where
  nodup := Search.nodup_collect wellFormed
  stands file member := by
    obtain ⟨start, names, collected⟩ := Search.collects_of_mem wellFormed member
    obtain ⟨content, isFile⟩ := collected.stands
    exact ⟨collected.plain, _, content, collected.place, isFile⟩
  test file member isScript := by
    obtain ⟨folder, stem, extension, isDirectory, _, _, placed, _⟩ :=
      place_testPath_of_mem wellFormed member isScript
    exact ⟨folder, _, isDirectory, placed⟩
  apart _ member _ otherMember := testPath_apart wellFormed member otherMember
  noSource _ member _ otherMember := testPath_noSource skips wellFormed member otherMember

end SnapshotGen.Batch
