import SnapshotGen.Ignore.Rules
import SnapshotGen.Proofs.ComponentFiles.Collected
import SnapshotGen.Proofs.Path.Order

/-!
Which files a search collects, told by the places of a disk and the names that lead to them, and the
order in which they come. What is kept out may be anything.
-/

namespace SnapshotGen.ComponentFiles.Search

open FileTree

variable {search : Search}

/-- A file that a search is for: the names lead to it from the root, which stands at the start. -/
structure Selects (search : Search) (disk : Disk) (root : String) (start : List String)
    (file : String) (names : List String) : Prop where
  path : file.toList = Path.along root.toList names
  stands : ∃ content, disk.tree.sight (start ++ names) = .file content
  notExcluded : IsOpen (search.excludes disk) start names
  passes : search.PassesNames names
  wanted : ∃ extension ∈ search.extensions, Path.extension? file.toList = some extension.toList

theorem isWanted_iff {file : List Char} : search.isWanted file = true ↔
    ∃ extension ∈ search.extensions, Path.extension? file = some extension.toList := by
  unfold isWanted
  cases extended : Path.extension? file with
  | none => simp
  | some extension =>
      simp only [List.contains_iff_mem, Option.some.injEq]
      constructor
      · intro member
        exact ⟨_, member, String.toList_ofList.symm⟩
      · rintro ⟨other, member, rfl⟩
        rwa [String.ofList_toList]

theorem mem_collect_iff_selects {disk : Disk} {root file : String} {start : List String}
    {tree : FileTree} (wellFormed : disk.tree.WellFormed) (placed : disk.place root = .ok start)
    (found : disk.find root = .ok tree) :
    file ∈ search.collect disk root ↔ ∃ names, search.Selects disk root start file names := by
  obtain ⟨_, placed', isFound, _⟩ := find_eq_ok_iff.mp found
  obtain rfl := Except.ok.inj (placed.symm.trans placed')
  have collected : file ∈ search.collect disk root ↔
      file.toList ∈ search.filesIn (search.excludes disk) start root.toList tree := by
    rw [mem_collect_iff]
    simp only [placed, found, Except.ok.injEq, exists_and_left, exists_eq_left']
  rw [collected, mem_filesIn_iff tree (wellFormed.of_find isFound)]
  refine exists_congr fun names => ?_
  constructor
  · rintro ⟨samePath, ⟨content, stands⟩, entered, wanted⟩
    obtain ⟨isOpen, passes⟩ := (entersAlong_iff stands).mp entered
    exact ⟨samePath, ⟨content, by rwa [sight_append isFound]⟩, isOpen, passes,
      isWanted_iff.mp wanted⟩
  · rintro ⟨samePath, ⟨content, stands⟩, notExcluded, passes, wanted⟩
    rw [sight_append isFound] at stands
    exact ⟨samePath, ⟨content, stands⟩, (entersAlong_iff stands).mpr ⟨notExcluded, passes⟩,
      isWanted_iff.mpr wanted⟩

theorem pairwise_precedes_collect {disk : Disk} {root : String} {tree : FileTree}
    (wellFormed : disk.tree.WellFormed) (found : disk.find root = .ok tree) :
    (search.collect disk root).Pairwise fun file other =>
      Path.Precedes file.toList other.toList := by
  obtain ⟨start, placed, isFound, _⟩ := find_eq_ok_iff.mp found
  rw [collect_of_find placed found, List.pairwise_map]
  simp only [String.toList_ofList]
  exact Path.pairwise_precedes_mergeSort (pairwise_filesIn tree (wellFormed.of_find isFound))

variable {extensions : List String} {excludes : Disk → List String → Bool}

theorem Selects.withTests {disk : Disk} {root file : String} {start names : List String}
    (selects : Selects ⟨extensions, true, excludes⟩ disk root start file names) :
    Selects ⟨extensions, false, excludes⟩ disk root start file names where
  path := selects.path
  stands := selects.stands
  notExcluded := selects.notExcluded
  passes := ⟨fun name member => ⟨(selects.passes.directories name member).1, by simp⟩, by simp⟩
  wanted := selects.wanted

/-- A search collects just the files it is for, in the strict order of their paths. The names that
lead to them begin below the root, whose own name is not looked at. Where what is in a directory kept
out is kept out as well, a file is kept out just if its own place is. Where tests are skipped, no
file is collected that is not collected with them. -/
theorem collect_selects (extensions : List String) (excludes : Disk → List String → Bool)
    {disk : Disk} {root : String} {tree : FileTree} (wellFormed : disk.tree.WellFormed)
    (found : disk.find root = .ok tree) :
    ∃ start, disk.place root = .ok start ∧
      (∀ skipTests,
        (collect ⟨extensions, skipTests, excludes⟩ disk root).Pairwise (fun file other =>
          Path.Precedes file.toList other.toList) ∧
        ∀ file, file ∈ collect ⟨extensions, skipTests, excludes⟩ disk root ↔
          ∃ names, Selects ⟨extensions, skipTests, excludes⟩ disk root start file names) ∧
      (Inherits (excludes disk) start → ∀ names, IsOpen (excludes disk) start names ↔
        (names ≠ [] → excludes disk (start ++ names) = false)) ∧
      ∀ file ∈ collect ⟨extensions, true, excludes⟩ disk root,
        file ∈ collect ⟨extensions, false, excludes⟩ disk root := by
  obtain ⟨start, placed, _⟩ := find_eq_ok_iff.mp found
  refine ⟨start, placed, fun skipTests => ⟨pairwise_precedes_collect wellFormed found, ?_⟩,
    fun inherits names => inherits.isOpen_iff, ?_⟩
  · exact fun file => mem_collect_iff_selects wellFormed placed found
  · intro file member
    rw [mem_collect_iff_selects wellFormed placed found] at member ⊢
    obtain ⟨names, selects⟩ := member
    exact ⟨names, selects.withTests⟩

def sourcesDisk : Disk :=
  let script : FileTree := .file "export default () => <a />;".toUTF8
  ⟨.directory [(".gitignore", .file "build/\n".toUTF8),
    ("build", .directory [("Bundle.js", script)]),
    ("src", .directory [("App.js", script), ("App.test.js", script),
      ("__tests__", .directory [("Card.js", script)]),
      ("node_modules", .directory [("react.js", script)])])], []⟩

theorem collect_selects_sources :
    let search : Search := ⟨["js"], true, Ignore.excludes []⟩
    sourcesDisk.tree.WellFormed ∧ sourcesDisk.find "." = .ok sourcesDisk.tree ∧
      search.collect sourcesDisk "." = ["./src/App.js"] ∧
      ∃ start names, sourcesDisk.place "." = .ok start ∧
        search.Selects sourcesDisk "." start "./src/App.js" names := by
  have wellFormed : sourcesDisk.tree.WellFormed := by
    simp only [sourcesDisk, WellFormed, EntriesWellFormed]
    decide
  have found : sourcesDisk.find "." = .ok sourcesDisk.tree := rfl
  have collected :
      collect ⟨["js"], true, Ignore.excludes []⟩ sourcesDisk "." = ["./src/App.js"] := by
    decide +kernel
  obtain ⟨start, placed, selected, _⟩ :=
    collect_selects ["js"] (Ignore.excludes []) wellFormed found
  have member : "./src/App.js" ∈ collect ⟨["js"], true, Ignore.excludes []⟩ sourcesDisk "." := by
    rw [collected]
    exact .head _
  obtain ⟨names, selects⟩ := ((selected true).2 "./src/App.js").mp member
  exact ⟨wellFormed, found, collected, start, names, placed, selects⟩

end SnapshotGen.ComponentFiles.Search
