import Mathlib.Data.List.Pairwise
import SnapshotGen.Proofs.ComponentFiles.Found
import SnapshotGen.Proofs.Path.FileName

/-!
The files that a search collects from a disk: each stands at a place of its own below the place of
the root, and is read as it stands there.
-/

namespace SnapshotGen.ComponentFiles.Search

open FileTree

variable {search : Search} {disk : Disk} {root : String}

theorem collect_of_find {tree : FileTree} {start : List String}
    (placed : disk.place root = .ok start) (found : disk.find root = .ok tree) :
    search.collect disk root =
      ((search.filesIn (search.excludes disk) start root.toList tree).mergeSort
        Path.before).map String.ofList := by
  rw [collect, placed, found]

/-- A search collects only from a path that leads somewhere. -/
theorem mem_collect_iff {file : String} :
    file ∈ search.collect disk root ↔
      ∃ place tree, disk.place root = .ok place ∧ disk.find root = .ok tree ∧
        file.toList ∈ search.filesIn (search.excludes disk) place root.toList tree := by
  unfold collect
  cases placed : disk.place root with
  | error problem => simp
  | ok place =>
      cases found : disk.find root with
      | error problem => simp
      | ok tree =>
          simp only [List.mem_map, List.mem_mergeSort]
          constructor
          · rintro ⟨path, member, rfl⟩
            rw [String.toList_ofList]
            exact ⟨place, tree, rfl, rfl, member⟩
          · rintro ⟨_, _, ⟨rfl⟩, ⟨rfl⟩, member⟩
            exact ⟨file.toList, member, String.ofList_toList⟩

theorem find_eq_ok_iff {tree : FileTree} :
    disk.find root = .ok tree ↔
      ∃ place, disk.place root = .ok place ∧ disk.tree.find place = .ok tree ∧
        (tree.isDirectory = false → root.toList.getLast? ≠ some '/') := by
  unfold Disk.find
  cases placed : disk.place root with
  | error problem => simp [bind, Except.bind]
  | ok place =>
      cases found : disk.tree.find place with
      | error problem => simp [found, bind, Except.bind]
      | ok entry =>
          by_cases refused : root.toList.getLast? = some '/' ∧ entry.isDirectory = false
          · have : (root.toList.getLast? = some '/' && !entry.isDirectory) = true := by
              simpa using refused
            simp only [bind, Except.bind, found, this, if_true, reduceCtorEq, Except.ok.injEq,
              exists_eq_left', false_iff, not_and]
            rintro rfl allowed
            exact allowed refused.2 refused.1
          · have : (root.toList.getLast? = some '/' && !entry.isDirectory) = false := by
              simpa using refused
            simp only [bind, Except.bind, found, this, pure, Except.pure, Except.ok.injEq,
              exists_eq_left', Bool.false_eq_true, if_false]
            constructor
            · rintro rfl
              exact ⟨rfl, fun isFile ends => refused ⟨ends, isFile⟩⟩
            · exact fun same => same.1

/-- A collected file: names lead to it from the place of the root. -/
structure Collects (search : Search) (disk : Disk) (root file : String)
    (start names : List String) : Prop where
  placed : disk.place root = .ok start
  place : disk.place file = .ok (start ++ names)
  stands : ∃ content, disk.tree.sight (start ++ names) = .file content
  parts : Path.parts file.toList = Path.parts root.toList ++ names.map fun name => .name name.toList
  wanted : search.isWanted file.toList = true
  noTest : search.skipTests = true → ∀ name ∈ names.getLast?, TestName.isFile name = false
  plain : file.toList.getLast? ≠ some '/'
  alone : names = [] → search.collect disk root = [file]

theorem ne_empty_of_isWanted {file : String} (wanted : search.isWanted file.toList = true) :
    file ≠ "" := by
  rintro rfl
  revert wanted
  simp [isWanted, Path.extension?, Path.fileName?, Path.parts, Text.splitAt]

theorem collects_of_mem (wellFormed : disk.tree.WellFormed) {file : String}
    (member : file ∈ search.collect disk root) :
    ∃ start names, search.Collects disk root file start names := by
  obtain ⟨start, tree, placed, found, inTree⟩ := mem_collect_iff.mp member
  obtain ⟨_, placed', isFound, plain⟩ := find_eq_ok_iff.mp found
  obtain rfl := Except.ok.inj (placed.symm.trans placed')
  obtain ⟨names, reached⟩ :=
    reaches_of_mem_filesIn (wellFormed.of_find isFound) plain inTree
  obtain ⟨content, isFile⟩ := reached.stands
  have stands : disk.tree.sight (start ++ names) = .file content := by
    rw [sight_eq_file_iff] at isFile ⊢
    rw [find_append, isFound]
    exact isFile
  refine ⟨start, names, placed, ?_, ⟨content, stands⟩, reached.parts, reached.wanted,
    reached.noTest, reached.plain, ?_⟩
  · refine Disk.place_eq_ok_iff.mpr ⟨ne_empty_of_isWanted reached.wanted, ?_⟩
    rw [reached.parts, Disk.follow_append_eq_ok_iff]
    exact ⟨start, (Disk.place_eq_ok_iff.mp placed).2, Disk.follow_names (by simp [stands])⟩
  · rintro rfl
    cases tree with
    | directory entries => simp at isFile
    | file _ =>
        rw [filesIn] at inTree
        split at inTree
        · rename_i wanted
          obtain same : file.toList = root.toList := by simpa using inTree
          obtain rfl := String.toList_injective same
          simp [collect, placed, found, filesIn, wanted]
        · simp at inTree

theorem pairwise_collect (wellFormed : disk.tree.WellFormed) :
    (search.collect disk root).Pairwise fun file other =>
      Path.parts file.toList ≠ Path.parts other.toList := by
  unfold collect
  cases placed : disk.place root with
  | error problem => exact .nil
  | ok place =>
      cases found : disk.find root with
      | error problem => exact .nil
      | ok tree =>
          obtain ⟨_, _, isFound, _⟩ := find_eq_ok_iff.mp found
          simp only [List.pairwise_map, String.toList_ofList]
          rw [(List.mergeSort_perm _ _).pairwise_iff (fun different => Ne.symm different)]
          exact pairwise_filesIn tree (wellFormed.of_find isFound)

theorem nodup_collect (wellFormed : disk.tree.WellFormed) : (search.collect disk root).Nodup :=
  (pairwise_collect wellFormed).imp fun different same => different (by rw [same])

theorem eq_of_parts_eq (wellFormed : disk.tree.WellFormed) {file other : String}
    (member : file ∈ search.collect disk root) (otherMember : other ∈ search.collect disk root)
    (same : Path.parts file.toList = Path.parts other.toList) : file = other := by
  have : Std.Symm fun file other : String => Path.parts file.toList ≠ Path.parts other.toList :=
    ⟨fun _ _ different => different.symm⟩
  by_contra different
  exact (pairwise_collect wellFormed).forall member otherMember different same

theorem eq_of_place_eq (wellFormed : disk.tree.WellFormed) {file other : String}
    (member : file ∈ search.collect disk root) (otherMember : other ∈ search.collect disk root)
    (same : disk.place file = disk.place other) : file = other := by
  obtain ⟨start, names, collected⟩ := collects_of_mem wellFormed member
  obtain ⟨start', names', otherCollected⟩ := collects_of_mem wellFormed otherMember
  obtain rfl := Except.ok.inj (collected.placed.symm.trans otherCollected.placed)
  rw [collected.place, otherCollected.place] at same
  obtain rfl : names = names' := List.append_cancel_left (Except.ok.inj same)
  exact eq_of_parts_eq wellFormed member otherMember
    (by rw [collected.parts, otherCollected.parts])

end SnapshotGen.ComponentFiles.Search
