import SnapshotGen.Proofs.Disk.Sights
import SnapshotGen.Proofs.Path.Parts

/-!
Where paths lead. A way through a tree depends on its directories alone, so it stays the same while
files are written.
-/

namespace SnapshotGen.Disk

open FileTree

def advance (place : List String) : Path.Part → List String
  | .root => []
  | .here => place
  | .up => place.dropLast
  | .name name => place ++ [String.ofList name]

theorem follow_nil (tree : FileTree) (place : List String) : follow tree place [] = .ok place := by
  rw [follow]

theorem follow_cons (tree : FileTree) (place : List String) (part : Path.Part)
    (more : List Path.Part) :
    follow tree place (part :: more) =
      tree.find place >>= fun here =>
        if !here.isDirectory then .error .notDirectory
        else follow tree (advance place part) more := by
  cases part <;> rfl

theorem follow_cons_eq_ok_iff {tree : FileTree} {place found : List String} {part : Path.Part}
    {more : List Path.Part} :
    follow tree place (part :: more) = .ok found ↔
      tree.sight place = .directory ∧ follow tree (advance place part) more = .ok found := by
  rw [sight_eq_directory_iff, follow_cons]
  cases here : tree.find place with
  | error problem => simp [bind, Except.bind]
  | ok entry => cases entry <;> simp [bind, Except.bind, FileTree.isDirectory]

theorem follow_append_eq_ok_iff {tree : FileTree} {place found : List String}
    {front back : List Path.Part} :
    follow tree place (front ++ back) = .ok found ↔
      ∃ middle, follow tree place front = .ok middle ∧ follow tree middle back = .ok found := by
  induction front generalizing place with
  | nil => simp [follow_nil]
  | cons part front induction =>
      simp only [List.cons_append, follow_cons_eq_ok_iff, induction]
      constructor
      · rintro ⟨isDirectory, middle, toMiddle, onwards⟩
        exact ⟨middle, ⟨isDirectory, toMiddle⟩, onwards⟩
      · rintro ⟨middle, ⟨isDirectory, toMiddle⟩, onwards⟩
        exact ⟨isDirectory, middle, toMiddle, onwards⟩

theorem follow_name_eq_ok_iff {tree : FileTree} {place found : List String} {name : List Char} :
    follow tree place [.name name] = .ok found ↔
      tree.sight place = .directory ∧ place ++ [String.ofList name] = found := by
  simp [follow_cons_eq_ok_iff, follow_nil, advance]

theorem follow_of_sameDirectories {tree after : FileTree} (same : SameDirectories tree after)
    {place found : List String} {parts : List Path.Part}
    (led : follow tree place parts = .ok found) : follow after place parts = .ok found := by
  induction parts generalizing place with
  | nil => rwa [follow_nil] at led ⊢
  | cons part more induction =>
      rw [follow_cons_eq_ok_iff] at led ⊢
      exact ⟨(same place).mpr led.1, induction led.2⟩

theorem follow_names {tree : FileTree} {place names : List String}
    (stands : tree.sight (place ++ names) ≠ .nothing) :
    follow tree place (names.map fun name => .name name.toList) = .ok (place ++ names) := by
  induction names generalizing place with
  | nil => rw [List.map_nil, follow_nil, List.append_nil]
  | cons name names induction =>
      have below : place ++ name :: names = (place ++ [name]) ++ names := by simp
      rw [List.map_cons, follow_cons_eq_ok_iff]
      refine ⟨sight_folder stands, ?_⟩
      rw [below] at stands ⊢
      rw [advance, String.ofList_toList]
      exact induction stands

variable {disk : Disk} {path : String} {place : List String}

theorem place_eq_ok_iff :
    disk.place path = .ok place ↔
      path ≠ "" ∧ follow disk.tree disk.workingDirectory (Path.parts path.toList) = .ok place := by
  unfold Disk.place
  by_cases isEmpty : path = ""
  · subst isEmpty
    simp
  · rw [if_neg (by simpa using isEmpty)]
    simp [isEmpty]

/-- A path with a file name leads into a directory, and a path with another name in place of it
leads into the same one. -/
theorem place_withFileName {name new : List Char}
    (named : Path.fileName? path.toList = some name) (isName : Path.IsName new)
    (placed : disk.place path = .ok place) :
    ∃ folder, disk.tree.sight folder = .directory ∧ place = folder ++ [String.ofList name] ∧
      disk.place (String.ofList (Path.withFileName path.toList new)) =
        .ok (folder ++ [String.ofList new]) := by
  obtain ⟨_, led⟩ := place_eq_ok_iff.mp placed
  rw [Path.parts_eq_of_fileName? named, follow_append_eq_ok_iff] at led
  obtain ⟨folder, toFolder, onwards⟩ := led
  obtain ⟨isDirectory, rfl⟩ := follow_name_eq_ok_iff.mp onwards
  refine ⟨folder, isDirectory, rfl, place_eq_ok_iff.mpr ⟨?_, ?_⟩⟩
  · intro isEmpty
    have noParts := Path.parts_withFileName named isName
    rw [← String.toList_ofList (l := Path.withFileName path.toList new), isEmpty] at noParts
    exact absurd noParts (by simp [Path.parts, Text.splitAt])
  · rw [String.toList_ofList, Path.parts_withFileName named isName, follow_append_eq_ok_iff]
    exact ⟨folder, toFolder, follow_name_eq_ok_iff.mpr ⟨isDirectory, rfl⟩⟩

/-- A later state of a disk: its directories are where they were. -/
structure Later (disk after : Disk) : Prop where
  workingDirectory : after.workingDirectory = disk.workingDirectory
  directories : SameDirectories disk.tree after.tree

theorem Later.refl (disk : Disk) : Later disk disk :=
  ⟨rfl, .refl disk.tree⟩

theorem Later.trans {after last : Disk} (first : Later disk after) (second : Later after last) :
    Later disk last :=
  ⟨second.workingDirectory.trans first.workingDirectory,
    first.directories.trans second.directories⟩

theorem Later.symm {after : Disk} (later : Later disk after) : Later after disk :=
  ⟨later.workingDirectory.symm, later.directories.symm⟩

theorem Later.place_eq {after : Disk} (later : Later disk after)
    (placed : disk.place path = .ok place) : after.place path = .ok place := by
  rw [place_eq_ok_iff] at placed ⊢
  rw [later.workingDirectory]
  exact ⟨placed.1, follow_of_sameDirectories later.directories placed.2⟩

theorem read_of_sight {content : ByteArray} (placed : disk.place path = .ok place)
    (isFile : disk.tree.sight place = .file content)
    (isFilePath : path.toList.getLast? ≠ some '/') :
    disk.read path = (FileTree.file content).text := by
  have found := sight_eq_file_iff.mp isFile
  simp [Disk.read, Disk.find, placed, found, isFilePath, bind, Except.bind, pure, Except.pure]

theorem Later.read_eq {after : Disk} (later : Later disk after) {content : ByteArray}
    (placed : disk.place path = .ok place) (isFile : disk.tree.sight place = .file content)
    (isFilePath : path.toList.getLast? ≠ some '/')
    (same : after.tree.sight place = disk.tree.sight place) : after.read path = disk.read path := by
  rw [read_of_sight placed isFile isFilePath,
    read_of_sight (later.place_eq placed) (same.trans isFile) isFilePath]

theorem write_eq_ok_iff {text : String} {after : Disk} :
    disk.write path text = .ok after ↔
      ∃ place tree, disk.place path = .ok place ∧ disk.tree.write text.toUTF8 place = .ok tree ∧
        after = { disk with tree } := by
  unfold Disk.write
  cases placed : disk.place path with
  | error problem => simp [bind, Except.bind]
  | ok place =>
      cases written : disk.tree.write text.toUTF8 place with
      | error problem =>
          simp only [bind, Except.bind, written, reduceCtorEq, false_iff, not_exists, not_and]
          rintro _ _ ⟨rfl⟩ written'
          rw [written] at written'
          contradiction
      | ok tree =>
          simp only [bind, Except.bind, written, pure, Except.pure, Except.ok.injEq]
          constructor
          · rintro rfl
            exact ⟨place, tree, rfl, written, rfl⟩
          · rintro ⟨_, _, rfl, written', rfl⟩
            rw [written] at written'
            cases written'
            rfl

theorem later_of_write {text : String} {after : Disk} (written : disk.write path text = .ok after) :
    Later disk after := by
  obtain ⟨place, tree, _, treeWritten, rfl⟩ := write_eq_ok_iff.mp written
  exact ⟨rfl, sameDirectories_of_write treeWritten⟩

/-- Whether a file can be written into a directory is told by the directories of the disk. -/
theorem write_in_folder {folder : List String} {name : String} (text : String)
    (isDirectory : disk.tree.sight folder = .directory)
    (placed : disk.place path = .ok (folder ++ [name])) :
    (disk.tree.sight (folder ++ [name]) = .directory ∧
      disk.write path text = .error .isDirectory) ∨
    (disk.tree.sight (folder ++ [name]) ≠ .directory ∧
      ∃ after, disk.write path text = .ok after) := by
  by_cases isFolder : disk.tree.sight (folder ++ [name]) = .directory
  · refine .inl ⟨isFolder, ?_⟩
    simp [Disk.write, placed, write_directory isFolder, bind, Except.bind]
  · have writable : ∃ tree, disk.tree.write text.toUTF8 (folder ++ [name]) = .ok tree :=
      exists_write_iff.mpr ⟨isDirectory, isFolder⟩
    obtain ⟨tree, written⟩ := writable
    exact .inr ⟨isFolder, _, write_eq_ok_iff.mpr ⟨_, tree, placed, written, rfl⟩⟩

theorem Later.write_eq_error_iff {after : Disk} (later : Later disk after) {folder : List String}
    {name : String} (isDirectory : disk.tree.sight folder = .directory)
    (placed : disk.place path = .ok (folder ++ [name])) (text : String) (problem : FileProblem) :
    after.write path text = .error problem ↔ disk.write path text = .error problem := by
  have sameFolder := later.directories (folder ++ [name])
  have inBefore := write_in_folder text isDirectory placed
  have inAfter := write_in_folder text ((later.directories folder).mpr isDirectory)
    (later.place_eq placed)
  rcases inBefore with ⟨isFolder, failed⟩ | ⟨noFolder, last, written⟩
  · rcases inAfter with ⟨_, failed'⟩ | ⟨noFolder, _⟩
    · rw [failed, failed']
    · exact absurd (sameFolder.mpr isFolder) noFolder
  · rcases inAfter with ⟨isFolder, _⟩ | ⟨_, last', written'⟩
    · exact absurd (sameFolder.mp isFolder) noFolder
    · rw [written, written']
      simp

theorem write_of_sight {text : String} (placed : disk.place path = .ok place)
    (isFile : disk.tree.sight place = .file text.toUTF8) : disk.write path text = .ok disk :=
  write_eq_ok_iff.mpr
    ⟨place, disk.tree, placed, write_of_find (sight_eq_file_iff.mp isFile), rfl⟩

end SnapshotGen.Disk
