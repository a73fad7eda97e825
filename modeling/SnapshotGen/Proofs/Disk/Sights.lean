import SnapshotGen.Disk
import SnapshotGen.Proofs.Disk.Entries

/-!
What stands at the places of a tree. Writing a file changes what stands at its place and nothing
else, and whether it can be written is told by what stands there and by the folder.
-/

namespace SnapshotGen

namespace FileTree

inductive Sight
  | nothing
  | directory
  | file (content : ByteArray)

def sight (tree : FileTree) (place : List String) : Sight :=
  match tree.find place with
  | .ok (.file content) => .file content
  | .ok (.directory _) => .directory
  | .error _ => .nothing

theorem sight_eq_file_iff {tree : FileTree} {place : List String} {content : ByteArray} :
    tree.sight place = .file content ↔ tree.find place = .ok (file content) := by
  unfold sight
  split <;> simp_all

theorem sight_eq_directory_iff {tree : FileTree} {place : List String} :
    tree.sight place = .directory ↔ ∃ entries, tree.find place = .ok (directory entries) := by
  unfold sight
  split <;> simp_all

@[simp] theorem sight_directory_nil (entries : List (String × FileTree)) :
    (directory entries).sight [] = .directory := rfl

@[simp] theorem sight_file_nil (content : ByteArray) :
    (file content).sight [] = .file content := rfl

@[simp] theorem sight_file_cons (content : ByteArray) (name : String) (path : List String) :
    (file content).sight (name :: path) = .nothing := rfl

theorem sight_directory_cons (entries : List (String × FileTree)) (name : String)
    (path : List String) :
    (directory entries).sight (name :: path) =
      match entries.lookup name with
      | some entry => entry.sight path
      | none => .nothing := by
  unfold sight
  rw [find]
  cases entries.lookup name <;> rfl

theorem sight_folder {tree : FileTree} {folder : List String} {name : String} {path : List String}
    (stands : tree.sight (folder ++ name :: path) ≠ .nothing) :
    tree.sight folder = .directory := by
  unfold sight at stands ⊢
  rw [find_append] at stands
  cases found : tree.find folder with
  | error problem => simp [found, bind, Except.bind] at stands
  | ok entry =>
      cases entry with
      | file content => simp [found, bind, Except.bind, find] at stands
      | directory entries => rfl

variable {tree after : FileTree} {content : ByteArray} {name : String} {place : List String}

theorem sight_write_self (written : tree.write content place = .ok after) :
    after.sight place = .file content := by
  induction place generalizing tree after with
  | nil =>
      cases tree with
      | file old => cases written; rfl
      | directory entries => simp [write] at written
  | cons name path induction =>
      obtain ⟨entries, entry, rfl, rfl, inEntry | ⟨_, rfl, rfl⟩⟩ := write_cons_ok written
      · obtain ⟨before, _, inner⟩ := inEntry
        rw [sight_directory_cons, lookup_setEntry_self]
        exact induction inner
      · rw [sight_directory_cons, lookup_setEntry_self]
        rfl

theorem sight_write_other {other : List String} (different : other ≠ place)
    (written : tree.write content place = .ok after) : after.sight other = tree.sight other := by
  induction place generalizing tree after other with
  | nil =>
      cases tree with
      | file old =>
          cases written
          cases other with
          | nil => contradiction
          | cons name path => rfl
      | directory entries => simp [write] at written
  | cons name path induction =>
      obtain ⟨entries, entry, rfl, rfl, change⟩ := write_cons_ok written
      cases other with
      | nil => rfl
      | cons first rest =>
          rw [sight_directory_cons, sight_directory_cons]
          by_cases same : first = name
          · subst same
            have restDifferent : rest ≠ path := by simpa using different
            rw [lookup_setEntry_self]
            rcases change with ⟨before, found, inner⟩ | ⟨absent, rfl, rfl⟩
            · rw [found]
              exact induction restDifferent inner
            · rw [absent]
              cases rest with
              | nil => contradiction
              | cons next rest => rfl
          · rw [lookup_setEntry_other same]

theorem write_of_find (found : tree.find place = .ok (file content)) :
    tree.write content place = .ok tree := by
  induction place generalizing tree with
  | nil => cases found; rfl
  | cons name path induction =>
      cases tree with
      | file old => simp [find] at found
      | directory entries =>
          rw [find] at found
          cases inEntries : entries.lookup name with
          | none => simp [inEntries] at found
          | some entry =>
              rw [inEntries] at found
              simp [write, inEntries, induction found, setEntry_of_lookup inEntries, bind,
                Except.bind, pure, Except.pure]

theorem exists_write_iff {folder : List String} :
    (∃ after, tree.write content (folder ++ [name]) = .ok after) ↔
      tree.sight folder = .directory ∧ tree.sight (folder ++ [name]) ≠ .directory := by
  induction folder generalizing tree with
  | nil =>
      cases tree with
      | file old => simp [write]
      | directory entries =>
          rw [List.nil_append, sight_directory_cons]
          cases found : entries.lookup name with
          | none => simp [write, found]
          | some entry =>
              cases entry <;> simp [write, found, bind, Except.bind, pure, Except.pure]
  | cons first folder induction =>
      cases tree with
      | file old => simp [write]
      | directory entries =>
          rw [List.cons_append, sight_directory_cons, sight_directory_cons]
          cases found : entries.lookup first with
          | none => cases folder <;> simp [write, found]
          | some entry =>
              simp only [← induction]
              constructor
              · rintro ⟨after, written⟩
                obtain ⟨_, changed, same, _, ⟨before, isBefore, inner⟩ | ⟨absent, _⟩⟩ :=
                  write_cons_ok written
                · cases same
                  rw [found] at isBefore
                  cases isBefore
                  exact ⟨changed, inner⟩
                · cases same
                  rw [found] at absent
                  contradiction
              · rintro ⟨changed, inner⟩
                exact ⟨directory (setEntry first changed entries), by
                  simp [write, found, inner, bind, Except.bind, pure, Except.pure]⟩

theorem write_directory (isDirectory : tree.sight place = .directory) :
    tree.write content place = .error .isDirectory := by
  induction place generalizing tree with
  | nil =>
      cases tree with
      | file old => simp at isDirectory
      | directory entries => rfl
  | cons name path induction =>
      cases tree with
      | file old => simp at isDirectory
      | directory entries =>
          rw [sight_directory_cons] at isDirectory
          cases found : entries.lookup name with
          | none => simp [found] at isDirectory
          | some entry =>
              rw [found] at isDirectory
              simp [write, found, induction isDirectory, bind, Except.bind]

def SameDirectories (tree after : FileTree) : Prop :=
  ∀ place, after.sight place = .directory ↔ tree.sight place = .directory

theorem SameDirectories.refl (tree : FileTree) : SameDirectories tree tree :=
  fun _ => Iff.rfl

theorem SameDirectories.symm (same : SameDirectories tree after) : SameDirectories after tree :=
  fun place => (same place).symm

theorem SameDirectories.trans {last : FileTree} (first : SameDirectories tree after)
    (second : SameDirectories after last) : SameDirectories tree last :=
  fun place => (second place).trans (first place)

theorem sight_ne_directory_of_write (written : tree.write content place = .ok after) :
    tree.sight place ≠ .directory := by
  rcases List.eq_nil_or_concat place with rfl | ⟨folder, name, rfl⟩
  · cases tree with
    | file old => simp
    | directory entries => simp [write] at written
  · rw [List.concat_eq_append] at written ⊢
    exact (exists_write_iff.mp ⟨after, written⟩).2

theorem sameDirectories_of_write (written : tree.write content place = .ok after) :
    SameDirectories tree after := by
  intro other
  by_cases same : other = place
  · subst same
    simp [sight_write_self written, sight_ne_directory_of_write written]
  · rw [sight_write_other same written]

end FileTree

end SnapshotGen
