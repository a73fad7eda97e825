import SnapshotGen.Ignore.Rules
import SnapshotGen.Proofs.ComponentFiles.Collected

/-!
Where tests are skipped, a search does not see that a test was written: tests are no files of rules,
they are not entered, and what they contain is not looked at.
-/

namespace SnapshotGen

open FileTree

/-- Nothing but a test stands at the end of the names. -/
def TestName.IsPlace (place : List String) : Prop :=
  ∀ name ∈ place.getLast?, TestName.isFile name = true

theorem TestName.IsPlace.tail {name : String} {place : List String}
    (isTest : IsPlace (name :: place)) : IsPlace place := by
  intro last isLast
  exact isTest last (by simp_all [List.getLast?_cons])

namespace Ignore

def SameRules (tree other : FileTree) : Prop :=
  ∀ directory, ∀ place ∈ rulePlaces,
    other.sight (directory ++ place) = tree.sight (directory ++ place)

/-- What is kept out depends on nothing but the place, which places are directories, and what the
files of rules contain. -/
def ReadsRules (excludes : Disk → List String → Bool) : Prop :=
  ∀ disk other : Disk, other.workingDirectory = disk.workingDirectory →
    SameDirectories disk.tree other.tree → SameRules disk.tree other.tree →
    excludes other = excludes disk

variable {tree other : FileTree}

theorem rulesOf_eq (directory : FileTree) :
    rulesOf directory = rulePlaces.map fun place =>
      match directory.sight place with
      | .file content => Rules.ofContent content
      | _ => [] := by
  refine List.map_congr_left fun place _ => ?_
  unfold FileTree.sight
  cases directory.find place with
  | error problem => rfl
  | ok entry => cases entry <;> rfl

theorem SameRules.here_eq (same : SameRules tree other) : Scope.here other = Scope.here tree := by
  rw [Scope.here, Scope.here, rulesOf_eq, rulesOf_eq]
  refine congrArg (Scope.mk · []) (List.map_congr_left fun place member => ?_)
  rw [← List.nil_append place, same [] place member]

theorem ne_nil_of_mem_rulePlaces {place : List String} (member : place ∈ rulePlaces) :
    place ≠ [] := by
  have noneEmpty : ∀ place ∈ rulePlaces, place ≠ [] := by decide
  exact noneEmpty place member

/-- Behind a name stands what stands in its entry, if it has one. -/
theorem sight_inner (tree : FileTree) (name : String) {place : List String} (inside : place ≠ []) :
    ((tree.find [name]).toOption.getD .empty).sight place = tree.sight (name :: place) := by
  cases found : tree.find [name] with
  | ok entry => exact (sight_append found place).symm
  | error problem =>
      have nothing : tree.sight (name :: place) = .nothing := by
        unfold sight
        rw [← List.singleton_append, find_append, found]
        rfl
      rw [nothing]
      cases place with
      | nil => contradiction
      | cons first more => rfl

theorem SameRules.inner (same : SameRules tree other) (name : String) :
    SameRules ((tree.find [name]).toOption.getD .empty)
      ((other.find [name]).toOption.getD .empty) := by
  intro directory place member
  have inside := List.append_ne_nil_of_right_ne_nil directory (ne_nil_of_mem_rulePlaces member)
  rw [sight_inner _ _ inside, sight_inner _ _ inside]
  exact same (name :: directory) place member

theorem SameRules.scopesTo_eq (same : SameRules tree other) (scopes : List Scope)
    (place : List String) : scopesTo other scopes place = scopesTo tree scopes place := by
  induction place generalizing tree other scopes with
  | nil => rfl
  | cons name place induction => rw [scopesTo, scopesTo, same.here_eq, induction (same.inner name)]

theorem isDirectory_find_iff {place : List String} :
    (tree.find place).toOption.any (·.isDirectory) = true ↔ tree.sight place = .directory := by
  unfold sight
  cases tree.find place with
  | error problem => simp [Except.toOption]
  | ok entry => cases entry <;> simp [Except.toOption, isDirectory]

theorem readsRules_excludes (everywhere : Rules) : ReadsRules (excludes everywhere) := by
  intro disk other sameWorking sameDirectories sameRules
  funext place
  have sameKind : (other.tree.find place).toOption.any (·.isDirectory) =
      (disk.tree.find place).toOption.any (·.isDirectory) := by
    rw [Bool.eq_iff_iff, isDirectory_find_iff, isDirectory_find_iff]
    exact sameDirectories place
  rw [excludes, excludes, sameKind, sameWorking, sameRules.scopesTo_eq]

variable {after : FileTree} {content : ByteArray} {place : List String}

theorem not_isPlace_of_mem_rulePlaces {directory place : List String}
    (member : place ∈ rulePlaces) : ¬TestName.IsPlace (directory ++ place) := by
  have noTests : ∀ place ∈ rulePlaces,
      (place.getLast?.all fun name => !TestName.isFile name) = true ∧ place ≠ [] := by decide
  intro isTest
  obtain ⟨noTest, nonempty⟩ := noTests place member
  obtain ⟨last, isLast⟩ := Option.isSome_iff_exists.mp (List.getLast?_isSome.mpr nonempty)
  rw [isLast] at noTest
  have sameLast : (directory ++ place).getLast? = some last := by
    rw [List.getLast?_append, isLast, Option.some_or]
  simp [isTest last sameLast] at noTest

theorem sameRules_of_write (isTest : TestName.IsPlace place)
    (written : tree.write content place = .ok after) : SameRules tree after := by
  intro directory rulePlace member
  have different : directory ++ rulePlace ≠ place := by
    rintro rfl
    exact not_isPlace_of_mem_rulePlaces member isTest
  exact sight_write_other different written

end Ignore

namespace ComponentFiles.Search

variable {search : Search} {tree after : FileTree} {content : ByteArray} {place : List String}

variable {excludes : List String → Bool}

theorem enters_test (skips : search.skipTests = true) {directory : List String} {name : String}
    (isTest : TestName.isFile name = true) :
    search.enters excludes directory name false = false := by
  simp [enters, isPassedOver, skips, isTest]

theorem isDirectory_of_write (written : tree.write content place = .ok after) :
    after.isDirectory = tree.isDirectory := by
  cases place with
  | nil =>
      cases tree with
      | file old => cases written; rfl
      | directory entries => simp [write] at written
  | cons name place =>
      obtain ⟨entries, entry, rfl, rfl, _⟩ := write_cons_ok written
      rfl

theorem filesAmong_setEntry {directory : List String} {path : List Char}
    {entries : List (String × FileTree)} {name : String} {before entry : FileTree}
    (found : entries.lookup name = some before) (sameKind : entry.isDirectory = before.isDirectory)
    (sameFiles : ∀ place path,
      search.filesIn excludes place path entry = search.filesIn excludes place path before) :
    search.filesAmong excludes directory path (setEntry name entry entries) =
      search.filesAmong excludes directory path entries := by
  induction entries with
  | nil => simp at found
  | cons first more induction =>
      obtain ⟨key, value⟩ := first
      by_cases same : key = name
      · subst same
        obtain rfl : value = before := by simpa using found
        rw [setEntry, if_pos rfl, filesAmong, filesAmong, sameKind, sameFiles]
      · rw [lookup_cons_of_ne (Ne.symm same)] at found
        rw [setEntry, if_neg same, filesAmong, filesAmong, induction found]

theorem filesAmong_append {directory : List String} {path : List Char}
    {entries : List (String × FileTree)} {name : String} {entry : FileTree}
    (passed : search.enters excludes directory name entry.isDirectory = false) :
    search.filesAmong excludes directory path (entries ++ [(name, entry)]) =
      search.filesAmong excludes directory path entries := by
  induction entries with
  | nil => simp [filesAmong, passed]
  | cons first more induction =>
      obtain ⟨key, value⟩ := first
      rw [List.cons_append, filesAmong, filesAmong, induction]

theorem filesIn_of_write (skips : search.skipTests = true) {directory : List String}
    {path : List Char} (isTest : TestName.IsPlace place)
    (written : tree.write content place = .ok after) :
    search.filesIn excludes directory path after = search.filesIn excludes directory path tree := by
  induction place generalizing tree after directory path with
  | nil =>
      cases tree with
      | file old => cases written; rfl
      | directory entries => simp [write] at written
  | cons name place induction =>
      obtain ⟨entries, entry, rfl, rfl, change⟩ := write_cons_ok written
      rw [filesIn, filesIn]
      -- The write goes into an entry that was there, or adds one that must be the test itself.
      rcases change with ⟨before, found, inner⟩ | ⟨absent, rfl, rfl⟩
      · exact filesAmong_setEntry found (isDirectory_of_write inner) fun _ _ =>
          induction isTest.tail inner
      · rw [setEntry_of_lookup_eq_none absent]
        exact filesAmong_append (enters_test skips (isTest name (by simp)))

theorem find_of_write (skips : search.skipTests = true) {start : List String} {entry : FileTree}
    (isTest : TestName.IsPlace place) (different : start ≠ place)
    (found : tree.find start = .ok entry) (written : tree.write content place = .ok after) :
    ∃ later, after.find start = .ok later ∧ later.isDirectory = entry.isDirectory ∧
      ∀ (excludes : List String → Bool) place path,
        search.filesIn excludes place path later = search.filesIn excludes place path entry := by
  induction start generalizing tree after place with
  | nil =>
      cases found
      exact ⟨after, rfl, isDirectory_of_write written, fun _ _ _ =>
        filesIn_of_write skips isTest written⟩
  | cons name start induction =>
      cases place with
      | nil =>
          cases tree with
          | file old => simp [find] at found
          | directory entries => simp [write] at written
      | cons first place =>
          obtain ⟨entries, changed, rfl, rfl, change⟩ := write_cons_ok written
          rw [find] at found ⊢
          -- The two ways go on together, or the one to the test leaves the other one here.
          by_cases same : name = first
          · subst same
            rw [lookup_setEntry_self]
            rcases change with ⟨before, isBefore, inner⟩ | ⟨absent, _⟩
            · rw [isBefore] at found
              exact induction isTest.tail (by simpa using different) found inner
            · simp [absent] at found
          · rw [lookup_setEntry_other same]
            exact ⟨entry, found, rfl, fun _ _ _ => rfl⟩

variable {disk : Disk} {root : String} {start : List String}

theorem collect_of_find_error (missing : ∀ tree, disk.find root ≠ .ok tree) :
    search.collect disk root = [] := by
  unfold collect
  cases found : disk.find root with
  | error problem => cases disk.place root <;> rfl
  | ok tree => exact absurd found (missing tree)

/-- A test that is written, except in place of the root itself, leaves a search as it was. -/
theorem collect_of_write (skips : search.skipTests = true)
    (readsRules : Ignore.ReadsRules search.excludes) {last : Disk} {path text : String}
    (isTest : TestName.IsPlace place) (placed : disk.place path = .ok place)
    (different : disk.place root ≠ .ok place) (written : disk.write path text = .ok last) :
    search.collect last root = search.collect disk root := by
  have later := Disk.later_of_write written
  obtain ⟨_, after, placed', treeWritten, rfl⟩ := Disk.write_eq_ok_iff.mp written
  obtain rfl := Except.ok.inj (placed.symm.trans placed')
  have sameExcludes :=
    readsRules _ _ later.workingDirectory later.directories
      (Ignore.sameRules_of_write isTest treeWritten)
  by_cases isFound : ∃ tree, disk.find root = .ok tree
  · obtain ⟨tree, found⟩ := isFound
    obtain ⟨start, rootPlaced, inTree, plain⟩ := find_eq_ok_iff.mp found
    have apart : start ≠ place := by
      rintro rfl
      exact different rootPlaced
    obtain ⟨entry, inAfter, sameKind, sameFiles⟩ :=
      find_of_write skips isTest apart inTree treeWritten
    have afterPlaced := later.place_eq rootPlaced
    have afterFound := find_eq_ok_iff.mpr ⟨start, afterPlaced, inAfter, by rwa [sameKind]⟩
    rw [collect_of_find rootPlaced found, collect_of_find afterPlaced afterFound, sameFiles,
      sameExcludes]
  · rw [collect_of_find_error fun tree found => isFound ⟨tree, found⟩]
    refine collect_of_find_error fun entry found => isFound ?_
    obtain ⟨start, afterPlaced, inAfter, plain⟩ := find_eq_ok_iff.mp found
    have rootPlaced := later.symm.place_eq afterPlaced
    have apart : start ≠ place := by
      rintro rfl
      exact different rootPlaced
    have sameSight := sight_write_other apart treeWritten
    cases inTree : disk.tree.find start with
    | error problem =>
        unfold sight at sameSight
        simp only [inTree] at sameSight
        rw [inAfter] at sameSight
        cases entry <;> simp at sameSight
    | ok tree =>
        obtain ⟨_, inAfter', sameKind, _⟩ := find_of_write skips isTest apart inTree treeWritten
        obtain rfl := Except.ok.inj (inAfter.symm.trans inAfter')
        exact ⟨tree, find_eq_ok_iff.mpr ⟨start, rootPlaced, inTree, by rwa [← sameKind]⟩⟩

end ComponentFiles.Search

end SnapshotGen
