import SnapshotGen.Proofs.ComponentFiles.Ways

/-!
What a search finds. Names lead from its start to each file, no two files are reached by the same
names, and none of them is a test where tests are skipped.
-/

namespace SnapshotGen

namespace ComponentFiles.Search

open FileTree

variable {search : Search} {excludes : List String → Bool}

/-- A wanted file of a tree that stands at a path: names lead to it, in the tree and in its own
path. -/
structure Reaches (search : Search) (path : List Char) (tree : FileTree) (file : List Char)
    (names : List String) : Prop where
  stands : ∃ content, tree.sight names = .file content
  parts : Path.parts file = Path.parts path ++ names.map fun name => .name name.toList
  wanted : search.isWanted file = true
  noTest : search.skipTests = true → ∀ name ∈ names.getLast?, TestName.isFile name = false
  plain : file.getLast? ≠ some '/'

theorem Leads.reaches {place : List String} {path file : List Char} {tree : FileTree}
    {names : List String} (leads : search.Leads excludes place path tree file names)
    (wellFormed : tree.WellFormed)
    (plain : tree.isDirectory = false → path.getLast? ≠ some '/') :
    search.Reaches path tree file names := by
  obtain ⟨rfl, ⟨content, stands⟩, entered, wanted⟩ := leads
  have areNames := wellFormed.isName_of_sight stands
  refine ⟨⟨content, stands⟩, Path.parts_along path areNames, wanted,
    ((entersAlong_iff stands).mp entered).2.noTest, Path.getLast?_along_ne areNames ?_⟩
  rintro rfl
  cases tree with
  | directory entries => cases stands
  | file _ => exact plain rfl

theorem reaches_of_mem_filesIn {place : List String} {path file : List Char}
    {tree : FileTree} (wellFormed : tree.WellFormed)
    (plain : tree.isDirectory = false → path.getLast? ≠ some '/')
    (member : file ∈ search.filesIn excludes place path tree) :
    ∃ names, search.Reaches path tree file names := by
  obtain ⟨names, leads⟩ := (mem_filesIn_iff tree wellFormed).mp member
  exact ⟨names, leads.reaches wellFormed plain⟩

/-- The first name that leads to a file stands in its path behind that of the directory. -/
theorem parts_of_leads {place : List String} {directory file : List Char} {name : String}
    {entry : FileTree} {names : List String} (isName : Path.IsName name.toList)
    (wellFormed : entry.WellFormed)
    (leads : search.Leads excludes place (Path.join directory name.toList) entry file names) :
    ∃ rest, Path.parts file = Path.parts directory ++ .name name.toList :: rest := by
  have reached := leads.reaches wellFormed fun _ => Path.getLast?_join_ne isName
  rw [reached.parts, Path.parts_join directory isName, List.append_assoc]
  exact ⟨_, rfl⟩

mutual

theorem pairwise_filesIn {place : List String} {path : List Char} :
    (tree : FileTree) → tree.WellFormed →
    (search.filesIn excludes place path tree).Pairwise fun file other =>
      Path.parts file ≠ Path.parts other
  | .file content, _ => by
      rw [filesIn]
      split <;> simp
  | .directory entries, wellFormed => by
      rw [WellFormed] at wellFormed
      rw [filesIn]
      exact pairwise_filesAmong entries wellFormed

theorem pairwise_filesAmong {place : List String} {directory : List Char} :
    (entries : List (String × FileTree)) → EntriesWellFormed entries →
    (search.filesAmong excludes place directory entries).Pairwise fun file other =>
      Path.parts file ≠ Path.parts other
  | [], _ => by simp [filesAmong]
  | (name, entry) :: more, wellFormed => by
      obtain ⟨isName, absent, entryWellFormed, moreWellFormed⟩ := wellFormed
      rw [filesAmong, List.pairwise_append]
      refine ⟨?_, pairwise_filesAmong more moreWellFormed, ?_⟩
      · split
        · exact pairwise_filesIn entry entryWellFormed
        · exact .nil
      · intro file inEntry other inMore same
        split at inEntry
        · obtain ⟨names, leads⟩ := (mem_filesIn_iff entry entryWellFormed).mp inEntry
          obtain ⟨first, found, _, inOthers, _, otherLeads⟩ :=
            (mem_filesAmong_iff more moreWellFormed).mp inMore
          obtain ⟨firstIsName, foundWellFormed⟩ := moreWellFormed.of_lookup inOthers
          obtain ⟨_, parts⟩ := parts_of_leads isName entryWellFormed leads
          obtain ⟨_, otherParts⟩ := parts_of_leads firstIsName foundWellFormed otherLeads
          rw [parts, otherParts] at same
          have sameNames := (List.cons.inj (List.append_cancel_left same)).1
          obtain rfl : name = first := String.toList_injective (Path.Part.name.inj sameNames)
          rw [absent] at inOthers
          cases inOthers
        · cases inEntry

end

end ComponentFiles.Search

end SnapshotGen
