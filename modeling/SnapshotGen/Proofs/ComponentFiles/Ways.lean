import SnapshotGen.ComponentFiles
import SnapshotGen.Proofs.Disk.Places

/-!
Ways through a tree. A search finds just the wanted files to which a way leads on which nothing is
kept out, that goes through no directory passed over, and that does not end in a test where tests
are skipped.
-/

namespace SnapshotGen

namespace FileTree

mutual

/-- A tree as disks hold them: the entries of a directory have different names, each of which stands
for itself in a path. -/
def WellFormed : FileTree → Prop
  | file _ => True
  | directory entries => EntriesWellFormed entries

def EntriesWellFormed : List (String × FileTree) → Prop
  | [] => True
  | (name, entry) :: more =>
    Path.IsName name.toList ∧ more.lookup name = none ∧ entry.WellFormed ∧ EntriesWellFormed more

end

theorem EntriesWellFormed.of_lookup {entries : List (String × FileTree)} {name : String}
    {entry : FileTree} (wellFormed : EntriesWellFormed entries)
    (found : entries.lookup name = some entry) : Path.IsName name.toList ∧ entry.WellFormed := by
  induction entries with
  | nil => simp at found
  | cons first more induction =>
      obtain ⟨key, value⟩ := first
      obtain ⟨isName, _, entryWellFormed, moreWellFormed⟩ := wellFormed
      by_cases same : name = key
      · obtain rfl : value = entry := by simpa [same] using found
        exact ⟨same ▸ isName, entryWellFormed⟩
      · rw [lookup_cons_of_ne same] at found
        exact induction moreWellFormed found

theorem WellFormed.of_find {tree found : FileTree} {place : List String}
    (wellFormed : tree.WellFormed) (isFound : tree.find place = .ok found) :
    found.WellFormed := by
  induction place generalizing tree with
  | nil => cases isFound; exact wellFormed
  | cons name place induction =>
      cases tree with
      | file content => simp [find] at isFound
      | directory entries =>
          cases inEntries : entries.lookup name with
          | none => simp [find, inEntries] at isFound
          | some entry =>
              rw [WellFormed] at wellFormed
              simp only [find, inEntries] at isFound
              exact induction (wellFormed.of_lookup inEntries).2 isFound

/-- Names that lead to a file stand for themselves in its path. -/
theorem WellFormed.isName_of_sight {tree : FileTree} {names : List String} {content : ByteArray}
    (wellFormed : tree.WellFormed) (stands : tree.sight names = .file content) :
    ∀ name ∈ names, Path.IsName name.toList := by
  induction names generalizing tree with
  | nil => simp
  | cons name names induction =>
      cases tree with
      | file _ => cases stands
      | directory entries =>
          rw [WellFormed] at wellFormed
          rw [sight_directory_cons] at stands
          cases inEntries : entries.lookup name with
          | none =>
              rw [inEntries] at stands
              cases stands
          | some entry =>
              rw [inEntries] at stands
              obtain ⟨isName, entryWellFormed⟩ := wellFormed.of_lookup inEntries
              exact List.forall_mem_cons.mpr ⟨isName, induction entryWellFormed stands⟩

theorem sight_append {tree entry : FileTree} {front : List String}
    (found : tree.find front = .ok entry) (back : List String) :
    tree.sight (front ++ back) = entry.sight back := by
  unfold sight
  rw [find_append, found]
  rfl

end FileTree

open FileTree

namespace ComponentFiles.Search

variable {search : Search} {excludes : List String → Bool}

theorem enters_iff {place : List String} {name : String} {isDirectory : Bool} :
    search.enters excludes place name isDirectory = true ↔
      excludes (place ++ [name]) = false ∧ search.isPassedOver name isDirectory = false := by
  simp [enters]

def EntersAlong (search : Search) (excludes : List String → Bool) (place : List String)
    (tree : FileTree) : List String → Prop
  | [] => True
  | name :: names =>
    ∃ entry, tree.find [name] = .ok entry ∧
      search.enters excludes place name entry.isDirectory = true ∧
      EntersAlong search excludes (place ++ [name]) entry names

/-- A way on which a search finds a file. -/
structure Leads (search : Search) (excludes : List String → Bool) (place : List String)
    (path : List Char) (tree : FileTree) (file : List Char) (names : List String) : Prop where
  path : file = Path.along path names
  stands : ∃ content, tree.sight names = .file content
  enters : search.EntersAlong excludes place tree names
  wanted : search.isWanted file = true

variable {place : List String} {path file : List Char} {entries : List (String × FileTree)}

theorem leads_cons_iff {name : String} {names : List String} :
    search.Leads excludes place path (.directory entries) file (name :: names) ↔
      ∃ entry, entries.lookup name = some entry ∧
        search.enters excludes place name entry.isDirectory = true ∧
        search.Leads excludes (place ++ [name]) (Path.join path name.toList) entry file names := by
  constructor
  · rintro ⟨samePath, stands, ⟨entry, found, entered, along⟩, wanted⟩
    have inEntries := find_singleton_eq_ok_iff.mp found
    rw [sight_directory_cons, inEntries] at stands
    exact ⟨entry, inEntries, entered, samePath, stands, along, wanted⟩
  · rintro ⟨entry, inEntries, entered, samePath, stands, along, wanted⟩
    refine ⟨samePath, ?_, ⟨entry, find_singleton_eq_ok_iff.mpr inEntries, entered, along⟩, wanted⟩
    rwa [sight_directory_cons, inEntries]

mutual

theorem mem_filesIn_iff {place : List String} {path file : List Char} :
    (tree : FileTree) → tree.WellFormed →
    (file ∈ search.filesIn excludes place path tree ↔
      ∃ names, search.Leads excludes place path tree file names)
  | .file content, _ => by
      rw [filesIn]
      constructor
      · intro member
        split at member
        · rename_i wanted
          obtain rfl := List.mem_singleton.mp member
          exact ⟨[], rfl, ⟨content, rfl⟩, trivial, wanted⟩
        · cases member
      · rintro ⟨names, samePath, ⟨_, stands⟩, _, wanted⟩
        cases names with
        | nil =>
            obtain rfl : file = path := samePath
            rw [if_pos wanted]
            exact .head _
        | cons name names => cases stands
  | .directory entries, wellFormed => by
      rw [WellFormed] at wellFormed
      rw [filesIn, mem_filesAmong_iff entries wellFormed]
      constructor
      · rintro ⟨name, entry, names, found, entered, leads⟩
        exact ⟨name :: names, leads_cons_iff.mpr ⟨entry, found, entered, leads⟩⟩
      · rintro ⟨names, leads⟩
        cases names with
        | nil =>
            obtain ⟨_, stands⟩ := leads.stands
            cases stands
        | cons name names =>
            obtain ⟨entry, found, entered, leads⟩ := leads_cons_iff.mp leads
            exact ⟨name, entry, names, found, entered, leads⟩

theorem mem_filesAmong_iff {place : List String} {path file : List Char} :
    (entries : List (String × FileTree)) → EntriesWellFormed entries →
    (file ∈ search.filesAmong excludes place path entries ↔
      ∃ name entry names, entries.lookup name = some entry ∧
        search.enters excludes place name entry.isDirectory = true ∧
        search.Leads excludes (place ++ [name]) (Path.join path name.toList) entry file names)
  | [], _ => by simp [filesAmong]
  | (name, entry) :: more, wellFormed => by
      obtain ⟨_, absent, entryWellFormed, moreWellFormed⟩ := wellFormed
      rw [filesAmong, List.mem_append, mem_filesAmong_iff more moreWellFormed]
      constructor
      · rintro (inEntry | ⟨other, found, names, inMore, entered, leads⟩)
        · split at inEntry
          · rename_i entered
            obtain ⟨names, leads⟩ := (mem_filesIn_iff entry entryWellFormed).mp inEntry
            exact ⟨name, entry, names, List.lookup_cons_self, entered, leads⟩
          · cases inEntry
        · have different : other ≠ name := by
            rintro rfl
            rw [absent] at inMore
            cases inMore
          exact ⟨other, found, names, by rwa [lookup_cons_of_ne different], entered, leads⟩
      · rintro ⟨other, found, names, inEntries, entered, leads⟩
        by_cases same : other = name
        · subst same
          rw [List.lookup_cons_self] at inEntries
          cases inEntries
          rw [if_pos entered]
          exact .inl ((mem_filesIn_iff entry entryWellFormed).mpr ⟨names, leads⟩)
        · rw [lookup_cons_of_ne same] at inEntries
          exact .inr ⟨other, found, names, inEntries, entered, leads⟩

end

/-- What the names on a way have to be like, but for the rules. -/
structure PassesNames (search : Search) (names : List String) : Prop where
  directories : ∀ name ∈ names.dropLast, name ≠ "node_modules" ∧
    (search.skipTests = true → TestName.isDirectory name = false)
  noTest : search.skipTests = true → ∀ name ∈ names.getLast?, TestName.isFile name = false

theorem passesNames_nil : search.PassesNames [] :=
  ⟨by simp, by simp⟩

theorem passesNames_singleton_iff {name : String} :
    search.PassesNames [name] ↔ search.isPassedOver name false = false := by
  constructor
  · intro passes
    cases skips : search.skipTests with
    | false => simp [isPassedOver, skips]
    | true => simp [isPassedOver, passes.noTest skips name rfl]
  · intro notPassed
    refine ⟨by simp, fun skips last isLast => ?_⟩
    obtain rfl : name = last := by simpa using isLast
    simpa [isPassedOver, skips] using notPassed

theorem passesNames_cons_iff {name : String} {names : List String} (onwards : names ≠ []) :
    search.PassesNames (name :: names) ↔
      search.isPassedOver name true = false ∧ search.PassesNames names := by
  have sameLast : (name :: names).getLast? = names.getLast? := by
    rw [List.getLast?_cons, List.getLast?_eq_some_getLast onwards, Option.getD_some]
  have notPassed : search.isPassedOver name true = false ↔ name ≠ "node_modules" ∧
      (search.skipTests = true → TestName.isDirectory name = false) := by
    simp [isPassedOver]
  rw [notPassed]
  constructor
  · rintro ⟨directories, noTest⟩
    rw [List.dropLast_cons_of_ne_nil onwards, List.forall_mem_cons] at directories
    exact ⟨directories.1, directories.2, fun skips => sameLast ▸ noTest skips⟩
  · rintro ⟨first, directories, noTest⟩
    refine ⟨?_, fun skips => sameLast ▸ noTest skips⟩
    rw [List.dropLast_cons_of_ne_nil onwards, List.forall_mem_cons]
    exact ⟨first, directories⟩

def IsOpen (excludes : List String → Bool) (place names : List String) : Prop :=
  ∀ front, front ≠ [] → front <+: names → excludes (place ++ front) = false

theorem isOpen_nil : IsOpen excludes place [] := by
  intro front nonempty isPrefix
  exact absurd (List.prefix_nil.mp isPrefix) nonempty

theorem isOpen_cons_iff {name : String} {names : List String} :
    IsOpen excludes place (name :: names) ↔
      excludes (place ++ [name]) = false ∧ IsOpen excludes (place ++ [name]) names := by
  constructor
  · intro isOpen
    refine ⟨isOpen [name] (List.cons_ne_nil _ _) (List.cons_prefix_cons.mpr ⟨rfl, List.nil_prefix⟩),
      fun front _ isPrefix => ?_⟩
    rw [List.append_assoc]
    exact isOpen (name :: front) (List.cons_ne_nil _ _) (List.cons_prefix_cons.mpr ⟨rfl, isPrefix⟩)
  · rintro ⟨first, rest⟩ front nonempty isPrefix
    cases front with
    | nil => contradiction
    | cons other front =>
        obtain ⟨rfl, restPrefix⟩ := List.cons_prefix_cons.mp isPrefix
        by_cases isLast : front = []
        · rw [isLast, first]
        · have := rest front isLast restPrefix
          rwa [List.append_assoc] at this

/-- What is in a directory that is kept out below a place is kept out as well. -/
def Inherits (excludes : List String → Bool) (place : List String) : Prop :=
  ∀ front name, front ≠ [] → excludes (place ++ front) = true →
    excludes (place ++ (front ++ [name])) = true

theorem Inherits.append (inherits : Inherits excludes place) {front : List String}
    (nonempty : front ≠ []) (excluded : excludes (place ++ front) = true) (back : List String) :
    excludes (place ++ (front ++ back)) = true := by
  induction back generalizing front with
  | nil => rwa [List.append_nil]
  | cons name back induction =>
      rw [List.append_cons]
      exact induction (List.append_ne_nil_of_left_ne_nil nonempty _)
        (inherits front name nonempty excluded)

/-- Then only the end of a way tells whether it is open. -/
theorem Inherits.isOpen_iff (inherits : Inherits excludes place) {names : List String} :
    IsOpen excludes place names ↔ (names ≠ [] → excludes (place ++ names) = false) := by
  constructor
  · intro isOpen nonempty
    exact isOpen names nonempty (List.prefix_refl names)
  · rintro last front nonempty ⟨back, rfl⟩
    by_contra excluded
    have closed := inherits.append nonempty (eq_true_of_ne_false excluded) back
    rw [last (List.append_ne_nil_of_left_ne_nil nonempty back)] at closed
    cases closed

/-- Where a file stands at the end of a way, the way is entered if it is open and its names pass. -/
theorem entersAlong_iff {tree : FileTree} {names : List String} {content : ByteArray}
    (stands : tree.sight names = .file content) :
    search.EntersAlong excludes place tree names ↔
      IsOpen excludes place names ∧ search.PassesNames names := by
  induction names generalizing place tree with
  | nil => simp [EntersAlong, isOpen_nil, passesNames_nil]
  | cons name names induction =>
      cases tree with
      | file _ => cases stands
      | directory entries =>
          rw [sight_directory_cons] at stands
          cases inEntries : entries.lookup name with
          | none =>
              rw [inEntries] at stands
              cases stands
          | some entry =>
              rw [inEntries] at stands
              have found := find_singleton_eq_ok_iff.mpr inEntries
              have onward : search.EntersAlong excludes place (.directory entries) (name :: names) ↔
                  search.enters excludes place name entry.isDirectory = true ∧
                    search.EntersAlong excludes (place ++ [name]) entry names := by
                simp [EntersAlong, found]
              rw [onward, enters_iff, induction stands, isOpen_cons_iff]
              -- The entry is the file itself, or a directory that leads on to it.
              cases names with
              | nil =>
                  cases entry with
                  | directory _ => cases stands
                  | file _ =>
                      rw [isDirectory, passesNames_singleton_iff]
                      simp [isOpen_nil, passesNames_nil]
              | cons next names =>
                  cases entry with
                  | file _ => cases stands
                  | directory _ =>
                      rw [isDirectory, passesNames_cons_iff (List.cons_ne_nil _ _),
                        and_and_and_comm]

end ComponentFiles.Search

end SnapshotGen
