import SnapshotGen.Proofs.ComponentFiles.Selected
import SnapshotGen.Proofs.Path.Trailing
import SnapshotGen.Proofs.TestNames

/-!
The dialect of a path, told by what follows its last dot, against the one that its extension tells.
The two differ where the last dot is not that of an extension; they agree on all files that a search
finds below a directory.
-/

namespace SnapshotGen.Script.Dialect

variable {path name folder : List Char} {dialect : Dialect}

def ofPathExtension? (path : List Char) : Option Dialect :=
  (Path.extension? path).bind ofExtension?

theorem ofPathExtension?_eq_some_iff : ofPathExtension? path = some dialect ↔
    ∃ extension, Path.extension? path = some extension ∧ ofExtension? extension = some dialect :=
  Option.bind_eq_some_iff

/-- The extension of a dialect with no name in front of it: alone, or behind a dot that begins the
last component. -/
inductive Bare : List Char → Prop
  | alone {extension : List Char} {dialect : Dialect}
      (known : ofExtension? extension = some dialect) : Bare extension
  | hidden {folder extension : List Char} {dialect : Dialect}
      (known : ofExtension? extension = some dialect)
      (separated : folder = [] ∨ folder.getLast? = some '/') : Bare (folder ++ '.' :: extension)

/-- A name with the extension of a dialect, behind which the path goes on without any component. -/
inductive Trailed : List Char → Prop
  | mk {front extension rest : List Char} {dialect : Dialect}
      (known : ofExtension? extension = some dialect) (named : front ≠ [])
      (inName : front.getLast? ≠ some '/') (isVoid : Path.IsVoid rest) :
      Trailed (front ++ '.' :: extension ++ '/' :: rest)

theorem extension?_of_bare (bare : Bare path) : Path.extension? path = none := by
  cases bare with
  | alone known => exact (endsInLetter known).2
  | hidden known separated =>
      obtain ⟨nonempty, free, plain⟩ := plain_of_ofExtension? known
      exact Path.extension?_hidden nonempty free plain separated

theorem exists_ofPath?_of_bare (bare : Bare path) : ∃ dialect, ofPath? path = some dialect := by
  cases bare with
  | @alone _ dialect known =>
      obtain ⟨_, free, _⟩ := plain_of_ofExtension? known
      exact ⟨dialect, by rw [ofPath?_of_not_mem free, known]⟩
  | @hidden _ _ dialect known separated =>
      obtain ⟨_, free, _⟩ := plain_of_ofExtension? known
      exact ⟨dialect, by rw [ofPath?_append _ free, known]⟩

theorem exists_ofPathExtension?_of_trailed (trailed : Trailed path) :
    ∃ dialect, ofPathExtension? path = some dialect := by
  obtain @⟨front, extension, rest, dialect, known, named, inName, isVoid⟩ := trailed
  obtain ⟨nonempty, free, plain⟩ := plain_of_ofExtension? known
  have sameParts : Path.parts (front ++ '.' :: extension ++ '/' :: rest) =
      Path.parts (front ++ '.' :: extension) := Path.parts_append_void (by simp) isVoid
  have extended : Path.extension? (front ++ '.' :: extension ++ '/' :: rest) = some extension := by
    rw [← Path.extension?_append nonempty free plain named inName, Path.extension?, Path.fileName?,
      sameParts]
    rfl
  exact ⟨dialect, ofPathExtension?_eq_some_iff.mpr ⟨extension, extended, known⟩⟩

theorem ofPath?_of_trailed (trailed : Trailed path) : ofPath? path = none := by
  obtain ⟨_, _, _, isVoid⟩ := trailed
  rw [Option.eq_none_iff_forall_ne_some]
  intro dialect known
  obtain ⟨c, ends, noSeparator, noDot⟩ := getLast?_of_ofPath? known
  rcases Path.getLast?_append_void isVoid with isLast | isLast
  · exact noSeparator (Option.some.inj (ends.symm.trans isLast))
  · exact noDot (Option.some.inj (ends.symm.trans isLast))

theorem bare_of_no_extension (known : ofPath? path = some dialect)
    (noExtension : Path.extension? path = none) : Bare path := by
  rcases Text.exists_last_separator '.' path with free | ⟨front, back, rfl, free⟩
  · rw [ofPath?_of_not_mem free] at known
    exact .alone known
  · rw [ofPath?_append front free] at known
    by_cases separated : front = [] ∨ front.getLast? = some '/'
    · exact .hidden known separated
    · obtain ⟨named, inName⟩ := not_or.mp separated
      obtain ⟨nonempty, _, plain⟩ := plain_of_ofExtension? known
      rw [Path.extension?_append nonempty free plain named inName] at noExtension
      cases noExtension

theorem trailed_of_extension {extension : List Char} (unknown : ofPath? path = none)
    (extended : Path.extension? path = some extension)
    (known : ofExtension? extension = some dialect) : Trailed path := by
  obtain ⟨stem, named, _, nonempty, free⟩ := Path.fileName?_of_extension? extended
  have stemPlain : '/' ∉ stem := fun isSeparator =>
    (Path.isName_of_fileName? named).plain (List.mem_append_left _ isSeparator)
  obtain ⟨folder, _, rfl | ⟨rest, isVoid, rfl⟩⟩ := Path.exists_trailing named
  · rw [← List.append_assoc, ofPath?_append _ free, known] at unknown
    cases unknown
  · rw [← List.append_assoc]
    refine .mk known (by simp [nonempty]) (fun ends => stemPlain ?_) isVoid
    rw [List.getLast?_append, List.getLast?_eq_some_getLast nonempty, Option.some_or] at ends
    exact Option.some.inj ends ▸ List.getLast_mem nonempty

theorem agrees_iff (path : List Char) :
    ofPath? path = ofPathExtension? path ↔ ¬Bare path ∧ ¬Trailed path := by
  constructor
  · intro agrees
    refine ⟨fun bare => ?_, fun trailed => ?_⟩
    · obtain ⟨dialect, known⟩ := exists_ofPath?_of_bare bare
      rw [agrees, ofPathExtension?, extension?_of_bare bare] at known
      cases known
    · obtain ⟨dialect, known⟩ := exists_ofPathExtension?_of_trailed trailed
      rw [← agrees, ofPath?_of_trailed trailed] at known
      cases known
  · rintro ⟨notBare, notTrailed⟩
    cases told : ofPath? path with
    | some dialect =>
        cases extended : Path.extension? path with
        | none => exact absurd (bare_of_no_extension told extended) notBare
        | some extension =>
            rw [ofPathExtension?, extended, Option.bind_some,
              ofExtension?_of_ofPath? told extended]
    | none =>
        symm
        rw [Option.eq_none_iff_forall_ne_some]
        intro dialect known
        obtain ⟨extension, extended, known⟩ := ofPathExtension?_eq_some_iff.mp known
        exact notTrailed (trailed_of_extension told extended known)

theorem not_trailed_append (isName : Path.IsName name)
    (separated : folder = [] ∨ folder.getLast? = some '/') : ¬Trailed (folder ++ name) := by
  generalize whole : folder ++ name = path
  rintro ⟨_, _, _, isVoid⟩
  exact Path.append_name_ne_append_void isName separated isVoid whole

open ComponentFiles (Search)

variable {search : Search} {disk : Disk} {root file : String}

/-- Below a directory every path that is found ends in a name. -/
theorem exists_name_of_mem_collect (wellFormed : disk.tree.WellFormed)
    (isDirectory : disk.isDirectory root = true) (member : file ∈ search.collect disk root) :
    ∃ folder name, Path.IsName name ∧ (folder = [] ∨ folder.getLast? = some '/') ∧
      file.toList = folder ++ name := by
  unfold Disk.isDirectory at isDirectory
  split at isDirectory
  case h_2 => cases isDirectory
  rename_i tree found
  obtain ⟨start, placed, isFound, _⟩ := Search.find_eq_ok_iff.mp found
  obtain ⟨names, selects⟩ :=
    (Search.mem_collect_iff_selects wellFormed placed found).mp member
  obtain ⟨content, stands⟩ := selects.stands
  rcases List.eq_nil_or_concat names with rfl | ⟨front, last, rfl⟩
  · rw [FileTree.sight_append isFound] at stands
    cases tree with
    | file _ => cases isDirectory
    | directory entries => cases stands
  · have isName : Path.IsName last.toList :=
      wellFormed.isName_of_sight stands last (by simp)
    obtain ⟨folder, separated, joined⟩ :=
      Path.exists_join_eq (Path.along root.toList front) isName
    refine ⟨folder, last.toList, isName, separated, ?_⟩
    rw [selects.path, ← joined, Path.along, Path.along, List.concat_eq_append, List.foldl_concat]

theorem agrees_of_mem_collect (wellFormed : disk.tree.WellFormed)
    (isDirectory : disk.isDirectory root = true) (member : file ∈ search.collect disk root) :
    ofPath? file.toList = ofPathExtension? file.toList := by
  obtain ⟨folder, name, isName, separated, path⟩ :=
    exists_name_of_mem_collect wellFormed isDirectory member
  rw [agrees_iff]
  constructor
  · intro bare
    obtain ⟨_, _, collected⟩ := Search.collects_of_mem wellFormed member
    obtain ⟨extension, _, extended⟩ := Search.isWanted_iff.mp collected.wanted
    rw [extension?_of_bare bare] at extended
    cases extended
  · rw [path]
    exact not_trailed_append isName separated

/-- What follows the last dot of a path and the extension of its last component tell the same
dialect, or none, just if the path is no bare extension of a dialect and does not go on behind one.
That is so of every file that a search finds below a directory. -/
theorem ofPath?_agrees (path : String) :
    (ofPath? path.toList = ofPathExtension? path.toList ↔
      ¬Bare path.toList ∧ ¬Trailed path.toList) ∧
    ∀ (search : Search) (disk : Disk) (root : String), disk.tree.WellFormed →
      disk.isDirectory root = true → path ∈ search.collect disk root →
      ofPath? path.toList = ofPathExtension? path.toList :=
  ⟨agrees_iff path.toList, fun _ _ _ => agrees_of_mem_collect⟩

theorem ofPath?_agrees_app :
    let disk := ComponentFiles.Search.sourcesDisk
    let search : Search := ⟨["js"], true, Ignore.excludes []⟩
    disk.tree.WellFormed ∧ disk.isDirectory "." = true ∧
      "./src/App.js" ∈ search.collect disk "." ∧
      ofPath? "./src/App.js".toList = ofPathExtension? "./src/App.js".toList := by
  intro disk search
  have wellFormed : disk.tree.WellFormed := by
    simp only [disk, Search.sourcesDisk, FileTree.WellFormed, FileTree.EntriesWellFormed]
    decide
  have member : "./src/App.js" ∈ search.collect disk "." := by decide +kernel
  exact ⟨wellFormed, rfl, member,
    (ofPath?_agrees "./src/App.js").2 search disk "." wellFormed rfl member⟩

/-- A file without an extension is taken for a script, and so is one that is hidden; a path that
ends with a separator is not. -/
theorem dialect_without_extension :
    (ofPath? "js".toList = some .javaScript ∧ Path.extension? "js".toList = none) ∧
      (ofPath? "src/.tsx".toList = some .tsx ∧ Path.extension? "src/.tsx".toList = none) ∧
      (ofPath? "Card.js/".toList = none ∧ ofPathExtension? "Card.js/".toList = some .javaScript) := by
  decide

end SnapshotGen.Script.Dialect
