import SnapshotGen.Proofs.Path.FileName
import SnapshotGen.Script.Dialect
import SnapshotGen.TestName

/-!
The test of a script is named as tests are, stands beside the script, and tells which script it
tests.
-/

namespace SnapshotGen

namespace Text

theorem lowerChar_ne_nil (c : Char) : lowerChar c ≠ [] := by
  unfold lowerChar mapByTable
  split
  · simp
  · split
    · rename_i long
      simp only [longLower, List.lookup_cons] at long
      split at long <;> simp_all
      simp [← long]
    · split <;> simp

theorem lower_append (front back : List Char) :
    lower (front ++ back) = lower front ++ lower back :=
  List.flatMap_append

theorem lower_ne_nil {cs : List Char} (nonempty : cs ≠ []) : lower cs ≠ [] := by
  cases cs with
  | nil => contradiction
  | cons c cs =>
      rw [lower, List.flatMap_cons]
      simp [lowerChar_ne_nil c]

end Text

namespace Script.Dialect

theorem mem_scriptExtensions {extension : List Char} {dialect : Dialect}
    (known : ofExtension? extension = some dialect) :
    String.ofList extension ∈ TestName.scriptExtensions := by
  unfold ofExtension? at known
  split at known <;> first | contradiction | decide

theorem endsInLetter {extension : List Char} {dialect : Dialect}
    (known : ofExtension? extension = some dialect) :
    (∃ c, extension.getLast? = some c ∧ c ≠ '/' ∧ c ≠ '.') ∧ Path.extension? extension = none := by
  unfold ofExtension? at known
  split at known <;> first | contradiction | exact ⟨⟨_, rfl, by decide, by decide⟩, by decide⟩

theorem plain_of_ofExtension? {extension : List Char} {dialect : Dialect}
    (known : ofExtension? extension = some dialect) :
    extension ≠ [] ∧ '.' ∉ extension ∧ '/' ∉ extension := by
  unfold ofExtension? at known
  split at known <;> first | contradiction | decide

theorem ofPath?_of_not_mem {path : List Char} (free : '.' ∉ path) :
    ofPath? path = ofExtension? path := by
  rw [ofPath?, Text.takeWhile_reverse_of_not_mem free]

theorem ofPath?_append (front : List Char) {back : List Char} (free : '.' ∉ back) :
    ofPath? (front ++ '.' :: back) = ofExtension? back := by
  rw [ofPath?, Text.takeWhile_reverse_append _ free]

theorem getLast?_of_ofPath? {path : List Char} {dialect : Dialect}
    (known : ofPath? path = some dialect) :
    ∃ c, path.getLast? = some c ∧ c ≠ '/' ∧ c ≠ '.' := by
  rcases Text.exists_last_separator '.' path with free | ⟨front, back, rfl, free⟩
  · rw [ofPath?_of_not_mem free] at known
    exact (endsInLetter known).1
  · rw [ofPath?_append front free] at known
    obtain ⟨⟨c, ends, noSeparator, noDot⟩, _⟩ := endsInLetter known
    refine ⟨c, ?_, noSeparator, noDot⟩
    rw [List.getLast?_append, List.getLast?_cons, ends, Option.getD_some, Option.some_or]

/-- Where a path has an extension, that tells the dialect. -/
theorem ofExtension?_of_ofPath? {path extension : List Char} {dialect : Dialect}
    (known : ofPath? path = some dialect) (extended : Path.extension? path = some extension) :
    ofExtension? extension = some dialect := by
  obtain ⟨c, ends, noSeparator, noDot⟩ := getLast?_of_ofPath? known
  obtain ⟨stem, named, _, _, free⟩ := Path.fileName?_of_extension? extended
  obtain ⟨_, folder, eq, _⟩ := Path.trimRight_eq_append named
  rw [Path.trimRight_eq_self ends noSeparator noDot, ← List.append_assoc] at eq
  rwa [eq, ofPath?_append _ free] at known

end Script.Dialect

namespace TestName

def ofParts (stem extension : List Char) : List Char :=
  stem ++ ".test.".toList ++ extension

theorem ofParts_eq (stem extension : List Char) :
    ofParts stem extension = (stem ++ ".test".toList) ++ '.' :: extension := by
  simp [ofParts]

theorem ofParts_inj {stem extension stem' extension' : List Char} (free : '.' ∉ extension)
    (free' : '.' ∉ extension') (same : ofParts stem extension = ofParts stem' extension') :
    stem = stem' ∧ extension = extension' := by
  rw [ofParts_eq, ofParts_eq] at same
  obtain ⟨sameFront, sameBack⟩ := Text.append_separator_inj free free' same
  exact ⟨List.append_cancel_right sameFront, sameBack⟩

theorem ofParts_ne (stem extension : List Char) :
    ofParts stem extension ≠ stem ++ '.' :: extension := by
  intro same
  have := congrArg List.length same
  simp [ofParts] at this
  omega

theorem isName_ofParts {stem extension : List Char}
    (isName : Path.IsName (stem ++ '.' :: extension)) : Path.IsName (ofParts stem extension) := by
  have long : 6 ≤ (ofParts stem extension).length := by
    simp [ofParts]
    omega
  refine ⟨?_, ?_, ?_, ?_⟩
  · rintro same
    simp [same] at long
  · rintro same
    simp [same] at long
  · rintro same
    simp [same] at long
  · have plain := isName.plain
    simp only [List.mem_append, List.mem_cons, not_or] at plain
    simp only [ofParts, List.mem_append, not_or]
    exact ⟨⟨plain.1, by decide⟩, plain.2.2⟩

theorem splitLast?_append {stem extension : List Char} (free : '.' ∉ extension) :
    splitLast? (stem ++ '.' :: extension) = some (stem, extension) := by
  simp only [splitLast?, Text.takeWhile_reverse_append _ free, Text.take_append_separator,
    Text.length_ne_append_separator, if_false]

theorem lower_scriptExtension {extension : List Char}
    (script : String.ofList extension ∈ scriptExtensions) :
    Text.lower extension = extension ∧ '.' ∉ extension := by
  have known : extension ∈ scriptExtensions.map String.toList := by
    rw [← String.toList_ofList (l := extension)]
    exact List.mem_map_of_mem script
  revert known
  generalize extension = cs
  simp only [scriptExtensions, List.map_cons, List.map_nil, List.mem_cons, List.not_mem_nil,
    or_false]
  rintro (rfl | rfl | rfl | rfl | rfl | rfl) <;> decide

theorem isFile_ofParts {stem extension : List Char} (nonempty : stem ≠ [])
    (script : String.ofList extension ∈ scriptExtensions) :
    isFile (String.ofList (ofParts stem extension)) = true := by
  obtain ⟨isLower, free⟩ := lower_scriptExtension script
  have marked : Text.lower ".test".toList = ".test".toList := by decide
  have dot : Text.lower ['.'] = ['.'] := by decide
  have lowered : Text.lower (ofParts stem extension) =
      (Text.lower stem ++ ".test".toList) ++ '.' :: extension := by
    have : ofParts stem extension = stem ++ ".test".toList ++ ['.'] ++ extension := by
      simp [ofParts]
    rw [this, Text.lower_append, Text.lower_append, Text.lower_append, marked, dot, isLower]
    simp
  have stemLower : Text.lower stem ≠ [] := Text.lower_ne_nil nonempty
  rw [isFile, String.toList_ofList, lowered, splitLast?_append free]
  simp only [List.contains_iff_mem.mpr script, Bool.true_and, List.any_eq_true]
  refine ⟨".test.", by decide, ?_⟩
  have ends : ".test.".toList <:+ Text.lower stem ++ ".test".toList ++ ['.'] :=
    ⟨Text.lower stem, by simp⟩
  have longer : 0 < (Text.lower stem).length := List.length_pos_iff.mpr stemLower
  have markerLength : ".test.".length = 6 := by decide
  have frontLength : ".test".toList.length = 5 := by decide
  simp only [List.isSuffixOf_iff_suffix.mpr ends, Bool.true_and, decide_eq_true_eq,
    List.length_append, markerLength, frontLength]
  omega

theorem forSource_of_extension? {source extension : List Char}
    (extended : Path.extension? source = some extension) :
    ∃ stem, Path.fileName? source = some (stem ++ '.' :: extension) ∧ stem ≠ [] ∧
      '.' ∉ extension ∧ forSource source = Path.withFileName source (ofParts stem extension) := by
  obtain ⟨stem, named, hasStem, nonempty, free⟩ := Path.fileName?_of_extension? extended
  refine ⟨stem, named, nonempty, free, ?_⟩
  simp only [forSource, hasStem, extended, Option.getD_some, ofParts]

end TestName

end SnapshotGen
