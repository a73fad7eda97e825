import SnapshotGen.Proofs.TestNames

/-!
The names of tests as a grammar: a text, a marker, and the extension of a script, whatever the case
of their letters.
-/

namespace SnapshotGen

namespace Text

/-- The final form of sigma as the other one. -/
def plainSigma (c : Char) : Char :=
  if c = 'ς' then 'σ' else c

theorem map_plainSigma_go (afterLetter : Bool) (cs : List Char) :
    (lowerWords.go afterLetter cs).map plainSigma = (lower cs).map plainSigma := by
  induction cs generalizing afterLetter with
  | nil => rfl
  | cons c cs induction =>
      have written (final : Bool) :
          (if c == 'Σ' && final then ['ς'] else lowerChar c).map plainSigma =
            (lowerChar c).map plainSigma := by
        split
        · rename_i isFinal
          rw [beq_iff_eq.mp (Bool.and_eq_true_iff.mp isFinal).1]
          decide +kernel
        · rfl
      rw [lowerWords.go, lower, List.flatMap_cons, List.map_append, List.map_append, written,
        induction]
      rfl

/-- Lower case with regard to the ends of words differs in the form of sigma alone. -/
theorem map_plainSigma_lowerWords (cs : List Char) :
    (lowerWords cs).map plainSigma = (lower cs).map plainSigma :=
  map_plainSigma_go false cs

theorem map_plainSigma_eq_iff {cs text : List Char} (free : 'σ' ∉ text) (free' : 'ς' ∉ text) :
    cs.map plainSigma = text ↔ cs = text := by
  induction cs generalizing text with
  | nil => simp [eq_comm]
  | cons c cs induction =>
      cases text with
      | nil => simp
      | cons d text =>
          simp only [List.mem_cons, not_or] at free free'
          have sameChar : plainSigma c = d ↔ c = d := by
            unfold plainSigma
            split
            · rename_i isFinal
              exact iff_of_false free.1 (isFinal ▸ free'.1)
            · rfl
          rw [List.map_cons, List.cons.injEq, List.cons.injEq, sameChar, induction free.2 free'.2]

end Text

namespace TestName

/-- A text that is not empty, a marker of tests, and the extension of a script. -/
def IsMarked (name : List Char) : Prop :=
  ∃ stem marker extension, stem ≠ [] ∧ marker ∈ [".test.", ".spec."] ∧
    extension ∈ ["js", "jsx", "ts", "tsx", "mjs", "cjs"] ∧
    name = stem ++ marker.toList ++ extension.toList

theorem isMarked_map_plainSigma_iff {name : List Char} :
    IsMarked (name.map Text.plainSigma) ↔ IsMarked name := by
  have plainMarker : ∀ marker ∈ [".test.", ".spec."],
      'σ' ∉ marker.toList ∧ 'ς' ∉ marker.toList := by decide
  have plainExtension : ∀ extension ∈ ["js", "jsx", "ts", "tsx", "mjs", "cjs"],
      'σ' ∉ extension.toList ∧ 'ς' ∉ extension.toList := by decide
  constructor
  · rintro ⟨stem, marker, extension, nonempty, isMarker, isExtension, same⟩
    obtain ⟨front, back, rfl, isFront, isBack⟩ := List.map_eq_append_iff.mp same
    obtain ⟨start, middle, rfl, rfl, isMiddle⟩ := List.map_eq_append_iff.mp isFront
    obtain ⟨free, free'⟩ := plainMarker marker isMarker
    obtain ⟨extensionFree, extensionFree'⟩ := plainExtension extension isExtension
    refine ⟨start, marker, extension, mt (congrArg _) nonempty, isMarker, isExtension, ?_⟩
    rw [(Text.map_plainSigma_eq_iff free free').mp isMiddle,
      (Text.map_plainSigma_eq_iff extensionFree extensionFree').mp isBack]
  · rintro ⟨stem, marker, extension, nonempty, isMarker, isExtension, rfl⟩
    obtain ⟨free, free'⟩ := plainMarker marker isMarker
    obtain ⟨extensionFree, extensionFree'⟩ := plainExtension extension isExtension
    refine ⟨stem.map Text.plainSigma, marker, extension, ?_, isMarker, isExtension, ?_⟩
    · exact mt List.map_eq_nil_iff.mp nonempty
    · rw [List.map_append, List.map_append, (Text.map_plainSigma_eq_iff free free').mpr rfl,
        (Text.map_plainSigma_eq_iff extensionFree extensionFree').mpr rfl]

theorem splitLast?_of_not_mem {name : List Char} (free : '.' ∉ name) : splitLast? name = none := by
  simp only [splitLast?, Text.takeWhile_reverse_of_not_mem free, if_true]

theorem splitLast?_eq_some_iff {name stem extension : List Char} :
    splitLast? name = some (stem, extension) ↔ name = stem ++ '.' :: extension ∧ '.' ∉ extension := by
  constructor
  · intro split
    rcases Text.exists_last_separator '.' name with free | ⟨front, back, rfl, free⟩
    · rw [splitLast?_of_not_mem free] at split
      contradiction
    · rw [splitLast?_append free] at split
      cases split
      exact ⟨rfl, free⟩
  · rintro ⟨rfl, free⟩
    exact splitLast?_append free

/-- What stands up to the last dot ends in a marker and has something in front of it. -/
theorem any_markers_iff {stem : List Char} :
    (markers.any fun marker =>
        marker.toList.isSuffixOf (stem ++ ['.']) && marker.length < stem.length + 1) ↔
      ∃ front marker, front ≠ [] ∧ marker ∈ markers ∧
        stem ++ ['.'] = front ++ marker.toList := by
  simp only [List.any_eq_true, Bool.and_eq_true, List.isSuffixOf_iff_suffix, decide_eq_true_eq]
  constructor
  · rintro ⟨marker, isMarker, ⟨front, ends⟩, longer⟩
    refine ⟨front, marker, ?_, isMarker, ends.symm⟩
    rintro rfl
    have sameLength := congrArg List.length ends
    simp only [List.nil_append, String.length_toList, List.length_append,
      List.length_singleton] at sameLength
    omega
  · rintro ⟨front, marker, nonempty, isMarker, ends⟩
    refine ⟨marker, isMarker, ⟨front, ends.symm⟩, ?_⟩
    have sameLength := congrArg List.length ends
    have longer := List.length_pos_iff.mpr nonempty
    simp only [String.length_toList, List.length_append, List.length_singleton] at sameLength
    omega

theorem isFile_iff_isMarked {name : String} : isFile name ↔ IsMarked (Text.lower name.toList) := by
  unfold isFile
  constructor
  · intro isTest
    split at isTest
    · contradiction
    · rename_i stem extension split
      obtain ⟨isScript, isMarker⟩ := Bool.and_eq_true_iff.mp isTest
      obtain ⟨front, marker, nonempty, isMarker, ends⟩ := any_markers_iff.mp isMarker
      obtain ⟨same, _⟩ := splitLast?_eq_some_iff.mp split
      refine ⟨front, marker, String.ofList extension, nonempty, isMarker,
        List.contains_iff_mem.mp isScript, ?_⟩
      rw [same, ← ends, String.toList_ofList, List.append_assoc, List.singleton_append]
  · rintro ⟨front, marker, extension, nonempty, isMarker, isExtension, same⟩
    have endsInDot : ∃ word, marker.toList = word ++ ['.'] := by
      simp only [List.mem_cons, List.not_mem_nil, or_false] at isMarker
      rcases isMarker with rfl | rfl
      · exact ⟨".test".toList, by decide⟩
      · exact ⟨".spec".toList, by decide⟩
    obtain ⟨word, isWord⟩ := endsInDot
    have isScript : String.ofList extension.toList ∈ scriptExtensions := by
      rwa [String.ofList_toList]
    have split : splitLast? (Text.lower name.toList) = some (front ++ word, extension.toList) := by
      refine splitLast?_eq_some_iff.mpr ⟨?_, (lower_scriptExtension isScript).2⟩
      rw [same, isWord]
      simp
    rw [split]
    refine Bool.and_eq_true_iff.mpr ⟨List.contains_iff_mem.mpr isScript, any_markers_iff.mpr ?_⟩
    exact ⟨front, marker, nonempty, isMarker, by rw [isWord, List.append_assoc]⟩

/-- The names of tests are just those that are marked in lower case, and it makes no difference
whether a sigma that ends a word has its final form there. -/
theorem isFile_iff (name : String) :
    (isFile name ↔ IsMarked (Text.lower name.toList)) ∧
      (isFile name ↔ IsMarked (Text.lowerWords name.toList)) := by
  refine ⟨isFile_iff_isMarked, ?_⟩
  rw [isFile_iff_isMarked, ← isMarked_map_plainSigma_iff, ← Text.map_plainSigma_lowerWords,
    isMarked_map_plainSigma_iff]

end TestName

end SnapshotGen
