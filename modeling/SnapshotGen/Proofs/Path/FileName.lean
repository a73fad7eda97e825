import SnapshotGen.Proofs.Path.Parts

/-!
File names in front of their last dot and behind it.
-/

namespace SnapshotGen.Path

open Text

theorem splitName_append {stem extension : List Char} (nonempty : stem ≠ [])
    (free : '.' ∉ extension) :
    splitName (stem ++ '.' :: extension) = (stem, some extension) := by
  simp only [splitName, takeWhile_reverse_append _ free, take_append_separator,
    length_ne_append_separator, nonempty, decide_false, Bool.or_self, Bool.false_eq_true, if_false]

theorem splitName_of_not_mem {name : List Char} (free : '.' ∉ name) :
    splitName name = (name, none) := by
  simp only [splitName, takeWhile_reverse_of_not_mem free, decide_true, Bool.true_or, if_true]

theorem splitName_hidden {extension : List Char} (free : '.' ∉ extension) :
    splitName ('.' :: extension) = ('.' :: extension, none) := by
  have behind :
      ((['.'] ++ extension).reverse.takeWhile (· ≠ '.')).reverse = extension :=
    takeWhile_reverse_append [] free
  have front : (['.'] ++ extension).take
      ((['.'] ++ extension).length - extension.length - 1) = [] :=
    take_append_separator [] extension
  rw [List.singleton_append] at behind front
  simp only [splitName, behind, front, decide_true, Bool.or_true, if_true]

/-- A file name is split at its last dot, or has no extension. -/
theorem splitName_cases (name : List Char) :
    splitName name = (name, none) ∨ ∃ stem extension, name = stem ++ '.' :: extension ∧ stem ≠ [] ∧
      '.' ∉ extension ∧ splitName name = (stem, some extension) := by
  rcases exists_last_separator '.' name with free | ⟨stem, extension, rfl, free⟩
  · exact .inl (splitName_of_not_mem free)
  · by_cases hidden : stem = []
    · subst hidden
      exact .inl (splitName_hidden free)
    · exact .inr ⟨stem, extension, rfl, hidden, free, splitName_append hidden free⟩

theorem eq_append_of_splitName {name stem extension : List Char}
    (split : splitName name = (stem, some extension)) :
    name = stem ++ '.' :: extension ∧ stem ≠ [] ∧ '.' ∉ extension := by
  rcases splitName_cases name with whole | ⟨front, back, same, nonempty, free, parted⟩
  · cases whole.symm.trans split
  · cases parted.symm.trans split
    exact ⟨same, nonempty, free⟩

theorem fileName?_of_extension? {path extension : List Char}
    (extended : extension? path = some extension) :
    ∃ stem, fileName? path = some (stem ++ '.' :: extension) ∧ fileStem? path = some stem ∧
      stem ≠ [] ∧ '.' ∉ extension := by
  obtain ⟨name, named, split⟩ := Option.bind_eq_some_iff.mp extended
  have both : splitName name = ((splitName name).1, some extension) := Prod.ext rfl split
  obtain ⟨eq, nonempty, free⟩ := eq_append_of_splitName both
  exact ⟨(splitName name).1, by rw [named, ← eq], by rw [fileStem?, named]; rfl, nonempty, free⟩

/-- A path that ends in neither a separator nor a dot ends in its file name. -/
theorem trimRight_eq_self {path : List Char} {c : Char} (ends : path.getLast? = some c)
    (noSeparator : c ≠ '/') (noDot : c ≠ '.') : parent?.trimRight path = path := by
  obtain ⟨front, rfl⟩ := List.getLast?_eq_some_iff.mp ends
  rw [parent?.trimRight, List.reverse_append, List.reverse_singleton, List.singleton_append]
  have kept : parent?.go (c :: front.reverse) = c :: front.reverse := by
    unfold parent?.go
    split <;> simp_all
  rw [kept]
  simp

end SnapshotGen.Path
