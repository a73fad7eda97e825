import Mathlib.Data.List.TakeWhile
import SnapshotGen.Text.Blank

/-!
Pieces of a text between separators, and the piece behind the last one.
-/

namespace SnapshotGen.Text

variable {separator : Char}

theorem splitAt_separator_cons (cs : List Char) :
    splitAt separator (separator :: cs) = [] :: splitAt separator cs := by
  simp [splitAt]

theorem splitAt_ne_nil (cs : List Char) : splitAt separator cs ≠ [] := by
  cases cs with
  | nil => simp [splitAt]
  | cons c rest =>
      by_cases isSeparator : c = separator
      · simp [splitAt, isSeparator]
      · cases pieces : splitAt separator rest <;> simp [splitAt, isSeparator, pieces]

theorem splitAt_cons_of_ne {c : Char} (plain : c ≠ separator) (cs : List Char) :
    splitAt separator (c :: cs) = (splitAt separator cs).modifyHead (c :: ·) := by
  cases pieces : splitAt separator cs with
  | nil => exact absurd pieces (splitAt_ne_nil cs)
  | cons piece more => simp [splitAt, plain, pieces]

theorem splitAt_append_separator (front back : List Char) :
    splitAt separator (front ++ separator :: back) =
      splitAt separator front ++ splitAt separator back := by
  induction front with
  | nil => simp [splitAt]
  | cons c front induction =>
      by_cases isSeparator : c = separator
      · subst isSeparator
        rw [List.cons_append, splitAt_separator_cons, splitAt_separator_cons, induction,
          List.cons_append]
      · rw [List.cons_append, splitAt_cons_of_ne isSeparator, splitAt_cons_of_ne isSeparator,
          induction]
        cases pieces : splitAt separator front with
        | nil => exact absurd pieces (splitAt_ne_nil front)
        | cons piece more => rfl

theorem splitAt_of_not_mem {cs : List Char} (free : separator ∉ cs) :
    splitAt separator cs = [cs] := by
  induction cs with
  | nil => rfl
  | cons c cs induction =>
      rw [List.mem_cons, not_or] at free
      rw [splitAt_cons_of_ne (Ne.symm free.1), induction free.2]
      rfl

/-- A text has no separator, or one that is the last. -/
theorem exists_last_separator (separator : Char) (cs : List Char) :
    separator ∉ cs ∨ ∃ front back, cs = front ++ separator :: back ∧ separator ∉ back := by
  induction cs with
  | nil => simp
  | cons c cs induction =>
      rcases induction with free | ⟨front, back, rfl, backFree⟩
      · by_cases isSeparator : c = separator
        · exact .inr ⟨[], cs, by simp [isSeparator], free⟩
        · exact .inl (by simp [free, Ne.symm isSeparator])
      · exact .inr ⟨c :: front, back, by simp, backFree⟩

theorem takeWhile_reverse_of_not_mem {cs : List Char} (free : separator ∉ cs) :
    (cs.reverse.takeWhile (· ≠ separator)).reverse = cs := by
  rw [List.takeWhile_eq_self_iff.mpr, List.reverse_reverse]
  intro c member
  have present : c ∈ cs := List.mem_reverse.mp member
  have different : c ≠ separator := fun same => free (same ▸ present)
  simp [different]

theorem takeWhile_reverse_append (front : List Char) {back : List Char}
    (backFree : separator ∉ back) :
    ((front ++ separator :: back).reverse.takeWhile (· ≠ separator)).reverse = back := by
  have reversed : (front ++ separator :: back).reverse =
      back.reverse ++ separator :: front.reverse := by simp
  rw [reversed, List.takeWhile_append_of_pos]
  · simp
  · intro c member
    have present : c ∈ back := List.mem_reverse.mp member
    have different : c ≠ separator := fun same => backFree (same ▸ present)
    simp [different]

theorem take_append_separator (front back : List Char) :
    (front ++ separator :: back).take
      ((front ++ separator :: back).length - back.length - 1) = front := by
  have : (front ++ separator :: back).length - back.length - 1 = front.length := by
    simp only [List.length_append, List.length_cons]
    omega
  rw [this, List.take_left]

theorem length_ne_append_separator (front back : List Char) :
    back.length ≠ (front ++ separator :: back).length := by
  simp only [List.length_append, List.length_cons]
  omega

theorem append_separator_inj {front back front' back' : List Char}
    (backFree : separator ∉ back) (backFree' : separator ∉ back')
    (same : front ++ separator :: back = front' ++ separator :: back') :
    front = front' ∧ back = back' := by
  have sameBack : back = back' := by
    rw [← takeWhile_reverse_append front backFree, same,
      takeWhile_reverse_append front' backFree']
  subst sameBack
  exact ⟨List.append_cancel_right same, rfl⟩

end SnapshotGen.Text
