import Mathlib.Data.List.DropRight
import SnapshotGen.Proofs.Path.Pieces

/-!
Blanks around a text, and texts that are joined from pieces: what they begin and end with, what
stands in them, and the lines that they fall into again.
-/

namespace SnapshotGen.Text

theorem isBlank_getLast_trim {cs : List Char} {c : Char} (isLast : c ∈ (trim cs).getLast?) :
    isBlank c = false := by
  have notEmpty : (trimStart cs).rdropWhile isBlank ≠ [] := by
    intro nothing
    have same : trim cs = [] := nothing
    rw [same] at isLast
    cases isLast
  have last := List.rdropWhile_last_not isBlank (trimStart cs) notEmpty
  have same : (trim cs).getLast? = some (((trimStart cs).rdropWhile isBlank).getLast notEmpty) :=
    List.getLast?_eq_some_getLast notEmpty
  rw [same] at isLast
  cases isLast
  simpa using last

theorem trim_eq_self {cs : List Char} (front : ∀ c ∈ cs.head?, isBlank c = false)
    (back : ∀ c ∈ cs.getLast?, isBlank c = false) : trim cs = cs := by
  have same : trimStart cs = cs := by
    cases cs with
    | nil => rfl
    | cons c rest => exact List.dropWhile_cons_of_neg (by simp [front c rfl])
  have lastStays : cs.rdropWhile isBlank = cs := by
    rw [List.rdropWhile_eq_self_iff]
    intro notEmpty
    simp [back _ (List.getLast?_eq_some_getLast notEmpty)]
  unfold trim
  rw [same]
  exact lastStays

theorem trim_append_left (blanks : List Char) (areBlank : blanks.all isBlank)
    (cs : List Char) : trim (blanks ++ cs) = trim cs := by
  unfold trim trimStart
  rw [List.dropWhile_append_of_pos (List.all_eq_true.mp areBlank)]

theorem trim_append_right (blanks : List Char) (areBlank : blanks.all isBlank)
    (cs : List Char) : trim (cs ++ blanks) = trim cs := by
  have dropped (front : List Char) : trimEnd (front ++ blanks) = trimEnd front := by
    unfold trimEnd
    rw [List.reverse_append, List.dropWhile_append_of_pos (by simpa using areBlank)]
  unfold trim trimStart
  rw [List.dropWhile_append]
  split
  · rename_i allBlank
    have noneLeft : blanks.dropWhile isBlank = [] :=
      List.dropWhile_eq_nil_iff.mpr (List.all_eq_true.mp areBlank)
    rw [noneLeft, List.isEmpty_iff.mp allBlank]
  · exact dropped _

section

variable {separator : Char} {glue piece last : List Char} {pieces : List (List Char)}

theorem intercalate_concat (notEmpty : pieces ≠ []) :
    List.intercalate glue (pieces ++ [last]) = List.intercalate glue pieces ++ glue ++ last := by
  induction pieces with
  | nil => contradiction
  | cons first more induction =>
      cases more with
      | nil => simp
      | cons second more =>
          have behind := induction (List.cons_ne_nil second more)
          rw [List.cons_append, List.cons_append, List.intercalate_cons_cons, ← List.cons_append,
            behind, List.intercalate_cons_cons]
          simp only [List.append_assoc]

theorem getLast?_intercalate (isLast : pieces.getLast? = some last) (notEmpty : last ≠ []) :
    (List.intercalate glue pieces).getLast? = last.getLast? := by
  obtain ⟨front, rfl⟩ := List.getLast?_eq_some_iff.mp isLast
  cases front with
  | nil => simp
  | cons first more =>
      rw [intercalate_concat (List.cons_ne_nil first more), List.getLast?_append,
        List.getLast?_eq_some_getLast notEmpty, Option.some_or]

/-- What has no separator in it does not stand across one. -/
theorem infix_of_infix_append_cons {front back : List Char} (free : separator ∉ piece)
    (notEmpty : piece ≠ []) (isInfix : piece <:+: front ++ separator :: back) :
    piece <:+: front ∨ piece <:+: back := by
  have noPrefix {part : List Char} (partNotEmpty : part ≠ []) (partFree : separator ∉ part) :
      ¬part <+: separator :: back := by
    intro isPrefix
    obtain ⟨_, rfl, _⟩ := (List.prefix_cons_iff.mp isPrefix).resolve_left partNotEmpty
    exact partFree (.head _)
  rw [List.infix_append_iff, List.infix_cons_iff] at isInfix
  rcases isInfix with inFront | (isPrefix | inBack) | ⟨left, right, rfl, isSuffix, isPrefix⟩
  · exact .inl inFront
  · exact absurd isPrefix (noPrefix notEmpty free)
  · exact .inr inBack
  · cases right with
    | nil =>
        rw [List.append_nil]
        exact .inl isSuffix.isInfix
    | cons c right =>
        exact absurd isPrefix (noPrefix (List.cons_ne_nil c right)
          fun member => free (List.mem_append_right left member))

theorem exists_infix_of_infix_intercalate (free : separator ∉ piece) (notEmpty : piece ≠ [])
    (isInfix : piece <:+: List.intercalate [separator] pieces) :
    ∃ other ∈ pieces, piece <:+: other := by
  induction pieces with
  | nil => exact absurd (List.infix_nil.mp isInfix) notEmpty
  | cons first more induction =>
      cases more with
      | nil => exact ⟨first, .head _, by simpa using isInfix⟩
      | cons second more =>
          rw [List.intercalate_cons_cons, List.append_assoc, List.singleton_append] at isInfix
          rcases infix_of_infix_append_cons free notEmpty isInfix with inFirst | inMore
          · exact ⟨first, .head _, inFirst⟩
          · obtain ⟨other, member, inOther⟩ := induction inMore
            exact ⟨other, .tail _ member, inOther⟩

theorem splitAt_intercalate (notEmpty : pieces ≠ [])
    (unbroken : ∀ piece ∈ pieces, separator ∉ piece) :
    splitAt separator (List.intercalate [separator] pieces) = pieces := by
  induction pieces with
  | nil => contradiction
  | cons first more induction =>
      obtain ⟨firstUnbroken, moreUnbroken⟩ := List.forall_mem_cons.mp unbroken
      cases more with
      | nil => rw [List.intercalate_singleton, splitAt_of_not_mem firstUnbroken]
      | cons second more =>
          rw [List.intercalate_cons_cons, List.append_assoc, List.singleton_append,
            splitAt_append_separator, splitAt_of_not_mem firstUnbroken,
            induction (List.cons_ne_nil second more) moreUnbroken, List.singleton_append]

/-- Lines that are joined come apart again, if none of them has an ending of its own and the last is
not empty. -/
theorem lines_intercalate (unbroken : ∀ piece ∈ pieces, '\n' ∉ piece)
    (noReturn : ∀ piece ∈ pieces, piece.getLast? ≠ some '\r') (isLast : pieces.getLast? = some last)
    (notEmpty : last ≠ []) : lines (List.intercalate ['\n'] pieces) = pieces := by
  obtain ⟨front, rfl⟩ := List.getLast?_eq_some_iff.mp isLast
  have kept : front.map lines.withoutReturn = front := by
    refine (List.map_congr_left fun piece member => ?_).trans (List.map_id front)
    exact if_neg (noReturn piece (List.mem_append_left _ member))
  unfold lines
  rw [splitAt_intercalate (by simp) unbroken]
  simp [kept, notEmpty]

end

end SnapshotGen.Text
