import SnapshotGen.CommandLine.Arguments
import SnapshotGen.Proofs.Outcomes

/-!
Arguments that say how much is to be said. One of them more or less leaves a request for the same
work.
-/

namespace SnapshotGen.CommandLine

namespace Progress

variable {progress other next otherNext : Progress} {part : Part}

def readOne (progress : Progress) (argument : String) : Except Stop Progress :=
  match argument.toList with
  | '-' :: '-' :: rest => progress.long rest
  | '-' :: c :: rest => progress.short (c :: rest)
  | _ => progress.plain argument

theorem read_cons {argument : String} (plain : argument ≠ "--") (more : List String) :
    progress.read (argument :: more) = progress.readOne argument >>= (·.read more) := by
  have notDashes : argument.toList ≠ ['-', '-'] := fun same => plain (String.toList_inj.mp same)
  rw [read, readOne]
  split <;> simp_all

theorem eq_of_add (added : progress.add part = .ok next) :
    next = ⟨progress.settled ++ [part], none⟩ := by
  unfold add at added
  split at added
  · split at added
    · cases added
    · cases added
      rfl
  · cases added
    rfl

theorem eq_of_settle (settled : progress.settle = .ok next) :
    next = ⟨progress.settled ++ progress.held.toList, none⟩ := by
  obtain ⟨parts, held⟩ := progress
  unfold settle at settled
  dsimp only at settled ⊢
  split at settled
  · cases settled
    rw [Option.toList_none, List.append_nil]
  · cases settled
  · exact eq_of_add settled

/-- The same arguments were read, and one part more: it is settled, and so is all in front of it. -/
inductive Beside (part : Part) : Progress → Progress → Prop
  | within (front back : List Part) (held : Option Part) :
      Beside part ⟨front ++ back, held⟩ ⟨front ++ part :: back, held⟩
  | last {progress : Progress} (settles : progress.awaitsValue = false) :
      Beside part progress ⟨progress.settled ++ progress.held.toList ++ [part], none⟩

theorem Beside.settle (beside : Beside part progress other) (settled : progress.settle = .ok next)
    (otherSettled : other.settle = .ok otherNext) :
    ∃ front back, next = ⟨front ++ back, none⟩ ∧ otherNext = ⟨front ++ part :: back, none⟩ := by
  rw [eq_of_settle settled, eq_of_settle otherSettled]
  cases beside with
  | within front back held => exact ⟨front, back ++ held.toList, by simp, by simp⟩
  | last => exact ⟨progress.settled ++ progress.held.toList, [], by simp, by simp⟩

theorem Beside.give (beside : Beside part progress other) {given : Part}
    (gave : progress.give given = .ok next) (otherGave : other.give given = .ok otherNext) :
    Beside part next otherNext := by
  obtain ⟨middle, settled, added⟩ := bind_eq_ok.mp gave
  obtain ⟨otherMiddle, otherSettled, otherAdded⟩ := bind_eq_ok.mp otherGave
  obtain ⟨front, back, rfl, rfl⟩ := beside.settle settled otherSettled
  rw [eq_of_add added, eq_of_add otherAdded, List.append_assoc, List.append_assoc,
    List.cons_append]
  exact .within front (back ++ [given]) none

theorem Beside.hold (beside : Beside part progress other) {given : Part}
    (holds : progress.hold given = .ok next) (otherHolds : other.hold given = .ok otherNext) :
    Beside part next otherNext := by
  obtain ⟨middle, settled, same⟩ := bind_eq_ok.mp holds
  obtain ⟨otherMiddle, otherSettled, otherSame⟩ := bind_eq_ok.mp otherHolds
  obtain ⟨front, back, rfl, rfl⟩ := beside.settle settled otherSettled
  cases same
  cases otherSame
  exact .within front back (some given)

theorem eq_give_of_flag {switch : Switch} (flagged : progress.flag switch = .ok next) :
    progress.give (.switch switch none) = .ok next := by
  unfold flag at flagged
  obtain ⟨middle, settled, added⟩ := bind_eq_ok.mp flagged
  refine bind_eq_ok.mpr ⟨middle, settled, ?_⟩
  cases switch <;> first | exact added | contradiction

theorem Beside.flag (beside : Beside part progress other) {switch : Switch}
    (flagged : progress.flag switch = .ok next) (otherFlagged : other.flag switch = .ok otherNext) :
    Beside part next otherNext :=
  beside.give (eq_give_of_flag flagged) (eq_give_of_flag otherFlagged)

theorem Beside.long (beside : Beside part progress other) {cs : List Char}
    (read : progress.long cs = .ok next) (otherRead : other.long cs = .ok otherNext) :
    Beside part next otherNext := by
  unfold Progress.long at read otherRead
  dsimp only at read otherRead
  split at read
  · cases read
  · rename_i switch known
    rw [known] at otherRead
    dsimp only at otherRead
    split at read
    · rename_i value takes hasValue
      rw [takes, hasValue] at otherRead
      exact beside.give read otherRead
    · rename_i takes hasValue
      rw [takes, hasValue] at otherRead
      exact beside.hold read otherRead
    · rename_i takes hasValue
      rw [takes, hasValue] at otherRead
      exact beside.flag read otherRead
    · cases read

theorem Beside.short {cs : List Char} (beside : Beside part progress other)
    (read : progress.short cs = .ok next) (otherRead : other.short cs = .ok otherNext) :
    Beside part next otherNext := by
  induction cs generalizing progress other with
  | nil =>
      cases read
      cases otherRead
      exact beside
  | cons letter rest induction =>
      unfold Progress.short at read otherRead
      split at read
      · cases read
      · rename_i switch known
        rw [known] at otherRead
        dsimp only at otherRead
        split at read
        · rename_i takes
          rw [if_pos takes] at otherRead
          split at read
          · exact beside.hold read otherRead
          · exact beside.give read otherRead
          · rename_i noValue notEmpty
            split at otherRead
            · contradiction
            · exact absurd rfl (notEmpty _)
            · exact beside.give read otherRead
        · rename_i takes
          rw [if_neg takes] at otherRead
          obtain ⟨middle, flagged, onwards⟩ := bind_eq_ok.mp read
          obtain ⟨otherMiddle, otherFlagged, otherOnwards⟩ := bind_eq_ok.mp otherRead
          exact induction (beside.flag flagged otherFlagged) onwards otherOnwards

theorem Beside.path (beside : Beside part progress other) {argument : String}
    (read : progress.path argument = .ok next) (otherRead : other.path argument = .ok otherNext) :
    Beside part next otherNext := by
  unfold Progress.path at read otherRead
  split at read
  · cases read
  · split at otherRead
    · cases otherRead
    · exact beside.hold read otherRead

theorem plain_eq_path {argument : String} (settles : progress.awaitsValue = false) :
    progress.plain argument = progress.path argument := by
  unfold awaitsValue at settles
  unfold Progress.plain
  split
  · rename_i isHeld
    rw [isHeld] at settles
    cases settles
  · rfl

theorem Beside.plain (beside : Beside part progress other) {argument : String}
    (read : progress.plain argument = .ok next) (otherRead : other.plain argument = .ok otherNext) :
    Beside part next otherNext := by
  cases awaits : progress.awaitsValue with
  | false =>
      have otherSettles : other.awaitsValue = false := by
        cases beside with
        | within => exact awaits
        | last => rfl
      rw [plain_eq_path awaits] at read
      rw [plain_eq_path otherSettles] at otherRead
      exact beside.path read otherRead
  | true =>
      cases beside with
      | last settles => rw [settles] at awaits; contradiction
      | within front back held =>
          unfold awaitsValue at awaits
          dsimp only at awaits
          split at awaits
          · cases read
            cases otherRead
            exact .within front back _
          · contradiction

theorem Beside.readOne (beside : Beside part progress other) {argument : String}
    (read : progress.readOne argument = .ok next)
    (otherRead : other.readOne argument = .ok otherNext) : Beside part next otherNext := by
  unfold Progress.readOne at read otherRead
  generalize argument.toList = cs at read otherRead
  split at read
  · exact beside.long read otherRead
  · split at otherRead
    · rename_i notDash _ _ same
      cases same
      exact (notDash rfl).elim
    · rename_i same
      cases same
      exact beside.short read otherRead
    · rename_i noLetter
      exact (noLetter _ _ rfl).elim
  · split at otherRead
    · rename_i noLetter
      exact (noLetter _ _ rfl).elim
    · rename_i noLetter
      exact (noLetter _ _ rfl).elim
    · exact beside.plain read otherRead

theorem Beside.paths {more : List String} (beside : Beside part progress other)
    (read : progress.paths more = .ok next) (otherRead : other.paths more = .ok otherNext) :
    ∃ front back, next.settled = front ++ back ∧ otherNext.settled = front ++ part :: back := by
  induction more generalizing progress other with
  | nil =>
      obtain ⟨front, back, rfl, rfl⟩ := beside.settle read otherRead
      exact ⟨front, back, rfl, rfl⟩
  | cons argument more induction =>
      obtain ⟨middle, first, onwards⟩ := bind_eq_ok.mp read
      obtain ⟨otherMiddle, otherFirst, otherOnwards⟩ := bind_eq_ok.mp otherRead
      exact induction (beside.path first otherFirst) onwards otherOnwards

/-- What follows is read alike with one part more. -/
theorem Beside.read {more : List String} (beside : Beside part progress other)
    (read : progress.read more = .ok next) (otherRead : other.read more = .ok otherNext) :
    ∃ front back, next.settled = front ++ back ∧ otherNext.settled = front ++ part :: back := by
  induction more generalizing progress other with
  | nil =>
      obtain ⟨front, back, rfl, rfl⟩ := beside.settle read otherRead
      exact ⟨front, back, rfl, rfl⟩
  | cons argument more induction =>
      by_cases isDashes : argument = "--"
      · subst isDashes
        exact beside.paths read otherRead
      · rw [read_cons isDashes] at read otherRead
        obtain ⟨middle, first, onwards⟩ := bind_eq_ok.mp read
        obtain ⟨otherMiddle, otherFirst, otherOnwards⟩ := bind_eq_ok.mp otherRead
        exact induction (beside.readOne first otherFirst) onwards otherOnwards

end Progress

end SnapshotGen.CommandLine
