import SnapshotGen.Proofs.Script.Careful
import SnapshotGen.Script.Module

/-!
Comments of a script. A block comment ends where a slash first follows a star, and a comment that a
script opens with is the first thing that is read of it.
-/

namespace SnapshotGen.Script

/-- The end of a block comment is sought behind a text that does not hold one. -/
theorem blockTail?_append {front more : List Char} (isOpen : ¬['*', '/'] <:+: front)
    (noSlash : more.head? ≠ some '/') :
    blockTail? (front ++ more) = (blockTail? more).map (· + front.length) := by
  induction front with
  | nil => simp
  | cons c front induction =>
      rw [List.infix_cons_iff, not_or] at isOpen
      obtain ⟨notHere, notLater⟩ := isOpen
      have goesOn : ∀ rest, c = '*' → front ++ more = '/' :: rest → False := by
        rintro rest rfl same
        cases front with
        | nil => exact noSlash (by rw [← List.nil_append more, same, List.head?_cons])
        | cons next front =>
            obtain ⟨rfl, -⟩ := List.cons.inj same
            exact notHere ⟨front, rfl⟩
      rw [List.cons_append, blockTail?.eq_2 _ _ goesOn, induction notLater, Option.map_map]
      rfl

namespace Reader

variable {α : Type} {p : Reader α} {c middle : Cursor} {first : α}

theorem orElse_of_done (q : Reader α) (firstDone : p c = .done first middle) :
    (p <|> q) c = .done first middle := by
  change Reader.orElse p (fun _ => q) c = _
  unfold Reader.orElse
  rw [firstDone]

theorem exists_orElse_pure_eq_done (p : Reader α) (given : α) (c : Cursor) :
    ∃ found next, (p <|> pure given) c = .done found next := by
  change ∃ found next, Reader.orElse p (fun _ => pure given) c = .done found next
  unfold Reader.orElse
  split
  · exact ⟨_, _, rfl⟩
  · exact ⟨_, _, rfl⟩

theorem exists_repeatUpTo_eq_done (p : Reader α) (n : Nat) (c : Cursor) :
    ∃ items next, repeatUpTo n p c = .done items next := by
  cases n with
  | zero => exact ⟨[], c, rfl⟩
  | succ n => exact exists_orElse_pure_eq_done _ [] c

/-- What is read first stays the first item. -/
theorem exists_many_eq_done (firstDone : p c = .done first middle) :
    ∃ more next, many p c = .done (first :: more) next := by
  obtain ⟨more, next, moreDone⟩ := exists_repeatUpTo_eq_done p c.left middle
  refine ⟨more, next, orElse_of_done _ ?_⟩
  exact bind_eq_done.mpr ⟨first, middle, firstDone, bind_eq_done.mpr ⟨more, next, moreDone, rfl⟩⟩

end Reader

namespace Module

open Reader

variable {dialect : Dialect} {program : Node} {c : Cursor} {text : List Char} {n : Nat}

/-- The node of the comment that a text begins with. -/
def commentAt (text : List Char) (n : Nat) : Node :=
  .mk .comment (String.ofList (text.take n)) []

theorem discard_hashBang_of_comment (isComment : commentLength? c.rest = some n) :
    (discard hashBang) c = .done () c := by
  obtain ⟨rest, isSlash⟩ := exists_slash_of_commentLength? isComment
  refine bind_eq_done.mpr ⟨none, c, ?_, rfl⟩
  unfold hashBang
  rw [isSlash]
  rfl

theorem item_of_comment (G : Grammar) (counted : c.Counted)
    (isComment : commentLength? c.rest = some n) :
    item G c = .done (commentAt c.rest n) (c.drop n) := by
  obtain ⟨rest, isSlash⟩ := exists_slash_of_commentLength? isComment
  have noBlank : (c.rest.takeWhile isSpace).length = 0 := by
    rw [isSlash, List.takeWhile_cons_of_neg (by decide), List.length_nil]
  have text : c.textTo (c.drop n) = String.ofList (c.rest.take n) := by
    rw [Cursor.textTo, Cursor.drop_left, Nat.sub_sub_eq_min, counted, Nat.min_comm,
      ← List.take_eq_take_min]
  unfold item
  dsimp only
  rw [noBlank]
  have same : c.drop 0 = c := rfl
  rw [same, isComment, commentAt, ← text]

theorem exists_childNodes_of_readFrom (counted : c.Counted)
    (isComment : commentLength? c.rest = some n)
    (read : (readFrom dialect c).value? = some program) :
    ∃ items, program.childNodes = commentAt c.rest n :: items := by
  unfold readFrom at read
  cases done : whole (grammar dialect (4 * c.left + 16)) c with
  | stuck far =>
      rw [done] at read
      contradiction
  | done node next =>
      rw [done] at read
      cases read
      unfold whole at done
      obtain ⟨_, _, atHere, done⟩ := bind_eq_done.mp done
      cases atHere
      obtain ⟨_, middle, atFirst, done⟩ := bind_eq_done.mp done
      cases (discard_hashBang_of_comment isComment).symm.trans atFirst
      obtain ⟨items, _, itemsDone, done⟩ := bind_eq_done.mp done
      obtain ⟨_, _, _, done⟩ := bind_eq_done.mp done
      obtain ⟨more, _, firstIsComment⟩ :=
        exists_many_eq_done (item_of_comment (grammar dialect (4 * c.left + 16)) counted isComment)
      cases firstIsComment.symm.trans itemsDone
      cases done
      refine ⟨more, ?_⟩
      rw [Node.childNodes, Node.children, List.map_map]
      exact List.map_id _

/-- The first part of a script that opens with a comment is that comment. -/
theorem exists_childNodes_of_read? (isComment : commentLength? text = some n)
    (read : read? dialect text = some program) :
    ∃ items, program.childNodes = commentAt text n :: items := by
  have counted (gap : Option Gap) : (Cursor.start text gap).Counted := rfl
  unfold read? at read
  split at read
  · rename_i next done
    cases read
    exact exists_childNodes_of_readFrom (counted none) isComment (by rw [done]; rfl)
  · unfold repaired? filled? at read
    obtain ⟨node, filled, kept⟩ := Option.bind_eq_some_iff.mp read
    obtain ⟨token, _, fromFiller⟩ := List.exists_of_findSome?_eq_some filled
    split at kept
    · contradiction
    · cases kept
      exact exists_childNodes_of_readFrom (counted _) isComment fromFiller

end Module

end SnapshotGen.Script
