import SnapshotGen.Script.Grammar

/-!
Places in a text. Dropping characters leaves the text behind them, and looking for an operator
passes nothing but blanks and comments.
-/

namespace SnapshotGen.Script

namespace Cursor

@[simp] theorem drop_rest (c : Cursor) (n : Nat) : (c.drop n).rest = c.rest.drop n := rfl

@[simp] theorem drop_left (c : Cursor) (n : Nat) : (c.drop n).left = c.left - n := rfl

theorem drop_drop (c : Cursor) (m n : Nat) : (c.drop m).drop n = c.drop (m + n) := by
  simp [drop, Nat.sub_sub]

def Counted (c : Cursor) : Prop :=
  c.left = c.rest.length

theorem Counted.drop {c : Cursor} (counted : c.Counted) (n : Nat) : (c.drop n).Counted := by
  rw [Counted, drop_left, drop_rest, List.length_drop]
  exact congrArg (· - n) counted

theorem Counted.drop_lt {c : Cursor} (counted : c.Counted) (notOver : c.rest ≠ []) {n : Nat}
    (positive : 0 < n) : (c.drop n).left < c.left := by
  have some : 0 < c.left := counted ▸ List.length_pos_iff.mpr notOver
  rw [drop_left]
  omega

theorem Counted.left_le {c next : Cursor} (counted : c.Counted) (nextCounted : next.Counted)
    (behind : next.rest <:+ c.rest) : next.left ≤ c.left := by
  rw [counted, nextCounted]
  exact behind.length_le

theorem skip_suffix (c : Cursor) : c.skip.rest <:+ c.rest :=
  List.drop_suffix _ _

variable {start middle last : Cursor}

theorem textTo_toList (start last : Cursor) :
    (start.textTo last).toList = start.rest.take (start.left - last.left) := by
  rw [textTo, String.toList_ofList]

/-- The text up to a later place begins with the text up to an earlier one. -/
theorem textTo_eq_append (start : Cursor) (later : last.left ≤ middle.left) :
    ∃ more, start.textTo last = start.textTo middle ++ more := by
  have prefixed : start.rest.take (start.left - middle.left) <+:
      start.rest.take (start.left - last.left) :=
    List.take_prefix_take_left (Nat.sub_le_sub_left later _)
  obtain ⟨more, eq⟩ := prefixed
  refine ⟨String.ofList more, ?_⟩
  rw [← String.toList_inj, String.toList_append, textTo_toList, textTo_toList,
    String.toList_ofList, eq]

theorem textTo_self (c : Cursor) : c.textTo c = "" := by
  rw [textTo, Nat.sub_self]
  rfl

theorem textTo_append (counted : start.Counted) (middleCounted : middle.Counted)
    (lastCounted : last.Counted) (toMiddle : middle.rest <:+ start.rest)
    (toLast : last.rest <:+ middle.rest) :
    start.textTo last = start.textTo middle ++ middle.textTo last := by
  obtain ⟨front, startEq⟩ := toMiddle
  obtain ⟨back, middleEq⟩ := toLast
  rw [← String.toList_inj, String.toList_append, textTo_toList, textTo_toList, textTo_toList,
    counted, middleCounted, lastCounted, ← startEq, ← middleEq]
  simp only [List.length_append]
  have whole : front.length + (back.length + last.rest.length) - last.rest.length =
      front.length + back.length := by omega
  have first : front.length + (back.length + last.rest.length) -
      (back.length + last.rest.length) = front.length := by omega
  have second : back.length + last.rest.length - last.rest.length = back.length := by omega
  rw [whole, first, second, List.take_left, List.take_left, ← List.append_assoc,
    ← List.length_append, List.take_left]

theorem length_textTo (counted : start.Counted) (last : Cursor) :
    (start.textTo last).length = start.left - last.left := by
  rw [← String.length_toList, textTo_toList, List.length_take, ← counted]
  omega

end Cursor

/-- What is left of a text behind blanks and comments. -/
def tokens (cs : List Char) : List Char :=
  cs.drop (triviaLength true cs)

theorem triviaLength_of_unit_zero {markup : Bool} {c : Char} {rest : List Char}
    (unit : triviaUnit markup (c :: rest) = 0) : triviaLength markup (c :: rest) = 0 := by
  rw [triviaLength.eq_def]
  dsimp only
  rw [unit]

theorem triviaLength_of_unit_succ {markup : Bool} {c : Char} {rest : List Char} {n : Nat}
    (unit : triviaUnit markup (c :: rest) = n + 1) :
    triviaLength markup (c :: rest) = n + 1 + triviaLength markup (rest.drop n) := by
  rw [triviaLength.eq_def]
  dsimp only
  rw [unit]

theorem tokens_drop_unit (cs : List Char) : tokens (cs.drop (triviaUnit true cs)) = tokens cs := by
  cases cs with
  | nil => simp
  | cons c rest =>
      cases unit : triviaUnit true (c :: rest) with
      | zero => rw [List.drop_zero]
      | succ n =>
          rw [tokens, tokens, triviaLength_of_unit_succ unit, List.drop_succ_cons,
            Nat.add_right_comm, List.drop_succ_cons, List.drop_drop]

theorem tokens_drop_blanks (cs : List Char) :
    tokens (cs.drop (cs.takeWhile isSpace).length) = tokens cs := by
  induction cs with
  | nil => rfl
  | cons c rest induction =>
      by_cases blank : isSpace c
      · have unit : triviaUnit true (c :: rest) = 1 := by simp [triviaUnit, blank]
        rw [List.takeWhile_cons_of_pos blank, List.length_cons, List.drop_succ_cons, induction,
          ← tokens_drop_unit (c :: rest), unit, List.drop_one, List.tail_cons]
      · rw [List.takeWhile_cons_of_neg blank, List.length_nil, List.drop_zero]

theorem exists_slash_of_commentLength? {cs : List Char} {n : Nat}
    (isComment : commentLength? cs = some n) : ∃ rest, cs = '/' :: rest := by
  unfold commentLength? at isComment
  split at isComment
  · exact ⟨_, rfl⟩
  · exact ⟨_, rfl⟩
  · contradiction

theorem tokens_drop_comment {cs : List Char} {n : Nat} (isComment : commentLength? cs = some n) :
    tokens (cs.drop n) = tokens cs := by
  have unit : triviaUnit true cs = n := by
    obtain ⟨rest, rfl⟩ := exists_slash_of_commentLength? isComment
    have noBlank : isSpace '/' = false := by decide
    simp [triviaUnit, noBlank, isComment]
  rw [← tokens_drop_unit cs, unit]

/-- Characters that begin no blank and no comment. -/
def isSolid (c : Char) : Bool :=
  !isSpace c && c != '/' && c != '<' && c != '-'

theorem tokens_of_isSolid {c : Char} (solid : isSolid c) (rest : List Char) :
    tokens (c :: rest) = c :: rest := by
  simp only [isSolid, Bool.and_eq_true, Bool.not_eq_true', bne_iff_ne] at solid
  obtain ⟨⟨⟨noBlank, noSlash⟩, noAngle⟩, noDash⟩ := solid
  have noComment : commentLength? (c :: rest) = none := by
    unfold commentLength?
    split
    · rename_i same
      cases same
      contradiction
    · rename_i same
      cases same
      contradiction
    · rfl
  have noMarkup : markupCommentLength? (c :: rest) = none := by
    unfold markupCommentLength?
    split
    · rename_i same
      cases same
      contradiction
    · rename_i same
      cases same
      contradiction
    · rfl
  have unit : triviaUnit true (c :: rest) = 0 := by
    simp [triviaUnit, noBlank, noComment, noMarkup]
  rw [tokens, triviaLength_of_unit_zero unit, List.drop_zero]

theorem Cursor.skip_rest (c : Cursor) : c.skip.rest = tokens c.rest := rfl

/-- Only blanks and comments stand in front of the place of an operator. -/
theorem Grammar.operatorPlace?_eq_some {G : Grammar} {tail : Bool} {c place : Cursor}
    (found : G.operatorPlace? tail c = some place) :
    ∃ n, place = c.drop n ∧ tokens place.rest = tokens c.rest := by
  unfold Grammar.operatorPlace? at found
  generalize c.left + 1 = fuel at found
  induction fuel generalizing c with
  | zero => simp [operatorPlace?.go] at found
  | succ fuel induction =>
      rw [operatorPlace?.go] at found
      split at found
      · contradiction
      · dsimp only at found
        split at found
        · rename_i n isComment
          obtain ⟨m, rfl, same⟩ := induction found
          refine ⟨_, by rw [Cursor.drop_drop, Cursor.drop_drop], ?_⟩
          rw [same, Cursor.drop_rest, tokens_drop_comment isComment, Cursor.drop_rest,
            tokens_drop_blanks]
        · cases found
          exact ⟨_, rfl, by rw [Cursor.drop_rest, tokens_drop_blanks]⟩

end SnapshotGen.Script
