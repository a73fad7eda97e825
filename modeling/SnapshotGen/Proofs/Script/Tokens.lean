import Mathlib.Data.List.Basic
import SnapshotGen.Proofs.Script.Careful

/-!
Tokens. Each one is read over blanks and comments in front of it, and its text is what it reads; the
marks that may be missing can also be taken to stand where they do not.
-/

namespace SnapshotGen.Script

theorem Cursor.Fit.drop {c : Cursor} (fit : c.Fit) (n : Nat) : (c.drop n).Fit :=
  ⟨fit.counted.drop n, fit.fillable⟩

theorem Cursor.Fit.skip {c : Cursor} (fit : c.Fit) : c.skip.Fit :=
  fit.drop _

namespace Reader

variable {given : Prop} {pace : Pace} [pace.MayStay] {c next : Cursor}

theorem lexeme_eq_done {length : List Char → Nat} {text : String}
    (done : lexeme length c = .done text next) :
    ∃ n, next = c.skip.drop (n + 1) ∧ text = c.skip.textTo next := by
  unfold lexeme at done
  dsimp only at done
  split at done
  · contradiction
  · rename_i n notZero
    cases done
    obtain ⟨m, same⟩ := Nat.exists_eq_succ_of_ne_zero notZero
    exact ⟨m, by rw [same], rfl⟩

theorem isToken_of_lexeme {length : List Char → Nat} {text : String} (fit : c.Fit)
    (done : lexeme length c = .done text next) : IsToken length text := by
  unfold lexeme at done
  dsimp only at done
  split at done
  · contradiction
  · rename_i notZero
    cases done
    refine ⟨c.skip.rest, notZero, ?_⟩
    have counted : c.skip.left = c.skip.rest.length := fit.skip.counted
    rw [Cursor.textTo, String.toList_ofList]
    change c.skip.rest.take (c.skip.left - (c.skip.left - _)) = _
    rw [counted, List.take_eq_take_iff]
    omega

theorem useGap_eq_done {token : String} (done : useGap token c = .done () next) :
    next.rest = c.rest ∧ next.left = c.left ∧ next.gap = none ∧
      ∃ gap ∈ c.gap, gap.token = token := by
  unfold useGap at done
  dsimp only at done
  split at done
  · rename_i gap isGap
    split at done
    · rename_i matched
      cases done
      simp only [Bool.and_eq_true, decide_eq_true_eq, beq_iff_eq] at matched
      exact ⟨rfl, rfl, rfl, gap, isGap, matched.2⟩
    · contradiction
  · contradiction

theorem writtenMark_eq_done {text : String} {barred : List Char}
    (done : writtenMark text barred c = .done () next) :
    text.toList <+: c.skip.rest ∧ next = c.skip.drop text.length := by
  unfold writtenMark at done
  dsimp only at done
  split at done
  · rename_i after isPrefix
    split at done
    · contradiction
    · cases done
      exact ⟨⟨after, List.append_eq_of_isPrefixOf?_eq_some isPrefix⟩, rfl⟩
  · contradiction

theorem sign_eq_done {text : String} {barred : List Char}
    (done : sign text barred c = .done () next) :
    text.toList <+: c.rest ∧ next = c.drop text.length := by
  unfold sign at done
  split at done
  · rename_i after isPrefix
    split at done
    · contradiction
    · cases done
      exact ⟨⟨after, List.append_eq_of_isPrefixOf?_eq_some isPrefix⟩, rfl⟩
  · contradiction

theorem keyword_eq_done {text : String} (done : keyword text c = .done () next) :
    word c = .done text next := by
  unfold keyword at done
  obtain ⟨start, middle, atHere, done⟩ := bind_eq_done.mp done
  cases atHere
  obtain ⟨found, after, wordDone, done⟩ := bind_eq_done.mp done
  split at done
  · obtain ⟨_, _, _, stuck⟩ := bind_eq_done.mp done
    contradiction
  · rename_i same
    cases done
    rw [wordDone]
    simp only [bne_iff_ne, ne_eq, not_not] at same
    rw [same]

theorem binding_eq_done {node : Node} (done : binding c = .done node next) :
    ∃ name, word c = .done name next ∧ node = .mk .identifier name [] := by
  unfold binding at done
  obtain ⟨start, middle, atMark, done⟩ := bind_eq_done.mp done
  cases atMark
  obtain ⟨name, after, wordDone, done⟩ := bind_eq_done.mp done
  split at done
  · obtain ⟨_, _, _, stuck⟩ := bind_eq_done.mp done
    contradiction
  · cases done
    exact ⟨name, wordDone, rfl⟩

/-- A mark that is never taken to stand where it does not. -/
class Unfillable (text : String) : Prop where
  notFiller : text ∉ Module.fillers

instance unfillable_parenthesis : Unfillable "(" := ⟨by decide⟩

instance unfillable_brace : Unfillable "\x7b" := ⟨by decide⟩

instance unfillable_bracket : Unfillable "[" := ⟨by decide⟩

instance unfillable_angle : Unfillable "<" := ⟨by decide⟩

instance unfillable_backtick : Unfillable "`" := ⟨by decide⟩

instance unfillable_at : Unfillable "@" := ⟨by decide⟩

instance careful_mark : Careful given pace mark where
  keeps _ _ _ _ fit done := by
    cases done
    exact ⟨fit, Pace.MayStay.refl _, trivial⟩

instance careful_ahead (p : List Char → Bool) : Careful given pace (ahead p) where
  keeps _ _ _ _ fit done := by
    cases done
    exact ⟨fit, Pace.MayStay.refl _, trivial⟩

instance careful_aheadChar (x : Char) : Careful given pace (aheadChar x) := by
  unfold aheadChar
  infer_instance

instance careful_node (kind : Kind) (start : Cursor) (children : List (Role × Node))
    [Holds kind.isPlain] [Faithful given children] :
    Careful given pace (node kind start children) where
  keeps holds _ _ _ fit done := by
    cases done
    have faithful := Faithful.isFaithful (a := children) holds
    refine ⟨fit, Pace.MayStay.refl _, ?_⟩
    exact Node.Faithful.of_children (Node.covers_of_isPlain Holds.holds)
      fun child isChild => (faithful child isChild).2

instance careful_lexeme (length : List Char → Nat) : Careful given .brisk (lexeme length) where
  keeps _ c _ _ fit done := by
    obtain ⟨n, rfl, -⟩ := lexeme_eq_done done
    exact ⟨fit.skip.drop _, List.drop_suffix _ _, trivial⟩

instance careful_word : Careful given .brisk word := by
  unfold word
  infer_instance

instance careful_useGap (token : String) : Careful given pace (useGap token) where
  keeps _ _ _ _ fit done := by
    obtain ⟨sameRest, sameLeft, noGap, _⟩ := useGap_eq_done done
    refine ⟨⟨?_, by simp [noGap]⟩, Pace.MayStay.stays sameRest, trivial⟩
    rw [Cursor.Counted, sameRest, sameLeft]
    exact fit.counted

instance careful_writtenMark (text : String) (barred : List Char) :
    Careful given .brisk (writtenMark text barred) where
  keeps _ _ _ _ fit done := by
    obtain ⟨-, rfl⟩ := writtenMark_eq_done done
    exact ⟨fit.skip.drop _, List.drop_suffix _ _, trivial⟩

instance careful_sign (text : String) (barred : List Char) :
    Careful given .loose (sign text barred) where
  keeps _ _ _ _ fit done := by
    obtain ⟨-, rfl⟩ := sign_eq_done done
    exact ⟨fit.drop _, List.drop_suffix _ _, trivial⟩

instance careful_markUnless (text : String) (barred : List Char) :
    Careful given pace (markUnless text barred) := by
  unfold markUnless
  infer_instance

instance careful_punct (text : String) : Careful given pace (punct text) := by
  unfold punct
  infer_instance

theorem punct_eq_done {text : String} [Unfillable text] (fit : c.Fit)
    (done : punct text c = .done () next) :
    text.toList <+: c.skip.rest ∧ next.rest = c.skip.rest.drop text.length := by
  unfold punct markUnless at done
  rcases orElse_eq_done done with done | ⟨far, done⟩
  · obtain ⟨isPrefix, rfl⟩ := writtenMark_eq_done done
    exact ⟨isPrefix, rfl⟩
  · obtain ⟨_, _, _, gap, isGap, rfl⟩ := useGap_eq_done done
    exact absurd (fit.fillable gap isGap) Unfillable.notFiller

instance careful_unfillable (text : String) [Unfillable text] :
    Careful given .brisk (punct text) where
  keeps holds _ _ _ fit done := by
    obtain ⟨nextFit, _⟩ := careful .steady holds fit done
    obtain ⟨-, sameRest⟩ := punct_eq_done fit done
    rw [Pace.Goes, sameRest]
    exact ⟨nextFit, List.drop_suffix _ _, trivial⟩

instance careful_equals : Careful given pace equals := by
  unfold equals
  infer_instance

instance careful_keyword (text : String) : Careful given .brisk (keyword text) where
  keeps holds _ _ _ fit done := by
    obtain ⟨nextFit, goes, _⟩ := careful .brisk holds fit (keyword_eq_done done)
    exact ⟨nextFit, goes, trivial⟩

instance careful_keywordNode (text : String) : Careful given .brisk (keywordNode text) := by
  unfold keywordNode
  infer_instance

instance careful_punctNode (text : String) : Careful given pace (punctNode text) := by
  unfold punctNode
  infer_instance

instance careful_binding : Careful given .brisk binding where
  keeps holds _ _ _ fit done := by
    obtain ⟨name, wordDone, rfl⟩ := binding_eq_done done
    obtain ⟨nextFit, goes, _⟩ := careful .brisk holds fit wordDone
    exact ⟨nextFit, goes, Node.Faithful.of_children (.inr (isToken_of_lexeme fit wordDone)) (by simp)⟩

/-- What comes behind a binding can rely on its name being one token. -/
instance (priority := high) careful_binding_bind {α : Type} [Textual α] {pace : Pace}
    (f : Node → Reader α)
    [∀ name, Careful ((given ∧ IsToken nameLength name.text) ∧ Textual.IsFaithful name) .loose
      (f name)] :
    Careful given pace (binding >>= f) where
  keeps holds _ _ _ fit done := by
    obtain ⟨name, middle, bindingDone, done⟩ := bind_eq_done.mp done
    obtain ⟨middleFit, toMiddle, isFaithful⟩ := careful .brisk holds fit bindingDone
    have isToken : IsToken nameLength name.text := by
      obtain ⟨text, wordDone, rfl⟩ := binding_eq_done bindingDone
      exact isToken_of_lexeme fit wordDone
    obtain ⟨nextFit, toNext, isFaithful'⟩ :=
      careful .loose (And.intro (And.intro holds isToken) isFaithful) middleFit done
    exact ⟨nextFit, (toMiddle.andThen toNext).weaken pace, isFaithful'⟩

instance careful_missingName : Careful given pace missingName := by
  unfold missingName
  infer_instance

theorem careful_token {kind : Kind} {length : List Char → Nat}
    (covers : ∀ text, IsToken length text → (Node.mk kind text []).Covers) :
    Careful given .brisk (do return .mk kind (← lexeme length) [] : Reader Node) where
  keeps holds _ _ _ fit done := by
    obtain ⟨text, middle, lexemeDone, done⟩ := bind_eq_done.mp done
    cases done
    obtain ⟨nextFit, goes, _⟩ := careful .brisk holds fit lexemeDone
    refine ⟨nextFit, goes, Node.Faithful.of_children (covers text ?_) (by simp)⟩
    exact isToken_of_lexeme fit lexemeDone

instance careful_anyName : Careful given .brisk anyName :=
  careful_token fun _ => .inr

instance careful_privateName : Careful given .brisk privateName :=
  careful_token fun _ => id

instance careful_number : Careful given .brisk number :=
  careful_token fun _ => id

instance careful_string : Careful given .brisk string := by
  unfold string
  infer_instance

instance careful_regex : Careful given .brisk regex := by
  unfold regex
  infer_instance

section Lists

variable {α : Type} [Textual α] (mark : String) (p : Reader α) [Careful given pace p]

instance careful_separated : Careful given pace (separated mark p) := by
  unfold separated
  infer_instance

instance careful_separated1 : Careful given pace (separated1 mark p) := by
  unfold separated1
  infer_instance

end Lists

end Reader

end SnapshotGen.Script
