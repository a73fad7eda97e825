import SnapshotGen.Proofs.Script.Extents

/-!
Productions keep what the readers of a grammar keep.
-/

namespace SnapshotGen.Script

open Reader

class Grammar.IsCareful (G : Grammar) : Prop where
  operation : ∀ level tail, Careful True .loose (G.operation level tail)
  operationSpans : ∀ level tail, Spans (G.operation level tail)
  statement : Careful True .loose G.statement
  bindingPattern : Careful True .loose G.bindingPattern
  element : Careful True .brisk G.element
  elementSpans : Spans G.element
  type : Careful True .loose G.type

theorem Reader.Careful.always {α : Type} [Textual α] {given : Prop} {pace : Pace} {p : Reader α}
    (isCareful : Careful True pace p) : Careful given pace p :=
  ⟨fun _ => isCareful.keeps trivial⟩

theorem Reader.left_of_many_eq_nil {α : Type} {p : Reader α} {c next : Cursor}
    (done : many p c = .done [] next) : next.left = c.left := by
  unfold many at done
  obtain ⟨_, _, atHere, done⟩ := bind_eq_done.mp done
  cases atHere
  unfold repeatUpTo at done
  rcases orElse_eq_done done with done | ⟨far, done⟩
  · obtain ⟨_, _, _, done⟩ := bind_eq_done.mp done
    obtain ⟨_, _, _, done⟩ := bind_eq_done.mp done
    cases done
  · cases done
    rfl

namespace Grammar

variable {given : Prop} (G : Grammar) [isCareful : G.IsCareful]

instance careful_operation (level : Nat) (tail : Bool) :
    Careful given .loose (G.operation level tail) :=
  (isCareful.operation level tail).always

instance spans_operation (level : Nat) (tail : Bool) : Spans (G.operation level tail) :=
  isCareful.operationSpans level tail

instance careful_statement : Careful given .loose G.statement :=
  isCareful.statement.always

instance careful_bindingPattern : Careful given .loose G.bindingPattern :=
  isCareful.bindingPattern.always

instance careful_element : Careful given .brisk G.element :=
  isCareful.element.always

instance spans_element : Spans G.element :=
  isCareful.elementSpans

instance careful_type : Careful given .loose G.type :=
  isCareful.type.always

instance careful_ifTyped {α : Type} [Textual α] {pace : Pace} [pace.MayStay] (p : Reader α)
    [Careful given pace p] : Careful given pace (G.ifTyped p) := by
  unfold ifTyped
  infer_instance

instance careful_expression (tail : Bool) : Careful given .loose (G.expression tail) := by
  unfold expression
  infer_instance

instance spans_expression (tail : Bool) : Spans (G.expression tail) := by
  unfold expression
  infer_instance

instance careful_sequence (tail : Bool) : Careful given .loose (G.sequence tail) := by
  unfold sequence
  infer_instance

instance spans_sequence (tail : Bool) : Spans (G.sequence tail) where
  spans fit done := by
    unfold sequence at done
    obtain ⟨start, _, atMark, done⟩ := bind_eq_done.mp done
    cases atMark
    obtain ⟨first, middle, firstDone, done⟩ := bind_eq_done.mp done
    obtain ⟨more, last, moreDone, done⟩ := bind_eq_done.mp done
    split at done
    · rename_i isEmpty
      cases done
      rw [List.isEmpty_iff.mp isEmpty] at moreDone
      rw [Spans.spans fit firstDone, Cursor.textTo, Cursor.textTo, left_of_many_eq_nil moreDone]
    · cases done
      rfl

instance careful_typeAnnotation : Careful given .loose G.typeAnnotation := by
  unfold typeAnnotation
  infer_instance

instance careful_spread : Careful given .loose (arguments.spread G) := by
  unfold arguments.spread
  infer_instance

instance careful_arguments : Careful given .brisk G.arguments := by
  unfold arguments
  infer_instance

instance careful_propertyName : Careful given .loose G.propertyName := by
  unfold propertyName
  infer_instance

instance careful_block : Careful given .brisk G.block := by
  unfold block
  infer_instance

instance careful_statementEnd (afterOperand : Bool) :
    Careful given .loose (G.statementEnd afterOperand) where
  keeps holds c _ _ fit done := by
    unfold statementEnd at done
    generalize c.left + 1 = fuel at done
    induction fuel generalizing c with
    | zero => contradiction
    | succ fuel induction =>
        unfold statementEnd.go at done
        dsimp only at done
        split at done
        · cases done
          exact ⟨fit, List.suffix_refl _, trivial⟩
        · split at done
          · obtain ⟨nextFit, goes, _⟩ := induction _ ((fit.drop _).drop _) done
            refine ⟨nextFit, goes.trans ?_, trivial⟩
            exact (List.drop_suffix _ _).trans (List.drop_suffix _ _)
          · exact careful .loose holds fit done

section Template

variable (substitution : Reader Node) [Careful given .loose substitution]

instance careful_templatePiece : Careful given .loose (templatePiece substitution) where
  keeps holds c _ _ fit done := by
    unfold templatePiece at done
    split at done
    · obtain ⟨nextFit, goes, isFaithful⟩ := careful .loose holds (fit.drop 2) done
      exact ⟨nextFit, goes.trans (List.drop_suffix _ _), isFaithful⟩
    · contradiction
    · contradiction
    · split at done
      · contradiction
      · cases done
        exact ⟨fit.drop _, List.drop_suffix _ _, Faithful.isFaithful holds⟩
    · cases done
      exact ⟨fit.drop _, List.drop_suffix _ _, Faithful.isFaithful holds⟩

instance careful_template : Careful given .brisk (template substitution) := by
  unfold template
  infer_instance

end Template

instance spans_template (substitution : Reader Node) : Spans (template substitution) := by
  unfold template
  infer_instance

instance careful_parenthesized : Careful given .brisk G.parenthesized where
  keeps holds c _ next fit done := by
    unfold parenthesized at done
    obtain ⟨start, _, atMark, done⟩ := bind_eq_done.mp done
    cases atMark
    obtain ⟨_, opened, openDone, done⟩ := bind_eq_done.mp done
    obtain ⟨inner, middle, innerDone, done⟩ := bind_eq_done.mp done
    obtain ⟨_, typed, typeDone, done⟩ := bind_eq_done.mp done
    obtain ⟨_, last, closeDone, done⟩ := bind_eq_done.mp done
    cases done
    obtain ⟨openedFit, _⟩ := careful .loose holds fit openDone
    obtain ⟨middleFit, toMiddle, innerFaithful⟩ := careful .loose holds openedFit innerDone
    obtain ⟨typedFit, toTyped, _⟩ := careful .loose holds middleFit typeDone
    obtain ⟨lastFit, toLast, _⟩ := careful .loose holds typedFit closeDone
    have behind : next.rest <:+ middle.rest := toLast.trans toTyped
    -- No opening parenthesis is filled in, so at least this character is not part of `inner`.
    obtain ⟨isPrefix, openedRest⟩ := punct_eq_done fit openDone
    have goes : next.rest <:+ c.skip.rest :=
      (behind.trans toMiddle).trans (openedRest ▸ List.drop_suffix _ _)
    refine ⟨lastFit, goes, Node.Faithful.of_children ⟨inner, rfl, ?_⟩
      (List.forall_mem_singleton.mpr innerFaithful)⟩
    have innerLength : inner.text.length = opened.skip.left - middle.left := by
      rw [Spans.spans openedFit innerDone, Cursor.length_textTo openedFit.skip.counted]
    have openedLeft : opened.left + 1 = c.skip.left := by
      rw [openedFit.counted, fit.skip.counted, openedRest, List.length_drop]
      have longEnough : 1 ≤ c.skip.rest.length := isPrefix.length_le
      exact Nat.sub_add_cancel longEnough
    have skipped : opened.skip.left ≤ opened.left := Nat.sub_le _ _
    have inside : middle.left ≤ opened.left := openedFit.counted.left_le middleFit.counted toMiddle
    have closed : next.left ≤ middle.left := middleFit.counted.left_le lastFit.counted behind
    change inner.text.length < (c.skip.textTo next).length
    rw [innerLength, Cursor.length_textTo fit.skip.counted]
    omega

instance spans_parenthesized : Spans G.parenthesized := by
  unfold parenthesized
  infer_instance

end Grammar

end SnapshotGen.Script
