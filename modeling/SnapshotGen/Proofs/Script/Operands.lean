import SnapshotGen.Proofs.Script.Productions

/-!
Expressions keep what the readers of their parts keep. Members are read behind an operand, so their
text begins with that of the operand.
-/

namespace SnapshotGen.Script

open Reader

set_option synthInstance.maxSize 512

namespace Grammar

variable {given : Prop} (G : Grammar) [G.IsCareful]

section Behind

variable {α : Type} [Textual α] (tail : Bool) (p : Reader α)

omit [Textual α] [G.IsCareful] in
theorem behindOperand_eq_done {c next : Cursor} {a : α}
    (done : G.behindOperand tail p c = .done a next) :
    ∃ n, p (c.drop n) = .done a next ∧ tokens (c.drop n).rest = tokens c.rest := by
  unfold behindOperand at done
  split at done
  · rename_i place isPlace
    obtain ⟨n, rfl, sameTokens⟩ := operatorPlace?_eq_some isPlace
    exact ⟨n, done, sameTokens⟩
  · contradiction

instance careful_behindOperand [Careful given .loose p] :
    Careful given .loose (G.behindOperand tail p) where
  keeps holds _ _ _ fit done := by
    obtain ⟨n, done, _⟩ := G.behindOperand_eq_done tail p done
    obtain ⟨nextFit, goes, isFaithful⟩ := careful .loose holds (fit.drop n) done
    exact ⟨nextFit, goes.trans (List.drop_suffix _ _), isFaithful⟩

end Behind

section Postfixes

variable {calls tail : Bool} {start place c next : Cursor} {base node : Node}

instance careful_memberName : Careful given .steady memberName := by
  unfold memberName
  infer_instance

theorem leaf_eq_done {kind : Kind} {length : List Char → Nat} (fit : c.Fit)
    (done : (do return .mk kind (← lexeme length) [] : Reader Node) c = .done node next) :
    ∃ middle : Cursor, middle.Fit ∧ middle.rest <:+ c.rest ∧ next.rest <:+ middle.rest ∧
      node.text = middle.textTo next := by
  obtain ⟨text, _, lexemeDone, same⟩ := bind_eq_done.mp done
  cases same
  obtain ⟨n, rfl, isText⟩ := lexeme_eq_done lexemeDone
  exact ⟨c.skip, fit.skip, c.skip_suffix, List.drop_suffix _ _, isText⟩

theorem memberName_eq_done (fit : c.Fit) (done : memberName c = .done node next) :
    ∃ middle : Cursor, middle.Fit ∧ middle.rest <:+ c.rest ∧ next.rest <:+ middle.rest ∧
      node.text = middle.textTo next := by
  unfold memberName at done
  rcases orElse_eq_done done with done | ⟨far, done⟩
  · exact leaf_eq_done fit done
  rcases orElse_eq_done done with done | ⟨_, done⟩
  · have read := leaf_eq_done (fit.refused far) done
    exact read
  · unfold missingName at done
    obtain ⟨_, _, gapDone, same⟩ := bind_eq_done.mp done
    cases same
    obtain ⟨nextFit, goes, _⟩ := careful .loose trivial ((fit.refused _).refused _) gapDone
    exact ⟨next, nextFit, goes, List.suffix_refl _, (Cursor.textTo_self next).symm⟩

theorem member_kept (startFit : start.Fit) (placeFit : place.Fit) (fit : c.Fit)
    (behindStart : place.rest <:+ start.rest) (behind : c.rest <:+ place.rest)
    (further : c.left < place.left) (covered : ∃ more, start.textTo place = base.text ++ more)
    (baseFaithful : base.Faithful)
    (done : (do
      let name ← memberName
      Reader.node .member start [(.object, base), (.property, name)]) c = .done node next) :
    next.Fit ∧ next.rest <:+ c.rest ∧ node.Faithful := by
  obtain ⟨name, _, nameDone, nodeDone⟩ := bind_eq_done.mp done
  cases nodeDone
  obtain ⟨nextFit, goes, nameFaithful⟩ := careful .steady trivial fit nameDone
  obtain ⟨middle, middleFit, toMiddle, toNext, nameText⟩ := memberName_eq_done fit nameDone
  obtain ⟨more, placeText⟩ := covered
  refine ⟨nextFit, goes.loose, Node.Faithful.of_children
    ⟨base, name, more ++ place.textTo middle, rfl, ?_, ?_⟩ ?_⟩
  · have middleBehind : middle.rest <:+ place.rest := toMiddle.trans behind
    change start.textTo next = _
    rw [nameText, ← String.append_assoc, ← placeText,
      ← Cursor.textTo_append startFit.counted placeFit.counted middleFit.counted behindStart
        middleBehind,
      ← Cursor.textTo_append startFit.counted middleFit.counted nextFit.counted
        (middleBehind.trans behindStart) toNext]
  · intro nothing
    have noLength : (place.textTo middle).length = 0 := by
      have noText := congrArg String.length nothing
      rw [String.length_append, String.length_empty] at noText
      exact (Nat.add_eq_zero_iff.mp noText).2
    rw [Cursor.length_textTo placeFit.counted] at noLength
    have notFurther : middle.left ≤ c.left := fit.counted.left_le middleFit.counted toMiddle
    omega
  · intro child isChild
    rcases List.mem_cons.mp isChild with rfl | isName
    · exact baseFaithful
    · cases List.mem_singleton.mp isName
      exact nameFaithful

instance careful_indexed [Faithful given base] : Careful given .loose (G.indexed start base) := by
  unfold indexed
  infer_instance

instance endsFrom_indexed : EndsFrom start (G.indexed start base) := by
  unfold indexed
  infer_instance

instance careful_called [Faithful given base] : Careful given .loose (G.called start base) := by
  unfold called
  infer_instance

instance endsFrom_called : EndsFrom start (G.called start base) := by
  unfold called
  infer_instance

instance endsFrom_postfixStep : EndsFrom start (G.postfixStep calls start base) where
  ends done := by
    unfold postfixStep at done
    split at done
    · exact EndsFrom.ends done
    · split at done
      · contradiction
      · exact EndsFrom.ends done
    · exact EndsFrom.ends done
    · split at done
      · exact EndsFrom.ends done
      · contradiction
    · split at done
      · exact EndsFrom.ends done
      · contradiction
    · split at done
      · exact EndsFrom.ends done
      · contradiction
    · split at done
      · exact EndsFrom.ends done
      · contradiction
    · split at done
      · exact EndsFrom.ends done
      · contradiction
    · contradiction

theorem postfixStep_kept (startFit : start.Fit) (fit : place.Fit)
    (behind : place.skip.rest <:+ start.rest)
    (covered : ∃ more, start.textTo place = base.text ++ more) (baseFaithful : base.Faithful)
    (done : G.postfixStep calls start base place = .done node next) :
    next.Fit ∧ next.rest <:+ place.skip.rest ∧ node.Faithful := by
  have holds : True ∧ Textual.IsFaithful base := ⟨trivial, baseFaithful⟩
  -- The first character of a step begins a token at once, but for `<`, which may open a comment.
  have atOnce {d : Char} {more : List Char} (head : place.rest = d :: more) (solid : isSolid d) :
      place.skip.rest = place.rest := by
    rw [Cursor.skip_rest, head, tokens_of_isSolid solid]
  unfold postfixStep at done
  split at done
  case h_1 head =>
    rw [atOnce head (by decide)] at behind ⊢
    obtain ⟨_, _, signDone, done⟩ := bind_eq_done.mp done
    obtain ⟨-, rfl⟩ := sign_eq_done signDone
    have further := fit.counted.drop_lt (by simp [head]) (n := ".".length) (by decide)
    obtain ⟨nextFit, goes, isFaithful⟩ := member_kept startFit fit (fit.drop _) behind
      (List.drop_suffix _ _) further covered baseFaithful done
    exact ⟨nextFit, goes.trans (List.drop_suffix _ _), isFaithful⟩
  case h_2 head =>
    rw [atOnce head (by decide)] at behind ⊢
    split at done
    · contradiction
    obtain ⟨_, _, signDone, done⟩ := bind_eq_done.mp done
    obtain ⟨-, rfl⟩ := sign_eq_done signDone
    have further := fit.counted.drop_lt (by simp [head]) (n := "?.".length) (by decide)
    obtain ⟨_, middle, typeDone, done⟩ := bind_eq_done.mp done
    obtain ⟨middleFit, toMiddle, _⟩ := careful .loose trivial (fit.drop _) typeDone
    have fromPlace : middle.rest <:+ place.rest := toMiddle.trans (List.drop_suffix _ _)
    rcases orElse_eq_done done with done | ⟨far, done⟩
    · obtain ⟨nextFit, goes, isFaithful⟩ := careful .loose holds middleFit done
      exact ⟨nextFit, goes.trans fromPlace, isFaithful⟩
    rcases orElse_eq_done done with done | ⟨far', done⟩
    · obtain ⟨nextFit, goes, isFaithful⟩ := careful .loose holds (middleFit.refused far) done
      exact ⟨nextFit, goes.trans fromPlace, isFaithful⟩
    · have notFurther := (fit.drop _).counted.left_le middleFit.counted toMiddle
      obtain ⟨nextFit, goes, isFaithful⟩ := member_kept startFit fit
        ((middleFit.refused far).refused far') behind fromPlace
        (Nat.lt_of_le_of_lt notFurther further) covered baseFaithful done
      exact ⟨nextFit, goes.trans fromPlace, isFaithful⟩
  case h_3 head =>
    rw [atOnce head (by decide)]
    exact careful .loose holds fit done
  case h_4 head =>
    rw [atOnce head (by decide)]
    split at done
    · exact careful .loose holds fit done
    · contradiction
  case h_5 head =>
    rw [atOnce head (by decide)]
    split at done
    · exact careful .loose holds fit done
    · contradiction
  case h_6 =>
    split at done
    · exact careful .brisk holds fit done
    · contradiction
  case h_7 head =>
    rw [atOnce head (by decide)]
    split at done
    · exact careful .loose holds fit done
    · contradiction
  case h_8 head =>
    rw [atOnce head (by decide)]
    split at done
    · exact careful .loose holds fit done
    · contradiction
  case h_9 => contradiction

/-- A node whose text goes from a place up to here, and nothing in front of the place comes next. -/
structure Aligned (start : Cursor) (node : Node) (c : Cursor) : Prop where
  text : node.text = start.textTo c
  behind : c.skip.rest <:+ start.rest

theorem postfixes_kept {n : Nat} (startFit : start.Fit) (fit : c.Fit)
    (aligned : Aligned start base c) (baseFaithful : base.Faithful)
    (done : G.postfixes calls tail start n base c = .done node next) :
    next.Fit ∧ next.rest <:+ c.rest ∧ Aligned start node next ∧ node.Faithful := by
  induction n generalizing base c with
  | zero =>
      cases done
      exact ⟨fit, List.suffix_refl _, aligned, baseFaithful⟩
  | succ n induction =>
      unfold postfixes at done
      rcases orElse_eq_done done with done | ⟨far, done⟩
      · obtain ⟨further, middle, stepDone, done⟩ := bind_eq_done.mp done
        obtain ⟨m, stepDone, sameTokens⟩ := G.behindOperand_eq_done tail _ stepDone
        -- The step starts behind blanks, which belong to its text but not to that of `base`.
        have placeBehind : (c.drop m).skip.rest <:+ start.rest := by
          rw [Cursor.skip_rest, sameTokens]
          exact aligned.behind
        have covered : ∃ more, start.textTo (c.drop m) = base.text ++ more := by
          rw [aligned.text]
          exact Cursor.textTo_eq_append start (Nat.sub_le _ _)
        obtain ⟨middleFit, toMiddle, isFaithful⟩ :=
          G.postfixStep_kept startFit (fit.drop m) placeBehind covered baseFaithful stepDone
        have middleAligned : Aligned start further middle :=
          ⟨EndsFrom.ends stepDone, middle.skip_suffix.trans (toMiddle.trans placeBehind)⟩
        obtain ⟨nextFit, goes, kept⟩ := induction middleFit middleAligned isFaithful done
        have fromHere : middle.rest <:+ c.rest :=
          toMiddle.trans ((c.drop m).skip_suffix.trans (List.drop_suffix _ _))
        exact ⟨nextFit, goes.trans fromHere, kept⟩
      · cases done
        exact ⟨fit.refused far, List.suffix_refl _, ⟨aligned.text, aligned.behind⟩, baseFaithful⟩

theorem postfixed_kept {p : Reader Node} [Careful True .steady p] [Spans p] {first : Node}
    {middle : Cursor} {n : Nat} (fit : c.Fit) (firstDone : p c = .done first middle)
    (done : G.postfixes calls tail c.skip n first middle = .done node next) :
    next.Fit ∧ next.rest <:+ c.rest ∧ Aligned c.skip node next ∧ node.Faithful := by
  obtain ⟨middleFit, goes, isFaithful⟩ := careful .steady trivial fit firstDone
  have aligned : Aligned c.skip first middle := ⟨Spans.spans fit firstDone, goes.2⟩
  obtain ⟨nextFit, fromMiddle, kept⟩ :=
    G.postfixes_kept fit.skip middleFit aligned isFaithful done
  exact ⟨nextFit, fromMiddle.trans goes.1, kept⟩

end Postfixes

instance careful_operandWord (text : String) : Careful given .brisk (keywordNode text) := by
  unfold keywordNode
  infer_instance

instance careful_importWord : Careful given .brisk importWord := by
  unfold importWord
  infer_instance

instance spans_importWord : Spans importWord := by
  unfold importWord
  infer_instance

instance careful_newArguments : Careful given .loose (newExpression.newArguments G) := by
  unfold newExpression.newArguments
  infer_instance

section New

variable (operand : Reader Node) [Careful True .steady operand] [Spans operand]

instance careful_newExpression : Careful given .brisk (G.newExpression operand) where
  keeps holds c _ _ fit done := by
    unfold newExpression at done
    obtain ⟨start, _, atMark, done⟩ := bind_eq_done.mp done
    cases atMark
    obtain ⟨_, middle, keywordDone, done⟩ := bind_eq_done.mp done
    obtain ⟨middleFit, goes, _⟩ := careful .brisk holds fit keywordDone
    rcases orElse_eq_done done with done | ⟨far, done⟩
    · obtain ⟨nextFit, toNext, isFaithful⟩ := careful .loose holds middleFit done
      exact ⟨nextFit, toNext.trans goes, isFaithful⟩
    · obtain ⟨baseStart, _, atMark, done⟩ := bind_eq_done.mp done
      cases atMark
      obtain ⟨first, behindFirst, firstDone, done⟩ := bind_eq_done.mp done
      obtain ⟨base, behindBase, postfixesDone, done⟩ := bind_eq_done.mp done
      obtain ⟨baseFit, toBase, _, baseFaithful⟩ :=
        G.postfixed_kept (middleFit.refused far) firstDone postfixesDone
      have holds' : given ∧ Textual.IsFaithful base := ⟨holds, baseFaithful⟩
      obtain ⟨nextFit, toNext, isFaithful⟩ := careful .loose holds' baseFit done
      exact ⟨nextFit, toNext.trans (toBase.trans goes), isFaithful⟩

omit [Careful True .steady operand] [Spans operand] in
instance spans_newExpression : Spans (G.newExpression operand) := by
  unfold newExpression
  infer_instance

omit [Careful True .steady operand] in
instance spans_newUpTo (n : Nat) : Spans (G.newUpTo operand n) where
  spans fit done := by
    cases n with
    | zero => exact Spans.spans (p := operand) fit done
    | succ n =>
        unfold newUpTo at done
        split at done
        · exact Spans.spans fit done
        · exact Spans.spans fit done

instance careful_newUpTo (n : Nat) : Careful True .steady (G.newUpTo operand n) := by
  induction n with
  | zero => assumption
  | succ n induction =>
      constructor
      intro holds _ _ _ fit done
      unfold newUpTo at done
      split at done
      · exact careful .steady holds fit done
      · exact careful .steady holds fit done

end New

instance careful_yieldExpression (tail : Bool) :
    Careful given .brisk (G.yieldExpression tail) := by
  unfold yieldExpression
  infer_instance

instance spans_yieldExpression (tail : Bool) : Spans (G.yieldExpression tail) := by
  unfold yieldExpression
  infer_instance

instance careful_namedOperand (tail : Bool) (name : String) :
    Careful given .steady (G.namedOperand tail name) := by
  unfold namedOperand
  split <;> infer_instance

instance spans_namedOperand (tail : Bool) (name : String) : Spans (G.namedOperand tail name) := by
  unfold namedOperand
  split <;> infer_instance

theorem primary_eq (tail : Bool) (c : Cursor) :
    ∃ p : Reader Node, G.primary tail c = p c ∧ Careful True .steady p ∧ Spans p := by
  unfold primary
  dsimp only
  split
  case h_12 =>
    split
    · exact ⟨_, rfl, inferInstance, inferInstance⟩
    · exact ⟨_, rfl, inferInstance, inferInstance⟩
  all_goals exact ⟨_, rfl, inferInstance, inferInstance⟩

instance careful_primary (tail : Bool) : Careful given .steady (G.primary tail) where
  keeps _ c _ _ fit done := by
    obtain ⟨p, same, isCareful, _⟩ := G.primary_eq tail c
    rw [same] at done
    exact careful .steady trivial fit done

instance spans_primary (tail : Bool) : Spans (G.primary tail) where
  spans {c _ _} fit done := by
    obtain ⟨p, same, _, spans⟩ := G.primary_eq tail c
    rw [same] at done
    exact Spans.spans fit done

instance careful_assignmentTo (tail : Bool) (start : Cursor) (target : Node)
    [Faithful given target] : Careful given .loose (G.assignmentTo tail start target) := by
  unfold assignmentTo
  infer_instance

instance endsFrom_assignmentTo (tail : Bool) (start : Cursor) (target : Node) :
    EndsFrom start (G.assignmentTo tail start target) := by
  unfold assignmentTo
  infer_instance

instance careful_patternAssignment (tail : Bool) :
    Careful given .loose (G.patternAssignment tail) := by
  unfold patternAssignment
  infer_instance

instance spans_patternAssignment (tail : Bool) : Spans (G.patternAssignment tail) := by
  unfold patternAssignment
  infer_instance

instance careful_updated (tail : Bool) (start : Cursor) (whole : Node) [Faithful given whole] :
    Careful given .loose (operand.updated G tail start whole) := by
  unfold operand.updated
  infer_instance

omit [G.IsCareful] in
theorem updated_text {tail : Bool} {start c next : Cursor} {whole node : Node}
    (text : whole.text = start.textTo c)
    (done : operand.updated G tail start whole c = .done node next) :
    node.text = start.textTo next := by
  unfold operand.updated at done
  rcases orElse_eq_done done with done | ⟨far, done⟩
  · exact EndsFrom.ends done
  · cases done
    exact text

instance careful_operand (tail : Bool) : Careful given .loose (G.operand tail) where
  keeps _ _ _ _ fit done := by
    unfold operand at done
    rcases orElse_eq_done done with done | ⟨far, done⟩
    · exact careful .loose trivial fit done
    · obtain ⟨start, _, atMark, done⟩ := bind_eq_done.mp done
      cases atMark
      obtain ⟨first, _, firstDone, done⟩ := bind_eq_done.mp done
      obtain ⟨whole, _, postfixesDone, done⟩ := bind_eq_done.mp done
      obtain ⟨wholeFit, toWhole, _, wholeFaithful⟩ :=
        G.postfixed_kept (fit.refused far) firstDone postfixesDone
      have holds : True ∧ Textual.IsFaithful whole := ⟨trivial, wholeFaithful⟩
      obtain ⟨nextFit, toNext, isFaithful⟩ := careful .loose holds wholeFit done
      exact ⟨nextFit, toNext.trans toWhole, isFaithful⟩

instance spans_operand (tail : Bool) : Spans (G.operand tail) where
  spans {c node next} fit done := by
    unfold operand at done
    rcases orElse_eq_done done with done | ⟨far, done⟩
    · exact Spans.spans fit done
    · obtain ⟨start, _, atMark, done⟩ := bind_eq_done.mp done
      cases atMark
      obtain ⟨first, _, firstDone, done⟩ := bind_eq_done.mp done
      obtain ⟨whole, behindWhole, postfixesDone, done⟩ := bind_eq_done.mp done
      obtain ⟨_, _, aligned, _⟩ := G.postfixed_kept (fit.refused far) firstDone postfixesDone
      have text : node.text = Cursor.textTo (Cursor.skip { c with far := far }) next := by
        split at done
        · rcases orElse_eq_done done with done | ⟨far', done⟩
          · exact EndsFrom.ends done
          · exact G.updated_text (c := { behindWhole with far := far' }) aligned.text done
        · exact G.updated_text aligned.text done
      exact text

instance careful_operationStep (level : Nat) (tail : Bool) (start : Cursor) (left : Node)
    [Faithful given left] : Careful given .loose (G.operationStep level tail start left) where
  keeps holds _ _ _ fit done := by
    unfold operationStep at done
    split at done
    · exact careful .loose holds fit done
    · split at done
      · exact careful .loose holds fit done
      · split at done
        · contradiction
        · obtain ⟨nextFit, goes, isFaithful⟩ := careful .loose holds (fit.drop _) done
          exact ⟨nextFit, goes.trans (List.drop_suffix _ _), isFaithful⟩

instance endsFrom_operationStep (level : Nat) (tail : Bool) (start : Cursor) (left : Node) :
    EndsFrom start (G.operationStep level tail start left) where
  ends done := by
    unfold operationStep at done
    split at done
    · exact EndsFrom.ends done
    · split at done
      · exact EndsFrom.ends done
      · split at done
        · contradiction
        · exact EndsFrom.ends done

instance careful_operationsFrom (level : Nat) (tail : Bool) (start : Cursor) (n : Nat) (left : Node)
    [Faithful given left] : Careful given .loose (G.operationsFrom level tail start n left) := by
  induction n generalizing given left with
  | zero =>
      unfold operationsFrom
      infer_instance
  | succ n induction =>
      unfold operationsFrom
      infer_instance

omit [G.IsCareful] in
theorem operationsFrom_text {level n : Nat} {tail : Bool} {start c next : Cursor} {left node : Node}
    (text : left.text = start.textTo c)
    (done : G.operationsFrom level tail start n left c = .done node next) :
    node.text = start.textTo next := by
  induction n generalizing left c with
  | zero =>
      cases done
      exact text
  | succ n induction =>
      unfold operationsFrom at done
      rcases orElse_eq_done done with done | ⟨far, done⟩
      · obtain ⟨further, middle, stepDone, done⟩ := bind_eq_done.mp done
        obtain ⟨_, stepDone, _⟩ := G.behindOperand_eq_done tail _ stepDone
        exact induction (EndsFrom.ends stepDone) done
      · cases done
        exact text

theorem unary_eq (tail : Bool) (c : Cursor) :
    ∃ p : Reader Node, G.unary tail c = p c ∧ Careful True .loose p ∧ Spans p := by
  unfold unary
  dsimp only
  split
  · exact ⟨_, rfl, inferInstance, inferInstance⟩
  · exact ⟨_, rfl, inferInstance, inferInstance⟩
  · split
    · exact ⟨_, rfl, inferInstance, inferInstance⟩
    · split
      · exact ⟨_, rfl, inferInstance, inferInstance⟩
      · split
        · split
          · exact ⟨_, rfl, inferInstance, inferInstance⟩
          · exact ⟨_, rfl, inferInstance, inferInstance⟩
        · exact ⟨_, rfl, inferInstance, inferInstance⟩
  · exact ⟨_, rfl, inferInstance, inferInstance⟩

instance careful_unary (tail : Bool) : Careful given .loose (G.unary tail) where
  keeps _ c _ _ fit done := by
    obtain ⟨p, same, isCareful, _⟩ := G.unary_eq tail c
    rw [same] at done
    exact careful .loose trivial fit done

instance spans_unary (tail : Bool) : Spans (G.unary tail) where
  spans {c _ _} fit done := by
    obtain ⟨p, same, _, spans⟩ := G.unary_eq tail c
    rw [same] at done
    exact Spans.spans fit done

instance careful_operationBody (level : Nat) (tail : Bool) :
    Careful given .loose (G.operationBody level tail) := by
  unfold operationBody
  infer_instance

instance spans_operationBody (level : Nat) (tail : Bool) : Spans (G.operationBody level tail) where
  spans fit done := by
    unfold operationBody at done
    obtain ⟨start, _, atMark, done⟩ := bind_eq_done.mp done
    cases atMark
    obtain ⟨first, _, firstDone, done⟩ := bind_eq_done.mp done
    exact G.operationsFrom_text (Spans.spans fit firstDone) done

end Grammar

end SnapshotGen.Script
