import SnapshotGen.Proofs.Script.Statements

/-!
Whole scripts. The grammar of every depth is careful, so every tree that is read covers the text of
its parts.
-/

namespace SnapshotGen.Script

open Reader

instance isCareful_grammar (dialect : Dialect) (n : Nat) : (grammar dialect n).IsCareful := by
  induction n with
  | zero =>
      exact {
        operation := fun _ _ => careful_refuse
        operationSpans := fun _ _ => ⟨fun _ done => by contradiction⟩
        statement := careful_refuse
        bindingPattern := careful_refuse
        element := careful_refuse
        elementSpans := ⟨fun _ done => by contradiction⟩
        type := careful_refuse }
  | succ n induction =>
      exact {
        operation := (grammar dialect n).careful_operationBody
        operationSpans := (grammar dialect n).spans_operationBody
        statement := (grammar dialect n).careful_statementBody
        bindingPattern := (grammar dialect n).careful_bindingTarget
        element := (grammar dialect n).careful_elementBody
        elementSpans := (grammar dialect n).spans_elementBody
        type := (grammar dialect n).careful_typeBody }

namespace Module

variable {given : Prop}

instance careful_hashBang : Careful given .loose hashBang where
  keeps holds _ _ _ fit done := by
    unfold hashBang at done
    split at done
    · cases done
      exact ⟨fit.drop _, List.drop_suffix _ _, Faithful.isFaithful holds⟩
    · cases done
      exact ⟨fit, List.suffix_refl _, Faithful.isFaithful holds⟩

instance careful_item (G : Grammar) [G.IsCareful] : Careful given .loose (item G) where
  keeps holds c _ _ fit done := by
    unfold item at done
    dsimp only at done
    have placeFit : (c.drop (c.rest.takeWhile isSpace).length).Fit := fit.drop _
    split at done
    · cases done
      exact ⟨placeFit.drop _, (List.drop_suffix _ _).trans (List.drop_suffix _ _),
        Faithful.isFaithful holds⟩
    · split at done
      · cases done
        exact ⟨placeFit.drop _, (List.drop_suffix _ _).trans (List.drop_suffix _ _),
          Faithful.isFaithful holds⟩
      · obtain ⟨nextFit, goes, isFaithful⟩ := careful .loose holds placeFit done
        exact ⟨nextFit, goes.trans (List.drop_suffix _ _), isFaithful⟩

instance careful_ending : Careful given .loose ending where
  keeps _ c _ _ fit done := by
    unfold ending at done
    split at done
    · cases done
      exact ⟨fit.skip, c.skip_suffix, trivial⟩
    · contradiction

instance careful_whole (G : Grammar) [G.IsCareful] : Careful given .loose (whole G) := by
  unfold whole
  infer_instance

variable {dialect : Dialect} {program : Node}

theorem faithful_of_readFrom {start : Cursor} (fit : start.Fit)
    (read : (readFrom dialect start).value? = some program) : program.Faithful := by
  unfold readFrom at read
  cases done : whole (grammar dialect (4 * start.left + 16)) start with
  | stuck far =>
      rw [done] at read
      contradiction
  | done node next =>
      rw [done] at read
      cases read
      obtain ⟨_, _, isFaithful⟩ := careful .loose trivial fit done
      exact isFaithful

theorem faithful_of_filled? {text : List Char} {far : Nat}
    (filled : filled? dialect text far = some program) : program.Faithful := by
  unfold filled? at filled
  obtain ⟨token, isFiller, read⟩ := List.exists_of_findSome?_eq_some filled
  apply faithful_of_readFrom _ read
  refine ⟨rfl, ?_⟩
  intro gap isGap
  cases isGap
  exact isFiller

theorem faithful_of_read? {text : List Char} (read : read? dialect text = some program) :
    program.Faithful := by
  unfold read? at read
  split at read
  · rename_i next done
    cases read
    have fit : (Cursor.start text none).Fit := ⟨rfl, fun _ isGap => by contradiction⟩
    have whole : (readFrom dialect (.start text none)).value? = some program := by
      rw [done]
      rfl
    exact faithful_of_readFrom fit whole
  · unfold repaired? at read
    obtain ⟨node, filled, kept⟩ := Option.bind_eq_some_iff.mp read
    split at kept
    · contradiction
    · cases kept
      exact faithful_of_filled? filled

end Module

end SnapshotGen.Script
