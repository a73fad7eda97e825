import SnapshotGen.Proofs.Script.Tokens

/-!
How far the text of a node reaches: from the token with which its reader begins up to where the
reader ends.
-/

namespace SnapshotGen.Script

namespace Reader

variable {α : Type} {c next start : Cursor}

/-- The text of the node goes from a place up to where the reader ends. -/
class EndsFrom (start : Cursor) (p : Reader Node) : Prop where
  ends : ∀ {c : Cursor} {node : Node} {next : Cursor}, p c = .done node next →
    node.text = start.textTo next

/-- The text of the node goes from the next token up to where the reader ends. -/
class Spans (p : Reader Node) : Prop where
  spans : ∀ {c : Cursor} {node : Node} {next : Cursor}, c.Fit → p c = .done node next →
    node.text = c.skip.textTo next

instance endsFrom_node (kind : Kind) (children : List (Role × Node)) :
    EndsFrom start (node kind start children) where
  ends done := by
    cases done
    rfl

instance endsFrom_bind (p : Reader α) (f : α → Reader Node) [∀ a, EndsFrom start (f a)] :
    EndsFrom start (p >>= f) where
  ends done := by
    obtain ⟨a, middle, _, done⟩ := bind_eq_done.mp done
    exact EndsFrom.ends done

instance endsFrom_orElse (p q : Reader Node) [EndsFrom start p] [EndsFrom start q] :
    EndsFrom start (p <|> q) where
  ends done := by
    rcases orElse_eq_done done with done | ⟨_, done⟩
    · exact EndsFrom.ends done
    · exact EndsFrom.ends done

instance endsFrom_ite (condition : Prop) [Decidable condition] (p q : Reader Node)
    [EndsFrom start p] [EndsFrom start q] : EndsFrom start (if condition then p else q) := by
  split <;> infer_instance

instance spans_mark (f : Cursor → Reader Node) [∀ start, EndsFrom start (f start)] :
    Spans (mark >>= f) where
  spans _ done := by
    obtain ⟨start, middle, atMark, done⟩ := bind_eq_done.mp done
    cases atMark
    exact EndsFrom.ends done

instance spans_orElse (p q : Reader Node) [Spans p] [Spans q] : Spans (p <|> q) where
  spans fit done := by
    rcases orElse_eq_done done with done | ⟨far, done⟩
    · exact Spans.spans fit done
    · have text := Spans.spans (fit.refused far) done
      exact text

instance spans_guard (condition : Bool) (f : Unit → Reader Node) [∀ a, Spans (f a)] :
    Spans (guard condition >>= f) where
  spans fit done := by
    obtain ⟨a, middle, atGuard, done⟩ := bind_eq_done.mp done
    unfold guard at atGuard
    split at atGuard
    · cases atGuard
      exact Spans.spans fit done
    · contradiction

instance spans_lexeme (kind : Kind) (length : List Char → Nat) :
    Spans (do return .mk kind (← lexeme length) []) where
  spans _ done := by
    obtain ⟨text, middle, lexemeDone, same⟩ := bind_eq_done.mp done
    cases same
    obtain ⟨_, _, isText⟩ := lexeme_eq_done lexemeDone
    exact isText

instance spans_privateName : Spans privateName :=
  spans_lexeme .privateName privateNameLength

instance spans_number : Spans number :=
  spans_lexeme .number numberLength

instance spans_string : Spans string :=
  spans_lexeme .string stringLength

instance spans_regex : Spans regex :=
  spans_lexeme .other patternLength

instance spans_binding : Spans binding where
  spans _ done := by
    obtain ⟨name, wordDone, rfl⟩ := binding_eq_done done
    obtain ⟨_, _, isText⟩ := lexeme_eq_done wordDone
    exact isText

instance spans_keywordNode (text : String) : Spans (Grammar.keywordNode text) where
  spans _ done := by
    unfold Grammar.keywordNode at done
    obtain ⟨_, middle, keywordDone, same⟩ := bind_eq_done.mp done
    cases same
    obtain ⟨_, _, isText⟩ := lexeme_eq_done (keyword_eq_done keywordDone)
    exact isText

instance spans_missingName : Spans missingName where
  spans {c _ _} _ done := by
    unfold missingName at done
    obtain ⟨_, middle, gapDone, same⟩ := bind_eq_done.mp done
    cases same
    obtain ⟨_, sameLeft, _⟩ := useGap_eq_done gapDone
    have nothing : c.skip.left - c.left = 0 := Nat.sub_eq_zero_of_le (Nat.sub_le _ _)
    rw [Cursor.textTo, sameLeft, nothing]
    rfl

end Reader

end SnapshotGen.Script
