import Mathlib.Logic.Basic
import SnapshotGen.Proofs.Datum.Overlay
import SnapshotGen.Text.Reading

/-!
Readings whose values are all of a kind. A reading gives such values if the readings that it ends
with do, so instances say so.
-/

namespace SnapshotGen.Text.Reading

variable {α β : Type} {P : α → Prop}

theorem bind_eq_some {p : Reading α} {f : α → Reading β} {cs rest : List Char} {b : β}
    (done : (p >>= f) cs = some (b, rest)) :
    ∃ a middle, p cs = some (a, middle) ∧ f a middle = some (b, rest) := by
  obtain ⟨⟨a, middle⟩, first, second⟩ := Option.bind_eq_some_iff.mp done
  exact ⟨a, middle, first, second⟩

theorem orElse_eq_some {p q : Reading α} {cs rest : List Char} {a : α}
    (done : (p <|> q) cs = some (a, rest)) :
    p cs = some (a, rest) ∨ q cs = some (a, rest) :=
  (Option.or_eq_some_iff.mp done).imp_right And.right

class Gives (P : α → Prop) (p : Reading α) : Prop where
  gives : ∀ {cs rest : List Char} {a : α}, p cs = some (a, rest) → P a

instance gives_bind (p : Reading β) (f : β → Reading α) [∀ b, Gives P (f b)] :
    Gives P (p >>= f) where
  gives done := by
    obtain ⟨b, middle, _, done⟩ := bind_eq_some done
    exact Gives.gives done

instance gives_pure (a : α) [holds : Fact (P a)] : Gives P (pure a : Reading α) where
  gives done := by
    cases done
    exact holds.out

instance gives_map (p : Reading β) (f : β → α) [holds : ∀ b, Fact (P (f b))] :
    Gives P (f <$> p) where
  gives done := by
    obtain ⟨b, middle, _, same⟩ := bind_eq_some done
    cases same
    exact (holds b).out

instance gives_orElse (p q : Reading α) [Gives P p] [Gives P q] : Gives P (p <|> q) where
  gives done := by
    rcases orElse_eq_some done with done | done
    · exact Gives.gives done
    · exact Gives.gives done

instance gives_fail : Gives P (fail : Reading α) where
  gives done := by contradiction

instance gives_oneOf_nil : Gives P (oneOf ([] : List (Reading α))) :=
  gives_fail

instance gives_oneOf_cons (p : Reading α) (ps : List (Reading α)) [Gives P p]
    [Gives P (oneOf ps)] : Gives P (oneOf (p :: ps)) := by
  cases ps with
  | nil => assumption
  | cons q ps => exact gives_orElse p (oneOf (q :: ps))

theorem forall_mem_of_repeatUpTo {p : Reading α} [Gives P p] {n : Nat} {cs rest : List Char}
    {items : List α} (done : repeatUpTo n p cs = some (items, rest)) : ∀ item ∈ items, P item := by
  induction n generalizing cs items with
  | zero =>
      cases done
      simp
  | succ n induction =>
      rcases orElse_eq_some done with done | done
      · obtain ⟨first, middle, firstDone, done⟩ := bind_eq_some done
        obtain ⟨more, last, moreDone, same⟩ := bind_eq_some done
        cases same
        exact List.forall_mem_cons.mpr ⟨Gives.gives firstDone, induction moreDone⟩
      · cases done
        simp

theorem forall_mem_of_many {p : Reading α} [Gives P p] {cs rest : List Char} {items : List α}
    (done : many p cs = some (items, rest)) : ∀ item ∈ items, P item :=
  forall_mem_of_repeatUpTo done

theorem Gives.holds_of_whole? {p : Reading α} (givesAll : Gives P p) {cs : List Char} {a : α}
    (read : whole? p cs = some a) : P a := by
  unfold whole? at read
  split at read
  · rename_i found isFound
    cases read
    exact givesAll.gives isFound
  · contradiction

end SnapshotGen.Text.Reading

namespace SnapshotGen.Datum

instance ordered_flag (holds : Bool) : Fact (flag holds).Ordered := ⟨.ofPlain rfl⟩

instance ordered_whole (signed : Bool) (n : Int) : Fact (whole signed n).Ordered := ⟨.ofPlain rfl⟩

instance ordered_fraction (shown : String) : Fact (fraction shown).Ordered := ⟨.ofPlain rfl⟩

instance ordered_letter (c : Char) : Fact (letter c).Ordered := ⟨.ofPlain rfl⟩

instance ordered_text (s : String) : Fact (text s).Ordered := ⟨.ofPlain rfl⟩

instance ordered_list (items : List Datum) : Fact (list items).Ordered := ⟨.ofPlain rfl⟩

end SnapshotGen.Datum
