import Mathlib.Logic.Basic

/-!
Outcomes of what may fail. A sequence that ends well is taken apart into steps that end well.
-/

namespace SnapshotGen

variable {ε ε' α β : Type} {outcome : Except ε α}

theorem bind_eq_ok {f : α → Except ε β} {b : β} :
    outcome >>= f = .ok b ↔ ∃ a, outcome = .ok a ∧ f a = .ok b := by
  cases outcome <;> simp [bind, Except.bind]

theorem map_eq_ok {f : α → β} {b : β} :
    f <$> outcome = .ok b ↔ ∃ a, outcome = .ok a ∧ f a = b := by
  cases outcome <;> simp [Functor.map, Except.map]

theorem mapError_ok (f : ε → ε') (a : α) : (Except.ok a).mapError f = .ok a :=
  rfl

theorem mapError_error (f : ε → ε') (failure : ε) :
    (Except.error failure : Except ε α).mapError f = .error (f failure) :=
  rfl

theorem mapError_eq_ok {f : ε → ε'} {a : α} : outcome.mapError f = .ok a ↔ outcome = .ok a := by
  cases outcome <;> simp [mapError_ok, mapError_error]

theorem toOption_eq_some {a : α} : outcome.toOption = some a ↔ outcome = .ok a := by
  cases outcome <;> simp [Except.toOption]

end SnapshotGen
