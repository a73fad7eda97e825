import Mathlib.Data.List.Lex
import SnapshotGen.Path

/-!
The order of paths. Paths are compared component by component, so sorting puts them into the order
of their components, and paths with different components strictly so.
-/

namespace SnapshotGen.Path

namespace Part

/-- The root comes before `.`, this before `..`, and this before every name. -/
def rank : Part → Nat
  | root => 0
  | here => 1
  | up => 2
  | name _ => 3

/-- The strict order of components; names are ordered by their characters. -/
def Precedes (part other : Part) : Prop :=
  part.rank < other.rank ∨ ∃ a b, part = name a ∧ other = name b ∧ List.Lex (· < ·) a b

theorem not_precedes_self (part : Part) : ¬part.Precedes part := by
  rintro (lower | ⟨a, b, rfl, same, less⟩)
  · exact absurd lower (Nat.lt_irrefl _)
  · cases same
    exact List.lex_irrefl Char.lt_irrefl a less

theorem Precedes.trans {part other last : Part} (first : part.Precedes other)
    (second : other.Precedes last) : part.Precedes last := by
  rcases first with lower | ⟨a, b, rfl, rfl, less⟩
  · rcases second with lower' | ⟨b, c, rfl, rfl, _⟩
    · exact .inl (Nat.lt_trans lower lower')
    · exact .inl lower
  · rcases second with lower' | ⟨b, c, same, rfl, less'⟩
    · exact .inl lower'
    · cases same
      exact .inr ⟨a, c, rfl, rfl, List.lex_trans Char.lt_trans less less'⟩

theorem name_precedes_name {a b : List Char} :
    (name a).Precedes (name b) ↔ List.Lex (· < ·) a b := by
  constructor
  · rintro (lower | ⟨_, _, sameFirst, sameSecond, less⟩)
    · exact absurd lower (Nat.lt_irrefl _)
    · cases sameFirst
      cases sameSecond
      exact less
  · intro less
    exact .inr ⟨a, b, rfl, rfl, less⟩

theorem lex_or_lex {a b : List Char} (different : a ≠ b) :
    List.Lex (· < ·) a b ∨ List.Lex (· < ·) b a := by
  have trichotomous := List.Lex.trichotomous (α := Char) (· < ·)
  rcases trichotomous.rel_or_eq_or_rel_swap with before | same | behind
  · exact .inl before
  · exact absurd same different
  · exact .inr behind

theorem before_iff {part other : Part} (different : part ≠ other) :
    part.before other = true ↔ part.Precedes other := by
  cases part with
  | root | here | up => cases other <;> simp_all [before, Precedes, rank]
  | name a =>
      cases other with
      | root | here | up => simp [before, Precedes, rank]
      | name b =>
          have notSame : a ≠ b := fun same => different (same ▸ rfl)
          rw [name_precedes_name, before, Bool.not_eq_true', ← Bool.not_eq_true,
            List.lex_eq_true_iff_lex]
          simp only [decide_eq_true_eq]
          exact ⟨(lex_or_lex notSame).resolve_right, List.lex_asymm Char.lt_asymm⟩

theorem precedes_total {part other : Part} (different : part ≠ other) :
    part.Precedes other ∨ other.Precedes part := by
  cases part with
  | name a =>
      cases other with
      | name b =>
          have notSame : a ≠ b := fun same => different (same ▸ rfl)
          rw [name_precedes_name, name_precedes_name]
          exact lex_or_lex notSame
      | root | here | up => simp [Precedes, rank]
  | root | here | up => cases other <;> simp_all [Precedes, rank]

end Part

/-- The strict order of paths: that of the first components in which they differ. -/
def Precedes (path other : List Char) : Prop :=
  List.Lex Part.Precedes (parts path) (parts other)

theorem partsBefore_iff {ps qs : List Part} :
    partsBefore ps qs = true ↔ ps = qs ∨ List.Lex Part.Precedes ps qs := by
  fun_induction partsBefore ps qs with
  | case1 qs => cases qs <;> simp
  | case2 p ps => simp
  | case3 ps p qs induction =>
      rw [induction, List.cons_lex_cons_iff, List.cons.injEq]
      simp [Part.not_precedes_self]
  | case4 p ps q qs different =>
      rw [Part.before_iff different, List.cons_lex_cons_iff, List.cons.injEq]
      simp [different]

theorem before_iff {path other : List Char} :
    before path other = true ↔ parts path = parts other ∨ Precedes path other :=
  partsBefore_iff

theorem before_trans {path other last : List Char} (first : before path other = true)
    (second : before other last = true) : before path last = true := by
  rw [before_iff] at *
  rcases first with same | precedes
  · rwa [same, Precedes, same]
  · rcases second with same | precedes'
    · exact .inr (by rwa [Precedes, ← same])
    · exact .inr (List.lex_trans Part.Precedes.trans precedes precedes')

theorem partsBefore_total (ps qs : List Part) :
    partsBefore ps qs = true ∨ partsBefore qs ps = true := by
  induction ps generalizing qs with
  | nil => exact .inl rfl
  | cons p ps induction =>
      cases qs with
      | nil => exact .inr rfl
      | cons q qs =>
          by_cases same : p = q
          · simpa [partsBefore, same] using induction qs
          · simpa [partsBefore, same, Ne.symm same, Part.before_iff same,
              Part.before_iff (Ne.symm same)] using Part.precedes_total same

theorem before_total (path other : List Char) : (before path other || before other path) = true :=
  (Bool.or_eq_true _ _).mpr (partsBefore_total (parts path) (parts other))

/-- Paths whose components all differ are put into strict order by sorting. -/
theorem pairwise_precedes_mergeSort {paths : List (List Char)}
    (apart : paths.Pairwise fun path other => parts path ≠ parts other) :
    (paths.mergeSort before).Pairwise Precedes := by
  have sorted : (paths.mergeSort before).Pairwise fun path other => before path other = true := by
    refine List.pairwise_mergeSort ?_ before_total paths
    exact fun _ _ _ => before_trans
  have stillApart : (paths.mergeSort before).Pairwise fun path other => parts path ≠ parts other :=
    (List.mergeSort_perm paths before).symm.pairwise apart fun different => Ne.symm different
  refine sorted.imp₂ ?_ stillApart
  intro path other isBefore different
  exact (before_iff.mp isBefore).resolve_left different

end SnapshotGen.Path
