import Mathlib.Data.List.Nodup
import SnapshotGen.Settings

/-!
Type expressions with the mark of a required type lose it once, at their end. Catalogs are keyed by
what is left: however fixtures are stored, there is at most one under a type name, and the name with
the mark finds it.
-/

namespace SnapshotGen

namespace Fixture

theorem stripRequired_append (text : String) : stripRequired (text ++ requiredMark) = text := by
  have found :
      requiredMark.toList.isSuffixOf? (text ++ requiredMark).toList = some text.toList := by
    rw [String.toList_append, List.isSuffixOf?, List.reverse_append,
      List.isPrefixOf?_eq_some_iff_append_eq.mpr rfl, Option.map_some, List.reverse_reverse]
  rw [stripRequired, Text.dropEnd?, found, Option.map_some, Option.getD_some, String.ofList_toList]

theorem stripRequired_of_not_suffix {raw : String}
    (unmarked : ¬requiredMark.toList <:+ raw.toList) : stripRequired raw = raw := by
  have notFound : requiredMark.toList.isSuffixOf? raw.toList = none := by
    rw [List.isSuffixOf?, Option.map_eq_none_iff, Option.eq_none_iff_forall_ne_some]
    intro rest found
    apply unmarked
    rw [← List.reverse_prefix]
    exact ⟨rest, List.append_eq_of_isPrefixOf?_eq_some found⟩
  rw [stripRequired, Text.dropEnd?, notFound, Option.map_none, Option.getD_none]

theorem exists_append_of_suffix {raw : String} (marked : requiredMark.toList <:+ raw.toList) :
    ∃ text, raw = text ++ requiredMark := by
  obtain ⟨front, same⟩ := marked
  refine ⟨String.ofList front, ?_⟩
  rw [← String.toList_inj, String.toList_append, String.toList_ofList, same]

/-- What is left of a text without the mark is all of it, unless it ends in the mark. -/
theorem stripRequired_eq_self_iff {raw : String} :
    stripRequired raw = raw ↔ ¬requiredMark.toList <:+ raw.toList := by
  constructor
  · intro same marked
    obtain ⟨text, rfl⟩ := exists_append_of_suffix marked
    rw [stripRequired_append] at same
    have lengths := congrArg String.length same
    rw [String.length_append] at lengths
    have positive : 0 < requiredMark.length := by decide
    omega
  · exact stripRequired_of_not_suffix

theorem stripRequired_eq_iff_of_length_lt {raw text : String} (longer : text.length < raw.length) :
    stripRequired raw = text ↔ raw = text ++ requiredMark := by
  constructor
  · intro stripped
    by_cases marked : requiredMark.toList <:+ raw.toList
    · obtain ⟨front, rfl⟩ := exists_append_of_suffix marked
      rw [stripRequired_append] at stripped
      rw [stripped]
    · rw [stripRequired_of_not_suffix marked] at stripped
      rw [stripped] at longer
      exact absurd longer (Nat.lt_irrefl _)
  · rintro rfl
    exact stripRequired_append text

end Fixture

namespace Catalog

/-- No two fixtures have one type name. -/
def Keyed (catalog : Catalog) : Prop :=
  (catalog.fixtures.map Fixture.typeName).Nodup

theorem keyed_builtin : builtin.Keyed := by
  unfold Keyed
  decide

theorem mem_of_mem_place {fixture stored : Fixture} {fixtures : List Fixture}
    (member : stored ∈ insert.place fixture fixtures) : stored = fixture ∨ stored ∈ fixtures := by
  induction fixtures with
  | nil => exact .inl (List.mem_singleton.mp member)
  | cons first more induction =>
      rw [insert.place] at member
      split at member
      · exact (List.mem_cons.mp member).imp_right (.tail _)
      · rcases List.mem_cons.mp member with rfl | inPlaced
        · exact .inr (.head _)
        · exact (induction inPlaced).imp_right (.tail _)

theorem nodup_place {fixture : Fixture} {fixtures : List Fixture}
    (nodup : (fixtures.map Fixture.typeName).Nodup) :
    ((insert.place fixture fixtures).map Fixture.typeName).Nodup := by
  induction fixtures with
  | nil => exact List.nodup_singleton _
  | cons first more induction =>
      rw [List.map_cons, List.nodup_cons] at nodup
      obtain ⟨isNew, nodupMore⟩ := nodup
      rw [insert.place]
      split
      · rename_i same
        rw [List.map_cons, ← same]
        exact List.nodup_cons.mpr ⟨isNew, nodupMore⟩
      · rename_i different
        refine List.nodup_cons.mpr ⟨?_, induction nodupMore⟩
        intro isPlaced
        obtain ⟨stored, member, same⟩ := List.mem_map.mp isPlaced
        rcases mem_of_mem_place member with rfl | inMore
        · exact different same.symm
        · exact isNew (same ▸ List.mem_map_of_mem inMore)

theorem Keyed.insert {catalog : Catalog} (keyed : catalog.Keyed) (fixture : Fixture) :
    (catalog.insert fixture).Keyed :=
  nodup_place keyed

theorem Keyed.insertAll {catalog : Catalog} (keyed : catalog.Keyed) (extra : List Fixture) :
    (catalog.insertAll extra).Keyed := by
  induction extra generalizing catalog with
  | nil => exact keyed
  | cons fixture extra induction => exact induction (keyed.insert fixture)

theorem keyed_ofSettings (settings : Settings) : settings.catalog.Keyed :=
  keyed_builtin.insertAll settings.fixtures

theorem mem_of_lookup? {catalog : Catalog} {raw : String} {fixture : Fixture}
    (found : catalog.lookup? raw = some fixture) : fixture ∈ catalog.fixtures :=
  List.mem_of_find?_eq_some found

/-- Every fixture is found by some type expression. -/
theorem Keyed.lookup?_typeName {catalog : Catalog} (keyed : catalog.Keyed) {fixture : Fixture}
    (stored : fixture ∈ catalog.fixtures) :
    catalog.lookup? (fixture.typeName ++ Fixture.requiredMark) = some fixture := by
  obtain ⟨fixtures⟩ := catalog
  unfold lookup? Keyed at *
  dsimp only at *
  rw [Fixture.stripRequired_append]
  induction fixtures with
  | nil => cases stored
  | cons first more induction =>
      rw [List.map_cons, List.nodup_cons] at keyed
      rcases List.mem_cons.mp stored with rfl | inMore
      · exact List.find?_cons_of_pos (beq_self_eq_true _)
      · have different : first.typeName ≠ fixture.typeName := by
          intro same
          exact keyed.1 (same ▸ List.mem_map_of_mem inMore)
        rw [List.find?_cons_of_neg (by simpa using different)]
        exact induction keyed.2 inMore

end Catalog

end SnapshotGen
