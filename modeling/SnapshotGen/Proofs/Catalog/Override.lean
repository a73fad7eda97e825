import SnapshotGen.Proofs.Catalog

/-!
What storing a list of fixtures makes of a catalog. A type name keeps its place, with the fixture
given last for it; names that are new follow in the order in which they are first given.
-/

namespace SnapshotGen

namespace Fixture

def key (fixture : Fixture) : String :=
  stripRequired fixture.typeName

def keyed (fixture : Fixture) : Fixture :=
  { fixture with typeName := fixture.key }

/-- The fixture that a list gives last for a type name. -/
def lastFor? (name : String) (fixtures : List Fixture) : Option Fixture :=
  (fixtures.reverse.find? (·.key == name)).map keyed

theorem lastFor?_cons (name : String) (fixture : Fixture) (more : List Fixture) :
    lastFor? name (fixture :: more) =
      (lastFor? name more).or (if fixture.key = name then some fixture.keyed else none) := by
  unfold lastFor?
  rw [List.reverse_cons, List.find?_append, Option.map_or, List.find?_singleton]
  by_cases same : fixture.key = name <;> simp [same]

end Fixture

open Fixture

namespace Catalog

def typeNames (catalog : Catalog) : List String :=
  catalog.fixtures.map Fixture.typeName

/-- The type names of a list that a catalog has no fixture for, in the order of the list. -/
def newNames (catalog : Catalog) (extra : List Fixture) : List String :=
  ((extra.map key).filter (· ∉ catalog.typeNames)).eraseDups

theorem find?_place (fixture : Fixture) (fixtures : List Fixture) (name : String) :
    (insert.place fixture fixtures).find? (·.typeName == name) =
      if fixture.typeName = name then some fixture
      else fixtures.find? (·.typeName == name) := by
  induction fixtures with
  | nil => simp [insert.place, List.find?_singleton]
  | cons stored more induction =>
      by_cases replaced : stored.typeName = fixture.typeName
      · rw [insert.place, if_pos replaced, List.find?_cons, List.find?_cons, replaced]
        by_cases same : fixture.typeName = name
        · rw [beq_iff_eq.mpr same, if_pos same]
        · rw [beq_eq_false_iff_ne.mpr same, if_neg same]
      · rw [insert.place, if_neg replaced, List.find?_cons, List.find?_cons, induction]
        by_cases same : fixture.typeName = name
        · have different : stored.typeName ≠ name := same ▸ replaced
          rw [beq_eq_false_iff_ne.mpr different, if_pos same]
        · rw [if_neg same, if_neg same]

theorem map_typeName_place (fixture : Fixture) (fixtures : List Fixture) :
    (insert.place fixture fixtures).map Fixture.typeName =
      if fixture.typeName ∈ fixtures.map Fixture.typeName then fixtures.map Fixture.typeName
      else fixtures.map Fixture.typeName ++ [fixture.typeName] := by
  induction fixtures with
  | nil => rfl
  | cons stored more induction =>
      by_cases replaced : stored.typeName = fixture.typeName
      · rw [insert.place, if_pos replaced, List.map_cons, List.map_cons, replaced,
          if_pos (.head _)]
      · rw [insert.place, if_neg replaced, List.map_cons, induction, List.map_cons]
        by_cases known : fixture.typeName ∈ more.map Fixture.typeName
        · rw [if_pos known, if_pos (.tail _ known)]
        · have isNew : fixture.typeName ∉ stored.typeName :: more.map Fixture.typeName :=
            List.not_mem_cons_of_ne_of_not_mem (Ne.symm replaced) known
          rw [if_neg known, if_neg isNew, List.cons_append]

theorem lookup?_insert (catalog : Catalog) (fixture : Fixture) (raw : String) :
    (catalog.insert fixture).lookup? raw =
      if fixture.key = stripRequired raw then some fixture.keyed else catalog.lookup? raw :=
  find?_place fixture.keyed catalog.fixtures (stripRequired raw)

theorem typeNames_insert (catalog : Catalog) (fixture : Fixture) :
    (catalog.insert fixture).typeNames =
      if fixture.key ∈ catalog.typeNames then catalog.typeNames
      else catalog.typeNames ++ [fixture.key] :=
  map_typeName_place fixture.keyed catalog.fixtures

theorem lookup?_insertAll (catalog : Catalog) (extra : List Fixture) (raw : String) :
    (catalog.insertAll extra).lookup? raw =
      (lastFor? (stripRequired raw) extra).or (catalog.lookup? raw) := by
  induction extra generalizing catalog with
  | nil => rfl
  | cons fixture more induction =>
      have step : (catalog.insertAll (fixture :: more)).lookup? raw =
          (lastFor? (stripRequired raw) more).or ((catalog.insert fixture).lookup? raw) :=
        induction (catalog.insert fixture)
      rw [step, lookup?_insert, lastFor?_cons, Option.or_assoc]
      split <;> rfl

theorem newNames_cons_of_mem {catalog : Catalog} {fixture : Fixture} (more : List Fixture)
    (known : fixture.key ∈ catalog.typeNames) :
    catalog.newNames (fixture :: more) = catalog.newNames more := by
  unfold newNames
  rw [List.map_cons, List.filter_cons_of_neg (by simpa using known)]

theorem newNames_cons_of_not_mem {catalog : Catalog} {fixture : Fixture} (more : List Fixture)
    (isNew : fixture.key ∉ catalog.typeNames) :
    catalog.newNames (fixture :: more) =
      fixture.key :: (catalog.insert fixture).newNames more := by
  unfold newNames
  rw [List.map_cons, List.filter_cons_of_pos (by simpa using isNew), List.eraseDups_cons,
    List.filter_filter, typeNames_insert, if_neg isNew]
  congr 2
  apply List.filter_congr
  intro name _
  by_cases same : name = fixture.key <;> simp [same]

theorem typeNames_insertAll (catalog : Catalog) (extra : List Fixture) :
    (catalog.insertAll extra).typeNames = catalog.typeNames ++ catalog.newNames extra := by
  induction extra generalizing catalog with
  | nil => exact (List.append_nil _).symm
  | cons fixture more induction =>
      have step : (catalog.insertAll (fixture :: more)).typeNames =
          (catalog.insert fixture).typeNames ++ (catalog.insert fixture).newNames more :=
        induction (catalog.insert fixture)
      by_cases known : fixture.key ∈ catalog.typeNames
      · have sameNames : (catalog.insert fixture).typeNames = catalog.typeNames := by
          rw [typeNames_insert, if_pos known]
        rw [step, newNames_cons_of_mem more known, newNames, newNames, sameNames]
      · rw [step, newNames_cons_of_not_mem more known, typeNames_insert, if_neg known,
          List.append_assoc, List.singleton_append]

def stored? (catalog : Catalog) (name : String) : Option Fixture :=
  catalog.fixtures.find? (·.typeName == name)

theorem stored?_insertAll (catalog : Catalog) (extra : List Fixture) (name : String) :
    (catalog.insertAll extra).stored? name = (lastFor? name extra).or (catalog.stored? name) := by
  have looked := lookup?_insertAll catalog extra (name ++ requiredMark)
  unfold lookup? at looked
  rw [stripRequired_append] at looked
  exact looked

theorem stored?_eq_none {catalog : Catalog} {name : String} (isNew : name ∉ catalog.typeNames) :
    catalog.stored? name = none := by
  apply List.find?_eq_none.mpr
  intro fixture member same
  exact isNew (List.mem_map.mpr ⟨fixture, member, beq_iff_eq.mp same⟩)

theorem Keyed.stored?_typeName {catalog : Catalog} (keyed : catalog.Keyed) {fixture : Fixture}
    (member : fixture ∈ catalog.fixtures) : catalog.stored? fixture.typeName = some fixture := by
  have looked := keyed.lookup?_typeName member
  unfold lookup? at looked
  rw [stripRequired_append] at looked
  exact looked

/-- The type names of a catalog tell all of its fixtures, in their order. -/
theorem Keyed.filterMap_stored? {catalog : Catalog} (keyed : catalog.Keyed) :
    catalog.typeNames.filterMap catalog.stored? = catalog.fixtures := by
  rw [typeNames, List.filterMap_map]
  calc catalog.fixtures.filterMap (catalog.stored? ∘ Fixture.typeName)
      = catalog.fixtures.filterMap some :=
        List.filterMap_congr fun fixture member => keyed.stored?_typeName member
    _ = catalog.fixtures := List.filterMap_some

theorem Keyed.fixtures_insertAll {catalog : Catalog} (keyed : catalog.Keyed)
    (extra : List Fixture) :
    (catalog.insertAll extra).fixtures =
      catalog.fixtures.map (fun stored => (lastFor? stored.typeName extra).getD stored) ++
        (catalog.newNames extra).filterMap (lastFor? · extra) := by
  rw [← (keyed.insertAll extra).filterMap_stored?, typeNames_insertAll, List.filterMap_append]
  congr 1
  · rw [typeNames, List.filterMap_map, ← List.filterMap_eq_map]
    apply List.filterMap_congr
    intro fixture member
    rw [Function.comp_apply, stored?_insertAll, keyed.stored?_typeName member,
      Option.or_some, Function.comp_apply]
  · apply List.filterMap_congr
    intro name isNew
    have notStored : name ∉ catalog.typeNames := by
      simpa using (List.mem_filter.mp (List.mem_eraseDups.mp isNew)).2
    rw [stored?_insertAll, stored?_eq_none notStored, Option.or_none]

/-- What is stored to begin with, nothing or the builtin fixtures, with any lists stored in it. -/
inductive IsStored : Catalog → Prop
  | empty : IsStored empty
  | builtin : IsStored builtin
  | insertAll {catalog : Catalog} (isStored : IsStored catalog) (extra : List Fixture) :
      IsStored (catalog.insertAll extra)

theorem IsStored.keyed {catalog : Catalog} (isStored : catalog.IsStored) : catalog.Keyed := by
  induction isStored with
  | empty => exact List.nodup_nil
  | builtin => exact keyed_builtin
  | insertAll isStored extra induction => exact induction.insertAll extra

/-- In every catalog type names are pairwise distinct. Storing a list overrides what the catalog
finds with what the list gives last; a type name keeps its place, with its fixture replaced if the
list has one for it, and the other names of the list follow, each where it is first given. -/
theorem override_of_isStored {catalog : Catalog} (isStored : catalog.IsStored) :
    catalog.typeNames.Nodup ∧
      ∀ extra : List Fixture,
        (∀ raw, (catalog.insertAll extra).lookup? raw =
          (lastFor? (stripRequired raw) extra).or (catalog.lookup? raw)) ∧
        (catalog.insertAll extra).fixtures =
          catalog.fixtures.map (fun stored => (lastFor? stored.typeName extra).getD stored) ++
            (catalog.newNames extra).filterMap (lastFor? · extra) ∧
        (catalog.insertAll extra).typeNames = catalog.typeNames ++ catalog.newNames extra ∧
        (catalog.insertAll extra).size = catalog.size + (catalog.newNames extra).length := by
  refine ⟨isStored.keyed, fun extra => ⟨lookup?_insertAll catalog extra,
    isStored.keyed.fixtures_insertAll extra, typeNames_insertAll catalog extra, ?_⟩⟩
  have lengths := congrArg List.length (typeNames_insertAll catalog extra)
  rw [typeNames, typeNames, List.length_map, List.length_append, List.length_map] at lengths
  exact lengths

/-- A fixture of its own and one in place of a builtin one. -/
def shopFixtures : List Fixture :=
  [⟨"Shop.Cart.isRequired", "cart", "fixtures/cart.json"⟩,
    ⟨"RomanPropTypes.User", "admin", "fixtures/admin.json"⟩]

theorem override_of_isStored_shop :
    builtin.IsStored ∧ (builtin.insertAll shopFixtures).lookup? "RomanPropTypes.User.isRequired" =
        some ⟨"RomanPropTypes.User", "admin", "fixtures/admin.json"⟩ ∧
      (builtin.insertAll shopFixtures).typeNames = builtin.typeNames ++ ["Shop.Cart"] ∧
      (builtin.insertAll shopFixtures).size = 18 := by
  obtain ⟨looked, _, names, size⟩ := (override_of_isStored .builtin).2 shopFixtures
  have newNames : builtin.newNames shopFixtures = ["Shop.Cart"] := by decide +kernel
  refine ⟨.builtin, ?_, ?_, ?_⟩
  · rw [looked]
    decide +kernel
  · rw [names, newNames]
  · rw [size, newNames]
    rfl

end Catalog

end SnapshotGen
