import SnapshotGen.Proofs.Catalog.Override

/-!
Finding fixtures under the type names that they are stored with. Storing strips a type name once and
looking it up strips it again, so a name is only found if one stripping leaves nothing to strip: if
it was not given with two marks. With a mark of its own every stored name is found.
-/

namespace SnapshotGen

namespace Fixture

def MarkedTwice (text : String) : Prop :=
  (requiredMark ++ requiredMark).toList <:+ text.toList

instance (text : String) : Decidable (MarkedTwice text) :=
  inferInstanceAs (Decidable (_ <:+ _))

theorem markedTwice_append (text : String) :
    MarkedTwice (text ++ requiredMark) ↔ requiredMark.toList <:+ text.toList := by
  unfold MarkedTwice
  rw [String.toList_append, String.toList_append]
  constructor
  · rintro ⟨front, same⟩
    rw [← List.append_assoc] at same
    exact ⟨front, List.append_cancel_right same⟩
  · rintro ⟨front, same⟩
    exact ⟨front, by rw [← same, List.append_assoc]⟩

theorem suffix_of_markedTwice {text : String} (twice : MarkedTwice text) :
    requiredMark.toList <:+ text.toList := by
  unfold MarkedTwice at twice
  rw [String.toList_append] at twice
  exact (List.suffix_append _ _).trans twice

/-- What is left of a text has a mark just if the text had two. -/
theorem suffix_stripRequired_iff (text : String) :
    requiredMark.toList <:+ (stripRequired text).toList ↔ MarkedTwice text := by
  by_cases marked : requiredMark.toList <:+ text.toList
  · obtain ⟨front, rfl⟩ := exists_append_of_suffix marked
    rw [stripRequired_append, markedTwice_append]
  · rw [stripRequired_of_not_suffix marked]
    apply iff_of_false marked
    exact fun twice => marked (suffix_of_markedTwice twice)

theorem stripRequired_stripRequired_eq_iff (text : String) :
    stripRequired (stripRequired text) = stripRequired text ↔ ¬MarkedTwice text := by
  rw [stripRequired_eq_self_iff, suffix_stripRequired_iff]

end Fixture

open Fixture

namespace Catalog

theorem Keyed.lookup?_typeName_eq_iff {catalog : Catalog} (keyed : catalog.Keyed)
    {fixture : Fixture} (stored : fixture ∈ catalog.fixtures) :
    catalog.lookup? fixture.typeName = some fixture ↔
      stripRequired fixture.typeName = fixture.typeName := by
  constructor
  · intro found
    have isKey := List.find?_some found
    exact (beq_iff_eq.mp isKey).symm
  · intro isKey
    have looked : catalog.lookup? fixture.typeName = catalog.stored? fixture.typeName := by
      rw [lookup?, isKey, stored?]
    rw [looked, keyed.stored?_typeName stored]

def FindsOwnNames (catalog : Catalog) : Prop :=
  ∀ fixture ∈ catalog.fixtures, catalog.lookup? fixture.typeName = some fixture

theorem Keyed.findsOwnNames_iff {catalog : Catalog} (keyed : catalog.Keyed) :
    catalog.FindsOwnNames ↔ ∀ name ∈ catalog.typeNames, stripRequired name = name := by
  unfold FindsOwnNames typeNames
  rw [List.forall_mem_map]
  exact forall₂_congr fun _ stored => keyed.lookup?_typeName_eq_iff stored

/-- The names of a list are stored, at places of their own or at earlier ones. -/
theorem mem_typeNames_insertAll {catalog : Catalog} {extra : List Fixture} {name : String} :
    name ∈ (catalog.insertAll extra).typeNames ↔
      name ∈ catalog.typeNames ∨ ∃ fixture ∈ extra, fixture.key = name := by
  rw [typeNames_insertAll, List.mem_append, newNames, List.mem_eraseDups, List.mem_filter,
    List.mem_map]
  constructor
  · rintro (known | ⟨isGiven, -⟩)
    · exact .inl known
    · exact .inr isGiven
  · rintro (known | isGiven)
    · exact .inl known
    · by_cases known : name ∈ catalog.typeNames
      · exact .inl known
      · exact .inr ⟨isGiven, decide_eq_true known⟩

theorem Keyed.findsOwnNames_insertAll_iff {catalog : Catalog} (keyed : catalog.Keyed)
    (extra : List Fixture) :
    (catalog.insertAll extra).FindsOwnNames ↔
      catalog.FindsOwnNames ∧ ∀ fixture ∈ extra, ¬MarkedTwice fixture.typeName := by
  rw [(keyed.insertAll extra).findsOwnNames_iff, keyed.findsOwnNames_iff]
  simp only [mem_typeNames_insertAll, or_imp, forall_and, forall_exists_index, and_imp,
    forall_apply_eq_imp_iff₂]
  apply and_congr_right'
  exact forall₂_congr fun fixture _ => stripRequired_stripRequired_eq_iff fixture.typeName

/-- With the mark of a required type every stored type name finds its fixture; without it a name
does just if it has no mark left. So all names of a list are found just if none of them was given
with two marks, and for the same reason stripping once or twice is not the same. -/
theorem lookup?_typeName_of_isStored {catalog : Catalog} (isStored : catalog.IsStored) :
    (∀ fixture ∈ catalog.fixtures,
      catalog.lookup? (fixture.typeName ++ requiredMark) = some fixture ∧
      (catalog.lookup? fixture.typeName = some fixture ↔
        stripRequired fixture.typeName = fixture.typeName)) ∧
    (∀ extra : List Fixture, (catalog.insertAll extra).FindsOwnNames ↔
      catalog.FindsOwnNames ∧ ∀ fixture ∈ extra, ¬MarkedTwice fixture.typeName) ∧
    ∀ text : String,
      stripRequired (stripRequired text) = stripRequired text ↔ ¬MarkedTwice text := by
  refine ⟨fun fixture stored => ⟨?_, ?_⟩, ?_, stripRequired_stripRequired_eq_iff⟩
  · exact isStored.keyed.lookup?_typeName stored
  · exact isStored.keyed.lookup?_typeName_eq_iff stored
  · exact isStored.keyed.findsOwnNames_insertAll_iff

def twiceMarkedCart : Fixture :=
  ⟨"Shop.Cart.isRequired.isRequired", "cart", "fixtures/cart.json"⟩

/-- The builtin fixtures and those of a shop are all found; with a cart marked twice among them they
are not, but the cart is found by both of its marks. -/
theorem lookup?_typeName_of_isStored_cart :
    (builtin.insertAll shopFixtures).FindsOwnNames ∧
      ¬(builtin.insertAll (twiceMarkedCart :: shopFixtures)).FindsOwnNames ∧
      (builtin.insertAll [twiceMarkedCart]).lookup? twiceMarkedCart.typeName =
        some twiceMarkedCart.keyed := by
  obtain ⟨-, findsAll, -⟩ := lookup?_typeName_of_isStored .builtin
  obtain ⟨found, -, -⟩ := lookup?_typeName_of_isStored (.insertAll .builtin [twiceMarkedCart])
  have isStored : twiceMarkedCart.keyed ∈ (builtin.insertAll [twiceMarkedCart]).fixtures := by
    decide +kernel
  refine ⟨(findsAll _).mpr ⟨?_, by decide +kernel⟩, fun allFound => ?_, (found _ isStored).1⟩
  · unfold FindsOwnNames
    decide +kernel
  · exact ((findsAll _).mp allFound).2 twiceMarkedCart (.head _) (by decide +kernel)

/-- The cart is stored under a name that does not find it. -/
theorem twiceMarkedCart_not_found :
    let catalog := empty.insertAll [twiceMarkedCart]
    catalog.IsStored ∧ twiceMarkedCart.keyed ∈ catalog.fixtures ∧
      catalog.lookup? twiceMarkedCart.keyed.typeName = none ∧
      stripRequired (stripRequired twiceMarkedCart.typeName) ≠
        stripRequired twiceMarkedCart.typeName := by
  refine ⟨.insertAll .empty _, ?_, ?_, ?_⟩ <;> decide +kernel

end Catalog

end SnapshotGen
