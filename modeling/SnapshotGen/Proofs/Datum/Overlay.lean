import Mathlib.Data.String.Basic
import SnapshotGen.Datum.Basic

/-!
Layers of data. What lies at the end of a path in data laid over others is what the higher data
have there, else what the lower ones have. Records are merged, so this is said of anything but what
stands in a record.
-/

namespace SnapshotGen.Datum

variable {key other : String} {value datum low high : Datum} {entries base : List (String × Datum)}

theorem entry?_cons_self : entry? key ((key, value) :: entries) = some value := by
  simp [Datum.entry?]

theorem entry?_cons_other (differs : key ≠ other) :
    entry? other ((key, value) :: entries) = entry? other entries := by
  simp [Datum.entry?, differs]

theorem entry?_putEntry_self : entry? key (putEntry key value entries) = some value := by
  induction entries with
  | nil => exact entry?_cons_self
  | cons entry entries induction =>
      obtain ⟨other, kept⟩ := entry
      unfold putEntry
      split
      · exact entry?_cons_self
      · rename_i differs
        split
        · exact entry?_cons_self
        · rw [entry?_cons_other (Ne.symm differs), induction]

theorem entry?_putEntry_other (differs : key ≠ other) :
    entry? other (putEntry key value entries) = entry? other entries := by
  induction entries with
  | nil => exact entry?_cons_other differs
  | cons entry entries induction =>
      obtain ⟨third, kept⟩ := entry
      unfold putEntry
      split
      · rename_i same
        subst same
        rw [entry?_cons_other differs, entry?_cons_other differs]
      · split
        · exact entry?_cons_other differs
        · by_cases isThird : third = other
          · subst isThird
            rw [entry?_cons_self, entry?_cons_self]
          · rw [entry?_cons_other isThird, entry?_cons_other isThird, induction]

theorem mem_of_entry?_eq_some (found : entry? key entries = some datum) :
    (key, datum) ∈ entries := by
  obtain ⟨entry, isFound, rfl⟩ := Option.map_eq_some_iff.mp found
  have sameKey : entry.1 = key := by simpa using List.find?_some isFound
  exact sameKey ▸ List.mem_of_find?_eq_some isFound

theorem entry?_eq_none (noKey : ∀ entry ∈ entries, entry.1 ≠ key) : entry? key entries = none := by
  simpa [Datum.entry?] using noKey

def isRecord : Datum → Bool
  | record _ => true
  | _ => false

/-- Keys rise from entry to entry, so each stands there once. -/
def Sorted (entries : List (String × Datum)) : Prop :=
  entries.Pairwise fun first second => first.1 < second.1

/-- Every record in a datum is sorted. Lists are not looked into, no path leads through them. -/
inductive Ordered : Datum → Prop
  | ofRecord {entries : List (String × Datum)} (sorted : Sorted entries)
      (inside : ∀ entry ∈ entries, Ordered entry.2) : Ordered (record entries)
  | ofPlain {datum : Datum} (notRecord : datum.isRecord = false) : Ordered datum

theorem Ordered.sorted (ordered : (record entries).Ordered) : Sorted entries := by
  cases ordered with
  | ofRecord sorted _ => exact sorted
  | ofPlain notRecord => contradiction

theorem Ordered.inside (ordered : (record entries).Ordered) :
    ∀ entry ∈ entries, entry.2.Ordered := by
  cases ordered with
  | ofRecord _ inside => exact inside
  | ofPlain notRecord => contradiction

theorem mem_putEntry {entry : String × Datum} (member : entry ∈ putEntry key value entries) :
    entry = (key, value) ∨ entry ∈ entries := by
  induction entries with
  | nil => exact .inl (List.mem_singleton.mp member)
  | cons first entries induction =>
      unfold putEntry at member
      split at member
      · rcases List.mem_cons.mp member with isNew | inRest
        · exact .inl isNew
        · exact .inr (.tail _ inRest)
      · split at member
        · exact List.mem_cons.mp member
        · rcases List.mem_cons.mp member with isFirst | inRest
          · exact .inr (isFirst ▸ .head _)
          · exact (induction inRest).imp_right (.tail _)

theorem Sorted.putEntry (sorted : Sorted entries) : Sorted (putEntry key value entries) := by
  induction entries with
  | nil => exact List.pairwise_singleton _ _
  | cons first entries induction =>
      obtain ⟨before, restSorted⟩ := List.pairwise_cons.mp sorted
      unfold Datum.putEntry
      split
      · rename_i same
        exact List.pairwise_cons.mpr ⟨fun entry inRest => same ▸ before entry inRest, restSorted⟩
      · rename_i differs
        split
        · rename_i less
          refine List.pairwise_cons.mpr ⟨fun entry member => ?_, sorted⟩
          rcases List.mem_cons.mp member with rfl | inRest
          · exact less
          · exact less.trans (before entry inRest)
        · rename_i notLess
          refine List.pairwise_cons.mpr ⟨fun entry member => ?_, induction restSorted⟩
          rcases mem_putEntry member with rfl | inRest
          · exact lt_of_le_of_ne (not_lt.mp notLess) (Ne.symm differs)
          · exact before entry inRest

theorem Ordered.putEntry (ordered : (record entries).Ordered) (valueOrdered : value.Ordered) :
    (record (putEntry key value entries)).Ordered := by
  refine .ofRecord ordered.sorted.putEntry fun entry member => ?_
  rcases mem_putEntry member with rfl | inEntries
  · exact valueOrdered
  · exact ordered.inside entry inEntries

theorem ordered_nil : (record []).Ordered :=
  .ofRecord .nil (by simp)

mutual

theorem ordered_overlay : (low high : Datum) → low.Ordered → high.Ordered →
    (overlay low high).Ordered
  | record base, record entries, lowOrdered, highOrdered =>
      ordered_overlayEntries base entries lowOrdered highOrdered.inside
  | null, record _, _, ordered | flag _, record _, _, ordered | whole _ _, record _, _, ordered
  | fraction _, record _, _, ordered | letter _, record _, _, ordered
  | text _, record _, _, ordered | list _, record _, _, ordered => ordered
  | _, null, _, ordered | _, flag _, _, ordered | _, whole _ _, _, ordered
  | _, fraction _, _, ordered | _, letter _, _, ordered | _, text _, _, ordered
  | _, list _, _, ordered => ordered

theorem ordered_overlayEntries : (base entries : List (String × Datum)) → (record base).Ordered →
    (∀ entry ∈ entries, entry.2.Ordered) → (record (overlayEntries base entries)).Ordered
  | _, [], baseOrdered, _ => baseOrdered
  | base, (key, datum) :: more, baseOrdered, inside => by
      have datumOrdered : datum.Ordered := inside (key, datum) (.head _)
      have moreOrdered : ∀ entry ∈ more, entry.2.Ordered := fun entry member =>
        inside entry (.tail _ member)
      unfold overlayEntries
      dsimp only
      cases found : entry? key base with
      | none => exact ordered_overlayEntries _ more (baseOrdered.putEntry datumOrdered) moreOrdered
      | some lower =>
          have lowerOrdered := baseOrdered.inside _ (mem_of_entry?_eq_some found)
          have bothOrdered := ordered_overlay lower datum lowerOrdered datumOrdered
          exact ordered_overlayEntries _ more (baseOrdered.putEntry bothOrdered) moreOrdered

end

structure IsTable (datum : Datum) : Prop where
  ordered : datum.Ordered
  isRecord : datum.isRecord = true

theorem isTable_nil : (record []).IsTable :=
  ⟨ordered_nil, rfl⟩

theorem IsTable.overlay (lowTable : low.IsTable) (highTable : high.IsTable) :
    (overlay low high).IsTable := by
  refine ⟨ordered_overlay low high lowTable.ordered highTable.ordered, ?_⟩
  obtain ⟨_, isRecord⟩ := highTable
  cases high with
  | record entries => cases low <;> rfl
  | _ => contradiction

def at? : List String → Datum → Option Datum
  | [], datum => some datum
  | key :: path, record entries => (Datum.entry? key entries).bind (at? path)
  | _ :: _, _ => none

/-- Nothing but records stands in the way along a path. -/
def IsClear : List String → Datum → Prop
  | [], _ => True
  | key :: path, record entries => ∀ inner ∈ entry? key entries, IsClear path inner
  | _ :: _, _ => False

/-- A datum but for what a record holds. -/
def outline : Datum → Datum
  | record _ => record []
  | datum => datum

def leaf? (path : List String) (datum : Datum) : Option Datum :=
  (at? path datum).map outline

theorem eq_of_outline_eq (same : outline low = outline high) (notRecord : low.isRecord = false) :
    low = high := by
  cases low <;> cases high <;> first | exact same | contradiction

theorem leaf?_cons_record {path : List String} :
    leaf? (key :: path) (record entries) = (Datum.entry? key entries).bind (leaf? path) := by
  change ((Datum.entry? key entries).bind (at? path)).map outline = _
  cases entry? key entries <;> rfl

theorem outline_overlay : outline (overlay low high) = outline high := by
  cases high with
  | record entries => cases low <;> rfl
  | _ => rfl

def laidOver (low : Option Datum) (high : Datum) : Datum :=
  low.elim high (overlay · high)

theorem overlayEntries_cons {more : List (String × Datum)} :
    overlayEntries base ((key, value) :: more) =
      overlayEntries (putEntry key (laidOver (Datum.entry? key base) value) base) more := by
  conv_lhs => unfold overlayEntries
  cases entry? key base <;> rfl

theorem entry?_overlayEntries (sorted : Sorted entries) :
    entry? key (overlayEntries base entries) =
      ((Datum.entry? key entries).map (laidOver (Datum.entry? key base))).or
        (Datum.entry? key base) := by
  induction entries generalizing base with
  | nil => rfl
  | cons entry entries induction =>
      obtain ⟨first, value⟩ := entry
      obtain ⟨before, restSorted⟩ := List.pairwise_cons.mp sorted
      rw [overlayEntries_cons, induction restSorted]
      by_cases same : first = key
      · subst same
        have noMore : entry? first entries = none :=
          entry?_eq_none fun entry member => ne_of_gt (before entry member)
        rw [noMore, entry?_putEntry_self, entry?_cons_self]
        rfl
      · rw [entry?_putEntry_other same, entry?_cons_other same]

theorem leaf?_overlay {path : List String} (ordered : high.Ordered) (isClear : IsClear path high) :
    leaf? path (overlay low high) = (leaf? path high).or (leaf? path low) := by
  induction path generalizing low high with
  | nil => simp [leaf?, at?, outline_overlay]
  | cons key path induction =>
      cases high with
      | record entries =>
          cases low with
          | record base =>
              change leaf? (key :: path) (record (overlayEntries base entries)) = _
              rw [leaf?_cons_record, leaf?_cons_record, leaf?_cons_record,
                entry?_overlayEntries ordered.sorted]
              cases found : entry? key entries with
              | none => simp
              | some upper =>
                  have upperOrdered := ordered.inside _ (mem_of_entry?_eq_some found)
                  cases entry? key base with
                  | none => simp [laidOver]
                  | some lower => exact induction upperOrdered (isClear upper found)
          | _ => simp [overlay, leaf?, at?]
      | _ => exact isClear.elim

theorem IsClear.overlay {path : List String} (ordered : high.Ordered) (lowClear : IsClear path low)
    (highClear : IsClear path high) : IsClear path (overlay low high) := by
  induction path generalizing low high with
  | nil => trivial
  | cons key path induction =>
      cases high with
      | record entries =>
          cases low with
          | record base =>
              change ∀ inner ∈ entry? key (overlayEntries base entries), IsClear path inner
              rw [entry?_overlayEntries ordered.sorted]
              cases found : entry? key entries with
              | none => exact lowClear
              | some upper =>
                  have upperOrdered := ordered.inside _ (mem_of_entry?_eq_some found)
                  rintro inner ⟨⟩
                  cases isLower : entry? key base with
                  | none => exact highClear upper found
                  | some lower =>
                      exact induction upperOrdered (lowClear lower isLower) (highClear upper found)
          | _ => exact lowClear.elim
      | _ => exact highClear.elim

section Layers

variable {path : List String} {layers : List Datum}

theorem isTable_foldl (lowTable : low.IsTable) (areTables : ∀ layer ∈ layers, layer.IsTable) :
    (layers.foldl overlay low).IsTable := by
  induction layers generalizing low with
  | nil => exact lowTable
  | cons layer layers induction =>
      obtain ⟨layerTable, moreTables⟩ := List.forall_mem_cons.mp areTables
      exact induction (lowTable.overlay layerTable) moreTables

theorem isClear_foldl (lowClear : IsClear path low) (areTables : ∀ layer ∈ layers, layer.IsTable)
    (areClear : ∀ layer ∈ layers, IsClear path layer) :
    IsClear path (layers.foldl overlay low) := by
  induction layers generalizing low with
  | nil => exact lowClear
  | cons layer layers induction =>
      obtain ⟨layerTable, moreTables⟩ := List.forall_mem_cons.mp areTables
      obtain ⟨layerClear, moreClear⟩ := List.forall_mem_cons.mp areClear
      exact induction (lowClear.overlay layerTable.ordered layerClear) moreTables moreClear

/-- The highest layer that has something at the end of a path counts there. -/
theorem leaf?_foldl (areTables : ∀ layer ∈ layers, layer.IsTable)
    (areClear : ∀ layer ∈ layers, IsClear path layer) :
    leaf? path (layers.foldl overlay low) =
      (layers.reverse.findSome? (leaf? path)).or (leaf? path low) := by
  induction layers generalizing low with
  | nil => rfl
  | cons layer layers induction =>
      obtain ⟨layerTable, moreTables⟩ := List.forall_mem_cons.mp areTables
      obtain ⟨layerClear, moreClear⟩ := List.forall_mem_cons.mp areClear
      rw [List.foldl_cons, induction moreTables moreClear,
        leaf?_overlay layerTable.ordered layerClear, List.reverse_cons, List.findSome?_append,
        Option.or_assoc]
      simp

end Layers

end SnapshotGen.Datum
