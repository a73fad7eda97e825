import SnapshotGen.Proofs.Datum.Readings
import SnapshotGen.Toml.Document

/-!
What a TOML document gives is a record, and every record in it is sorted. A table keeps its entries
as they come, and is sorted when it is done.
-/

namespace SnapshotGen.Toml

open Text (Reading)
open Text.Reading

inductive Item.Ordered : Item → Prop
  | ofValue {value : Datum} (ordered : value.Ordered) : Item.Ordered (.value value)
  | ofTable {isImplied isDotted : Bool} {entries : List (String × Item)}
      (inside : ∀ entry ∈ entries, Item.Ordered entry.2) :
      Item.Ordered (.table isImplied isDotted entries)
  | ofTables {rows : List (List (String × Item))}
      (inside : ∀ row ∈ rows, ∀ entry ∈ row, Item.Ordered entry.2) : Item.Ordered (.tables rows)

def Table.Ordered (table : Table) : Prop :=
  ∀ entry ∈ table.entries, entry.2.Ordered

theorem ordered_recordOf {entries : List (String × Item)}
    (inside : ∀ entry ∈ entries, entry.2.datum.Ordered) :
    (Datum.record (recordOf entries)).Ordered := by
  induction entries with
  | nil =>
      rw [recordOf]
      exact Datum.ordered_nil
  | cons entry entries induction =>
      obtain ⟨valueOrdered, moreOrdered⟩ := List.forall_mem_cons.mp inside
      rw [recordOf]
      exact (induction moreOrdered).putEntry valueOrdered

theorem Item.Ordered.datum {item : Item} (ordered : item.Ordered) : item.datum.Ordered := by
  induction ordered with
  | ofValue ordered =>
      rw [Item.datum]
      exact ordered
  | ofTable _ induction =>
      rw [Item.datum]
      exact ordered_recordOf induction
  | ofTables _ _ =>
      rw [Item.datum]
      exact .ofPlain rfl

namespace Table

variable {table result : Table}

theorem Ordered.datum (ordered : table.Ordered) : table.datum.Ordered :=
  ordered_recordOf fun entry member => (ordered entry member).datum

theorem ordered_top : top.Ordered := by
  simp [Ordered, top]

theorem Ordered.setEntry (ordered : table.Ordered) {key : String} {item : Item}
    (itemOrdered : item.Ordered) : (table.setEntry key item).Ordered := by
  unfold Table.setEntry
  intro entry member
  dsimp only at member
  split at member
  · obtain ⟨kept, isKept, rfl⟩ := List.mem_map.mp member
    split
    · exact itemOrdered
    · exact ordered kept isKept
  · rcases List.mem_append.mp member with inTable | isLast
    · exact ordered entry inTable
    · rw [List.mem_singleton.mp isLast]
      exact itemOrdered

theorem Ordered.entry? (ordered : table.Ordered) {key : String} {item : Item}
    (found : table.entry? key = some item) : item.Ordered := by
  obtain ⟨entry, isFound, rfl⟩ := Option.map_eq_some_iff.mp found
  exact ordered entry (List.mem_of_find?_eq_some isFound)

/-- A change at the end of a path keeps a table ordered if it keeps the table there so. -/
theorem Ordered.change {dotted : Bool} {f : Table → Option Table}
    (keeps : ∀ {inner changed : Table}, inner.Ordered → f inner = some changed → changed.Ordered)
    {path : List String} (ordered : table.Ordered)
    (changed : Table.change dotted f path table = some result) : result.Ordered := by
  induction path generalizing table result with
  | nil => exact keeps ordered changed
  | cons key path induction =>
      unfold Table.change at changed
      split at changed
      · obtain ⟨inner, innerChanged, same⟩ := Option.bind_eq_some_iff.mp changed
        cases same
        exact ordered.setEntry (.ofTable (induction (by simp [Ordered]) innerChanged))
      · contradiction
      · rename_i isImplied isDotted entries found
        split at changed
        · contradiction
        · obtain ⟨inner, innerChanged, same⟩ := Option.bind_eq_some_iff.mp changed
          cases same
          have entriesOrdered : Ordered ⟨isImplied, isDotted, entries⟩ := by
            cases ordered.entry? found with
            | ofTable inside => exact inside
          exact ordered.setEntry (.ofTable (induction entriesOrdered innerChanged))
      · rename_i rows found
        split at changed
        · contradiction
        · rename_i entries isLast
          obtain ⟨row, rowChanged, same⟩ := Option.bind_eq_some_iff.mp changed
          cases same
          cases ordered.entry? found with
          | ofTables inside =>
              have lastOrdered : Ordered ⟨false, false, entries⟩ :=
                inside entries (List.mem_of_getLast? isLast)
              refine ordered.setEntry (.ofTables fun other isRow => ?_)
              rcases List.mem_append.mp isRow with isEarlier | isChanged
              · exact inside other (List.dropLast_subset _ isEarlier)
              · rw [List.mem_singleton.mp isChanged]
                exact induction lastOrdered rowChanged

theorem Ordered.put {header path : List String} {value : Datum} (ordered : table.Ordered)
    (valueOrdered : value.Ordered) (put : table.put header path value = some result) :
    result.Ordered := by
  unfold Table.put at put
  split at put
  · contradiction
  · refine ordered.change (fun headed changed => headed.change (fun parent added => ?_) changed) put
    unfold putNew at added
    split at added
    · contradiction
    · split at added
      · contradiction
      · cases added
        exact parent.setEntry (.ofValue valueOrdered)

theorem Ordered.start {header : List String} (ordered : table.Ordered)
    (started : table.start header = some result) : result.Ordered := by
  unfold Table.start at started
  split at started
  · contradiction
  · refine ordered.change (fun parent added => ?_) started
    unfold startIn at added
    split at added
    · cases added
      exact parent.setEntry (.ofTable (by simp))
    · rename_i found
      cases added
      cases parent.entry? found with
      | ofTable inside => exact parent.setEntry (.ofTable inside)
    · contradiction

theorem Ordered.startRow {header : List String} (ordered : table.Ordered)
    (started : table.startRow header = some result) : result.Ordered := by
  unfold Table.startRow at started
  split at started
  · contradiction
  · refine ordered.change (fun parent added => ?_) started
    unfold startRowIn at added
    split at added
    · cases added
      exact parent.setEntry (.ofTables (by simp))
    · rename_i rows found
      cases added
      cases parent.entry? found with
      | ofTables inside =>
          refine parent.setEntry (.ofTables fun row isRow => ?_)
          rcases List.mem_append.mp isRow with isEarlier | isNew
          · exact inside row isEarlier
          · rw [List.mem_singleton.mp isNew]
            simp
    · contradiction

end Table

section Values

variable (value : Reading Datum) [Gives Datum.Ordered value]

instance gives_array : Gives Datum.Ordered (array value) := by
  unfold array
  infer_instance

instance gives_keyValue : Gives (fun entry => entry.2.Ordered) (keyValue value) where
  gives done := by
    unfold keyValue at done
    obtain ⟨path, _, _, done⟩ := bind_eq_some done
    obtain ⟨_, _, _, done⟩ := bind_eq_some done
    obtain ⟨_, _, _, done⟩ := bind_eq_some done
    obtain ⟨_, _, _, done⟩ := bind_eq_some done
    obtain ⟨datum, _, valueDone, same⟩ := bind_eq_some done
    cases same
    exact Gives.gives valueDone

omit value [Gives Datum.Ordered value] in
theorem ordered_of_foldlM {entries : List (List String × Datum)} {table result : Table}
    (ordered : table.Ordered) (inside : ∀ entry ∈ entries, entry.2.Ordered)
    (put : entries.foldlM (fun table entry => table.put [] entry.1 entry.2) table = some result) :
    result.Ordered := by
  induction entries generalizing table with
  | nil =>
      cases put
      exact ordered
  | cons entry entries induction =>
      obtain ⟨valueOrdered, moreOrdered⟩ := List.forall_mem_cons.mp inside
      rw [List.foldlM_cons] at put
      obtain ⟨next, first, rest⟩ := Option.bind_eq_some_iff.mp put
      exact induction (ordered.put valueOrdered first) moreOrdered rest

instance gives_inlineTable : Gives Datum.Ordered (inlineTable value) where
  gives done := by
    unfold inlineTable at done
    obtain ⟨_, _, _, done⟩ := bind_eq_some done
    obtain ⟨_, _, _, done⟩ := bind_eq_some done
    obtain ⟨entries, _, entriesDone, done⟩ := bind_eq_some done
    obtain ⟨_, _, _, done⟩ := bind_eq_some done
    obtain ⟨_, _, _, done⟩ := bind_eq_some done
    have inside : ∀ entry ∈ entries, entry.2.Ordered := by
      rcases orElse_eq_some entriesDone with done | done
      · obtain ⟨first, _, firstDone, done⟩ := bind_eq_some done
        obtain ⟨more, _, moreDone, same⟩ := bind_eq_some done
        cases same
        exact List.forall_mem_cons.mpr
          ⟨(gives_keyValue value).gives firstDone, forall_mem_of_many moreDone⟩
      · cases done
        simp
    cases put : entries.foldlM (fun table entry => table.put [] entry.1 entry.2) Table.top with
    | none =>
        rw [put] at done
        contradiction
    | some table =>
        rw [put] at done
        cases done
        exact (ordered_of_foldlM Table.ordered_top inside put).datum

end Values

instance gives_flag : Gives Datum.Ordered flag := by
  unfold flag
  infer_instance

instance gives_moment : Gives Datum.Ordered moment := by
  have single : ∀ key : String, Fact (Datum.record [(key, .text "")]).Ordered := fun _ =>
    ⟨.ofRecord (List.pairwise_singleton _ _) (by simpa using .ofPlain rfl)⟩
  unfold moment
  infer_instance

instance gives_fractionNumber : Gives Datum.Ordered fractionNumber := by
  unfold fractionNumber fractionDatum
  infer_instance

instance gives_specialNumber : Gives Datum.Ordered specialNumber := by
  unfold specialNumber fractionDatum
  infer_instance

instance gives_radixNumber (mark : String) (radix : Nat) :
    Gives Datum.Ordered (radixNumber mark radix) := by
  unfold radixNumber inRange
  infer_instance

instance gives_decimalNumber : Gives Datum.Ordered decimalNumber := by
  unfold decimalNumber inRange
  infer_instance

instance gives_valueUpTo (n : Nat) : Gives Datum.Ordered (valueUpTo n) := by
  induction n with
  | zero =>
      unfold valueUpTo
      infer_instance
  | succ n induction =>
      unfold valueUpTo
      infer_instance

instance gives_value : Gives Datum.Ordered value where
  gives done := (gives_valueUpTo _).gives done

def Line.Ordered : Line → Prop
  | .entry _ value => value.Ordered
  | _ => True

instance ordered_blank : Fact Line.blank.Ordered := ⟨trivial⟩

instance ordered_header (path : List String) : Fact (Line.header path).Ordered := ⟨trivial⟩

instance ordered_rowHeader (path : List String) : Fact (Line.rowHeader path).Ordered := ⟨trivial⟩

instance gives_entry : Gives Line.Ordered (do
    let (path, value) ← keyValue value
    return .entry path value) where
  gives done := by
    obtain ⟨entry, _, entryDone, same⟩ := bind_eq_some done
    cases same
    exact (gives_keyValue value).gives entryDone

instance gives_content : Gives Line.Ordered content := by
  unfold content
  infer_instance

instance gives_line : Gives Line.Ordered line where
  gives done := by
    unfold line at done
    obtain ⟨_, _, _, done⟩ := bind_eq_some done
    obtain ⟨content, _, contentDone, done⟩ := bind_eq_some done
    obtain ⟨_, _, _, done⟩ := bind_eq_some done
    obtain ⟨_, _, _, same⟩ := bind_eq_some done
    cases same
    exact Gives.gives contentDone

instance gives_lines : Gives (fun items => ∀ item ∈ items, Line.Ordered item) lines where
  gives done := by
    unfold lines at done
    obtain ⟨_, _, _, done⟩ := bind_eq_some done
    obtain ⟨first, _, firstDone, done⟩ := bind_eq_some done
    obtain ⟨more, _, moreDone, same⟩ := bind_eq_some done
    cases same
    exact List.forall_mem_cons.mpr ⟨Gives.gives firstDone, forall_mem_of_many moreDone⟩

theorem ordered_of_assemble {header : List String} {table result : Table} {items : List Line}
    (ordered : table.Ordered) (inside : ∀ item ∈ items, item.Ordered)
    (assembled : assemble header table items = some result) : result.Ordered := by
  induction items generalizing header table with
  | nil =>
      cases assembled
      exact ordered
  | cons item items induction =>
      obtain ⟨itemOrdered, moreOrdered⟩ := List.forall_mem_cons.mp inside
      cases item with
      | blank => exact induction ordered moreOrdered assembled
      | entry path value =>
          obtain ⟨next, put, rest⟩ := Option.bind_eq_some_iff.mp assembled
          exact induction (ordered.put itemOrdered put) moreOrdered rest
      | header path =>
          obtain ⟨next, started, rest⟩ := Option.bind_eq_some_iff.mp assembled
          exact induction (ordered.start started) moreOrdered rest
      | rowHeader path =>
          obtain ⟨next, started, rest⟩ := Option.bind_eq_some_iff.mp assembled
          exact induction (ordered.startRow started) moreOrdered rest

theorem isTable_of_read? {text : String} {datum : Datum} (read : read? text = some datum) :
    datum.IsTable := by
  unfold read? at read
  obtain ⟨items, isRead, read⟩ := Option.bind_eq_some_iff.mp read
  obtain ⟨table, assembled, same⟩ := Option.bind_eq_some_iff.mp read
  cases same
  have inside : ∀ item ∈ items, item.Ordered := gives_lines.holds_of_whole? isRead
  exact ⟨(ordered_of_assemble Table.ordered_top inside assembled).datum, rfl⟩

end SnapshotGen.Toml
