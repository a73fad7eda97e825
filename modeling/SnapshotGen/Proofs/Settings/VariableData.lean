import SnapshotGen.Proofs.Datum.Readings
import SnapshotGen.Proofs.Path.Pieces
import SnapshotGen.Settings.Variable
import SnapshotGen.Settings.VariableFile

/-!
The data that environment variables give. Each is a record that is ordered at every depth, and so
are all of them laid over one another. A file of variables adds only those that are not set.
-/

namespace SnapshotGen.Settings

open Text (Reading)
open Text.Reading Datum

namespace VariableValue

theorem forall_mem_of_itemsBefore {α : Type} {P : α → Prop} {back : Char} {item : Reading α}
    [Gives P item] {n : Nat} {cs rest : List Char} {items : List α}
    (done : itemsBefore back item n cs = some (items, rest)) : ∀ a ∈ items, P a := by
  induction n generalizing cs items with
  | zero => contradiction
  | succ n induction =>
      unfold itemsBefore at done
      rcases orElse_eq_some done with done | done
      · obtain ⟨_, _, _, same⟩ := bind_eq_some done
        cases same
        simp
      · obtain ⟨first, _, firstDone, done⟩ := bind_eq_some done
        have holds : P first := Gives.gives firstDone
        rcases orElse_eq_some done with done | done
        · obtain ⟨_, _, _, done⟩ := bind_eq_some done
          obtain ⟨more, _, moreDone, same⟩ := bind_eq_some done
          cases same
          exact List.forall_mem_cons.mpr ⟨holds, induction moreDone⟩
        · obtain ⟨_, _, _, same⟩ := bind_eq_some done
          cases same
          exact List.forall_mem_singleton.mpr holds

theorem forall_mem_of_enclosed {α : Type} {P : α → Prop} {front back : Char} {item : Reading α}
    [Gives P item] {cs rest : List Char} {items : List α}
    (done : enclosed front back item cs = some (items, rest)) : ∀ a ∈ items, P a := by
  obtain ⟨_, _, _, done⟩ := bind_eq_some done
  exact forall_mem_of_itemsBefore done

instance gives_entry (value : Reading Datum) [Gives Ordered value] :
    Gives (fun entry => entry.2.Ordered) (entry value) where
  gives done := by
    unfold entry at done
    obtain ⟨_, _, _, done⟩ := bind_eq_some done
    obtain ⟨key, _, _, done⟩ := bind_eq_some done
    obtain ⟨_, _, _, done⟩ := bind_eq_some done
    obtain ⟨_, _, _, done⟩ := bind_eq_some done
    obtain ⟨datum, _, valueDone, same⟩ := bind_eq_some done
    cases same
    exact Gives.gives valueDone

theorem ordered_recordOf {entries : List (String × Datum)}
    (inside : ∀ entry ∈ entries, entry.2.Ordered) : (recordOf entries).Ordered := by
  unfold recordOf
  suffices kept : ∀ known, (record known).Ordered →
      (record (entries.foldl (fun known entry => putEntry entry.1 entry.2 known)
        known)).Ordered from
    kept [] ordered_nil
  induction entries with
  | nil => exact fun _ knownOrdered => knownOrdered
  | cons entry entries induction =>
      obtain ⟨valueOrdered, moreOrdered⟩ := List.forall_mem_cons.mp inside
      exact fun known knownOrdered =>
        induction moreOrdered _ (knownOrdered.putEntry valueOrdered)

instance gives_letter : Gives Ordered letter := by
  unfold letter
  infer_instance

theorem ordered_plain (cs : List Char) : (plain cs).Ordered := by
  have ofFraction : ∀ datum ∈ fraction? cs, datum.Ordered := fun datum found => by
    have gives : Gives Ordered fraction := by
      unfold fraction Toml.fractionDatum
      infer_instance
    exact gives.holds_of_whole? found
  have ofUnsigned : ∀ datum ∈ unsigned? cs, datum.Ordered := fun datum found => by
    obtain ⟨n, _, kept⟩ := Option.bind_eq_some_iff.mp found
    split at kept
    · cases kept
      exact .ofPlain rfl
    · contradiction
  have ofSigned : ∀ datum ∈ signed? cs, datum.Ordered := fun datum found => by
    obtain ⟨n, _, kept⟩ := Option.bind_eq_some_iff.mp found
    split at kept
    · cases kept
      exact .ofPlain rfl
    · contradiction
  unfold plain
  cases found : (fraction? cs).or ((unsigned? cs).or (signed? cs)) with
  | none => exact .ofPlain rfl
  | some datum =>
      rw [Option.or_eq_some_iff, Option.or_eq_some_iff] at found
      rcases found with found | ⟨_, found | ⟨_, found⟩⟩
      · exact ofFraction datum found
      · exact ofUnsigned datum found
      · exact ofSigned datum found

instance ordered_plain_fact (cs : List Char) : Fact (plain cs).Ordered := ⟨ordered_plain cs⟩

instance gives_flag : Gives Ordered (flag <|> plainText) := by
  unfold flag plainText
  infer_instance

instance gives_unspaced (value : Reading Datum) [Gives Ordered value] :
    Gives Ordered (unspaced value) where
  gives done := by
    unfold unspaced at done
    split at done
    · obtain ⟨entries, _, entriesDone, same⟩ := bind_eq_some done
      cases same
      exact ordered_recordOf (forall_mem_of_enclosed entriesDone)
    · obtain ⟨items, _, _, same⟩ := bind_eq_some done
      cases same
      exact .ofPlain rfl
    · obtain ⟨text, _, _, same⟩ := bind_eq_some done
      cases same
      exact .ofPlain rfl
    · exact Gives.gives done
    · exact Gives.gives done

instance gives_valueUpTo (n : Nat) : Gives Ordered (valueUpTo n) := by
  induction n with
  | zero => exact gives_fail
  | succ n induction =>
      constructor
      intro _ _ _ done
      obtain ⟨_, _, _, done⟩ := bind_eq_some done
      obtain ⟨datum, _, datumDone, done⟩ := bind_eq_some done
      obtain ⟨_, _, _, same⟩ := bind_eq_some done
      cases same
      exact Gives.gives datumDone

theorem ordered_datum (text : String) : (datum text).Ordered := by
  unfold datum
  dsimp only
  cases read : whole? (valueUpTo (text.toList.length + 1)) text.toList with
  | none => exact .ofPlain rfl
  | some found => exact (gives_valueUpTo _).holds_of_whole? read

end VariableValue

namespace Variable

theorem ordered_nest {path : List String} {datum : Datum} (ordered : datum.Ordered) :
    (nest path datum).Ordered := by
  induction path with
  | nil => exact ordered
  | cons key path induction =>
      exact .ofRecord (List.pairwise_singleton _ _) (List.forall_mem_singleton.mpr induction)

theorem path?_ne_nil {name : String} {path : List String} (isPath : path? name = some path) :
    path ≠ [] := by
  unfold path? at isPath
  obtain ⟨behind, _, kept⟩ := Option.bind_eq_some_iff.mp isPath
  dsimp only at kept
  split at kept
  · contradiction
  · cases kept
    intro nothing
    exact Text.splitAt_ne_nil _ (List.map_eq_nil_iff.mp nothing)

theorem isTable_of_setting? {name value : String} {datum : Datum}
    (given : setting? name value = some datum) : datum.IsTable := by
  obtain ⟨path, isPath, rfl⟩ := Option.map_eq_some_iff.mp given
  refine ⟨ordered_nest (VariableValue.ordered_datum value), ?_⟩
  cases path with
  | nil => exact absurd rfl (path?_ne_nil isPath)
  | cons key path => rfl

/-- What variables give, one after another. Those that name no setting give nothing. -/
def givenBy («variables» : List (String × String)) : List Datum :=
  «variables».filterMap fun (name, value) => setting? name value

theorem isTable_of_givenBy {«variables» : List (String × String)} {datum : Datum}
    (member : datum ∈ givenBy «variables») : datum.IsTable := by
  obtain ⟨_, _, given⟩ := List.mem_filterMap.mp member
  exact isTable_of_setting? given

theorem settings_eq («variables» : List (String × String)) :
    settings ⟨«variables»⟩ = (givenBy «variables»).foldl overlay (.record []) :=
  rfl

theorem settings_append («variables» more : List (String × String)) :
    settings ⟨«variables» ++ more⟩ = (givenBy more).foldl overlay (settings ⟨«variables»⟩) := by
  rw [settings_eq, settings_eq, givenBy, List.filterMap_append, List.foldl_append]
  rfl

theorem isTable_settings («variables» : List (String × String)) :
    (settings ⟨«variables»⟩).IsTable :=
  isTable_foldl isTable_nil fun _ => isTable_of_givenBy

end Variable

namespace VariableFile

/-- Variables that stand behind those of an environment, under names that it does not set. -/
def Adds (environment : Environment) (added : List (String × String)) (later : Environment) :
    Prop :=
  later.variables = environment.variables ++ added ∧
    ∀ given ∈ added, environment.value? given.1 = none

theorem value?_of_adds {environment later : Environment} {added : List (String × String)}
    (adds : Adds environment added later) {name : String} (unset : later.value? name = none) :
    environment.value? name = none := by
  unfold Environment.value? at unset ⊢
  rw [adds.1, List.find?_append, Option.map_eq_none_iff, Option.or_eq_none_iff] at unset
  rw [unset.1]
  rfl

theorem exists_adds_setNew {environment later : Environment} {added : List (String × String)}
    (adds : Adds environment added later) (name value : String) :
    ∃ more, Adds environment (added ++ more) (later.setNew name value) := by
  unfold Environment.setNew
  split
  · exact ⟨[], by rwa [List.append_nil]⟩
  · rename_i unset
    refine ⟨[(name, value)], ?_, ?_⟩
    · rw [adds.1, List.append_assoc]
    · intro given member
      rcases List.mem_append.mp member with isKnown | isNew
      · exact adds.2 given isKnown
      · rw [List.mem_singleton.mp isNew]
        exact value?_of_adds adds unset

theorem exists_adds_assign {environment later : Environment} {added : List (String × String)}
    (adds : Adds environment added later) (lines : List (List Char)) :
    ∃ more, Adds environment (added ++ more) (assign later lines) := by
  induction lines generalizing later added with
  | nil => exact ⟨[], by rwa [List.append_nil]⟩
  | cons line lines induction =>
      unfold assign
      split
      · exact ⟨[], by rwa [List.append_nil]⟩
      · exact induction adds
      · rename_i name value _
        obtain ⟨first, addsFirst⟩ := exists_adds_setNew adds name value
        obtain ⟨more, addsMore⟩ := induction addsFirst
        exact ⟨first ++ more, by rwa [← List.append_assoc]⟩

theorem exists_adds_extend (environment : Environment) (text : String) :
    ∃ added, Adds environment added (extend environment text) := by
  have nothing : Adds environment [] environment := ⟨(List.append_nil _).symm, by simp⟩
  exact exists_adds_assign nothing _

end VariableFile

end SnapshotGen.Settings
