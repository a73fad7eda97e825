import SnapshotGen.Extraction.Defaults

/-!
What defaults become of props. Each prop takes the last default of its name; the names that are
left become props in the order in which they first come.
-/

namespace SnapshotGen.Extraction

variable {props : List PropDecl} {own given defaults : List Default} {name : String}

def lastDefault? (defaults : List Default) (name : String) : Option String :=
  (defaults.reverse.find? (·.1 == name)).map (·.2)

theorem lastDefault?_append (own given : List Default) (name : String) :
    lastDefault? (own ++ given) name = (lastDefault? given name).or (lastDefault? own name) := by
  rw [lastDefault?, List.reverse_append, List.find?_append, Option.map_or]
  rfl

theorem lastDefault?_cons (default : Default) (defaults : List Default) (name : String) :
    lastDefault? (default :: defaults) name =
      (lastDefault? defaults name).or (if default.1 = name then some default.2 else none) := by
  rw [← List.singleton_append, lastDefault?_append]
  by_cases same : default.1 = name <;> simp [lastDefault?, same]

theorem lastDefault?_isSome_iff :
    (lastDefault? defaults name).isSome ↔ name ∈ defaults.map (·.1) := by
  rw [lastDefault?, Option.isSome_map, List.find?_isSome]
  simp

theorem lastDefault?_filter_of_ne {other : String} (differ : name ≠ other) :
    lastDefault? (defaults.filter (·.1 != other)) name = lastDefault? defaults name := by
  induction defaults with
  | nil => rfl
  | cons default defaults induction =>
      rw [List.filter_cons, lastDefault?_cons]
      split
      · rw [lastDefault?_cons, induction]
      · rename_i isOther
        have isOther : default.1 = other := by simpa using isOther
        rw [if_neg (isOther ▸ Ne.symm differ), Option.or_none, induction]

def settle (prop : PropDecl) (defaults : List Default) : PropDecl :=
  { prop with declaredDefault := (lastDefault? defaults prop.name).or prop.declaredDefault }

theorem attachDefaults_cons (prop : PropDecl) (props : List PropDecl) (defaults : List Default) :
    attachDefaults (prop :: props) defaults =
      settle prop defaults :: attachDefaults props (defaults.filter (·.1 != prop.name)) := by
  induction defaults generalizing prop props with
  | nil =>
      cases prop
      simp [attachDefaults, settle, lastDefault?]
  | cons default defaults induction =>
      rw [attachDefaults, List.foldl_cons, attachDefault]
      split
      · rename_i same
        rw [← attachDefaults, induction, List.filter_cons_of_neg (by simp [same])]
        simp [settle, lastDefault?_cons, same]
      · rename_i differ
        rw [← attachDefaults, induction,
          List.filter_cons_of_pos (by simpa using Ne.symm differ)]
        simp [settle, lastDefault?_cons, Ne.symm differ, attachDefaults]

/-- The names of defaults that are no names of props, each where it first comes. -/
def addedNames (props : List PropDecl) (defaults : List Default) : List String :=
  ((defaults.map (·.1)).filter fun name => props.all (·.name != name)).eraseDups

theorem addedNames_cons (prop : PropDecl) (props : List PropDecl) (defaults : List Default) :
    addedNames (prop :: props) defaults =
      addedNames props (defaults.filter (·.1 != prop.name)) := by
  unfold addedNames
  rw [List.filter_map, List.filter_map, List.filter_filter]
  congr 2
  refine List.filter_congr fun default _ => ?_
  simp [Bool.and_comm, bne_comm]

theorem addedNames_nil (defaults : List Default) :
    addedNames [] defaults = (defaults.map (·.1)).eraseDups :=
  congrArg List.eraseDups (List.filter_eq_self.mpr fun _ _ => rfl)

theorem mem_addedNames_nil : name ∈ addedNames [] defaults ↔ name ∈ defaults.map (·.1) := by
  rw [addedNames_nil, List.mem_eraseDups]

/-- Without props all names are added, each with its last default. -/
theorem attachDefaults_nil : (defaults : List Default) →
    attachDefaults [] defaults = (addedNames [] defaults).map fun name =>
      .untyped name ((lastDefault? defaults name).getD "")
  | [] => rfl
  | default :: defaults => by
      have first : attachDefaults [] (default :: defaults) =
          attachDefaults [.untyped default.1 default.2] defaults := rfl
      have names : addedNames [] (default :: defaults) =
          default.1 :: addedNames [] (defaults.filter (·.1 != default.1)) := by
        rw [addedNames_nil, addedNames_nil, List.map_cons, List.eraseDups_cons, List.filter_map]
        rfl
      rw [first, attachDefaults_cons, PropDecl.untyped, attachDefaults_nil, names, List.map_cons]
      congr 1
      · simp [settle, lastDefault?_cons, PropDecl.untyped]
      · refine List.map_congr_left fun name isName => ?_
        have differ : name ≠ default.1 := by
          obtain ⟨other, isOther, rfl⟩ := List.mem_map.mp (mem_addedNames_nil.mp isName)
          simpa using (List.mem_filter.mp isOther).2
        rw [lastDefault?_filter_of_ne differ, lastDefault?_cons, if_neg (Ne.symm differ),
          Option.or_none]
termination_by defaults => defaults.length
decreasing_by exact Nat.lt_succ_of_le (List.length_filter_le _ _)

theorem map_name_attachDefaults_nil (defaults : List Default) :
    (attachDefaults [] defaults).map (·.name) = addedNames [] defaults := by
  rw [attachDefaults_nil, List.map_map]
  exact List.map_id' _

theorem settle_append_eq_iff {prop : PropDecl} (noDefault : prop.declaredDefault = none) :
    settle prop (own ++ given) = settle prop given ↔
      (prop.name ∈ own.map (·.1) → prop.name ∈ given.map (·.1)) := by
  rw [← lastDefault?_isSome_iff, ← lastDefault?_isSome_iff]
  simp only [settle, lastDefault?_append, noDefault, Option.or_none, PropDecl.mk.injEq, true_and]
  cases lastDefault? given prop.name with
  | some text => simp
  | none => cases lastDefault? own prop.name <;> simp

theorem names_subset_iff (name : String) :
    own.map (·.1) ⊆ given.map (·.1) ↔
      (name ∈ own.map (·.1) → name ∈ given.map (·.1)) ∧
        (own.filter (·.1 != name)).map (·.1) ⊆ (given.filter (·.1 != name)).map (·.1) := by
  have map_filter (defaults : List Default) : (defaults.filter (·.1 != name)).map (·.1) =
      (defaults.map (·.1)).filter (· != name) := by
    rw [List.filter_map]
    rfl
  rw [map_filter, map_filter]
  constructor
  · exact fun all => ⟨fun isOwn => all isOwn, List.filter_subset _ all⟩
  · rintro ⟨ofName, ofOthers⟩ other isOwn
    by_cases same : other = name
    · exact same ▸ ofName (same ▸ isOwn)
    · exact (List.mem_filter.mp (ofOthers (List.mem_filter.mpr ⟨isOwn, by simpa using same⟩))).1

/-- Defaults in front of others make no difference to props without defaults just if the others
name all their names, and add no name in another order. -/
theorem attachDefaults_append_eq_iff (noDefault : ∀ prop ∈ props, prop.declaredDefault = none) :
    attachDefaults props (own ++ given) = attachDefaults props given ↔
      own.map (·.1) ⊆ given.map (·.1) ∧ addedNames props (own ++ given) = addedNames props given := by
  induction props generalizing own given with
  | nil =>
      constructor
      · intro same
        have sameNames := congrArg (List.map (·.name)) same
        rw [map_name_attachDefaults_nil, map_name_attachDefaults_nil] at sameNames
        refine ⟨fun name isOwn => ?_, sameNames⟩
        rw [← mem_addedNames_nil, ← sameNames, mem_addedNames_nil, List.map_append]
        exact List.mem_append_left _ isOwn
      · rintro ⟨_, sameNames⟩
        rw [attachDefaults_nil, attachDefaults_nil, sameNames]
        refine List.map_congr_left fun name isName => ?_
        obtain ⟨text, isLast⟩ := Option.isSome_iff_exists.mp
          (lastDefault?_isSome_iff.mpr (mem_addedNames_nil.mp isName))
        rw [lastDefault?_append, isLast, Option.some_or]
  | cons prop props induction =>
      rw [attachDefaults_cons, attachDefaults_cons, List.cons.injEq,
        settle_append_eq_iff (noDefault prop (.head _)), List.filter_append,
        induction fun other member => noDefault other (.tail _ member), addedNames_cons,
        addedNames_cons, List.filter_append, ← and_assoc]
      exact and_congr_left fun _ => (names_subset_iff prop.name).symm

end SnapshotGen.Extraction
