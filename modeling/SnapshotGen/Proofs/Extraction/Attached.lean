import Mathlib.Data.List.Forall2
import Mathlib.Data.List.Induction
import SnapshotGen.Proofs.Extraction.Agreement
import SnapshotGen.Proofs.Extraction.Attaching

/-!
Props with defaults attached, seen from outside: the props that were there, in their order and with
nothing but another default, and behind them what the defaults name besides.
-/

namespace SnapshotGen.Extraction

variable {props : List PropDecl} {own given defaults : List Default} {name text : String}

def IsLast (defaults : List Default) (name text : String) : Prop :=
  ∃ before after, defaults = before ++ (name, text) :: after ∧ name ∉ after.map (·.1)

theorem lastDefault?_eq_none_iff : lastDefault? defaults name = none ↔
    name ∉ defaults.map (·.1) := by
  rw [← lastDefault?_isSome_iff, Option.not_isSome_iff_eq_none]

theorem isLast_iff : IsLast defaults name text ↔ lastDefault? defaults name = some text := by
  constructor
  · rintro ⟨before, after, rfl, notAfter⟩
    rw [lastDefault?_append, lastDefault?_cons, if_pos rfl, lastDefault?_eq_none_iff.mpr notAfter,
      Option.none_or, Option.some_or]
  · intro isLast
    obtain ⟨⟨_, _⟩, found, rfl⟩ := Option.map_eq_some_iff.mp isLast
    obtain ⟨named, after, before, reversed, notAfter⟩ := List.find?_eq_some_iff_append.mp found
    obtain rfl := beq_iff_eq.mp named
    refine ⟨before.reverse, after.reverse, by simpa using congrArg List.reverse reversed, ?_⟩
    intro isAfter
    obtain ⟨default, isDefault, same⟩ := List.mem_map.mp isAfter
    simpa [same] using notAfter default (List.mem_reverse.mp isDefault)

theorem isLast_append_iff (isGiven : name ∈ given.map (·.1)) :
    IsLast (own ++ given) name text ↔ IsLast given name text := by
  obtain ⟨last, isLast⟩ := Option.isSome_iff_exists.mp (lastDefault?_isSome_iff.mpr isGiven)
  rw [isLast_iff, isLast_iff, lastDefault?_append, isLast, Option.some_or]

theorem mem_addedNames : name ∈ addedNames props defaults ↔
    name ∈ defaults.map (·.1) ∧ name ∉ props.map (·.name) := by
  rw [addedNames, List.mem_eraseDups, List.mem_filter]
  simp

theorem removeAll_filter_singleton (keeps : String → Bool) (names : List String) (name : String) :
    ([name].filter keeps).removeAll (names.filter keeps) = [] ∨
      ([name].filter keeps).removeAll (names.filter keeps) = [name] ∧ name ∉ names := by
  by_cases kept : keeps name
  · by_cases known : name ∈ names
    · left
      simp [List.removeAll, kept, known]
    · right
      simp [List.removeAll, kept, known]
  · left
    simp [List.removeAll, kept]

/-- Names without repetitions are in the order in which they first come. -/
theorem pairwise_idxOf_eraseDups_filter (keeps : String → Bool) (names : List String) :
    (names.filter keeps).eraseDups.Pairwise fun one other =>
      names.idxOf one < names.idxOf other := by
  induction names using List.reverseRecOn with
  | nil => exact .nil
  | append_singleton names name induction =>
      have isKnown {other : String} (isOther : other ∈ (names.filter keeps).eraseDups) :
          other ∈ names :=
        (List.mem_filter.mp (List.mem_eraseDups.mp isOther)).1
      have before : (names.filter keeps).eraseDups.Pairwise fun one other =>
          (names ++ [name]).idxOf one < (names ++ [name]).idxOf other := by
        refine induction.imp_of_mem fun isOne isOther before => ?_
        rwa [List.idxOf_append_of_mem (isKnown isOne), List.idxOf_append_of_mem (isKnown isOther)]
      rw [List.filter_append, List.eraseDups_append]
      rcases removeAll_filter_singleton keeps names name with none | ⟨isNew, notKnown⟩
      · rw [none, List.eraseDups_nil, List.append_nil]
        exact before
      · rw [isNew]
        refine List.pairwise_append.mpr ⟨before, List.pairwise_singleton .., ?_⟩
        intro other isOther last isLast
        obtain rfl := List.mem_singleton.mp isLast
        rw [List.idxOf_append_of_mem (isKnown isOther), List.idxOf_append_of_notMem notKnown]
        exact Nat.lt_add_right _ (List.idxOf_lt_length_of_mem (isKnown isOther))

theorem attachDefaults_eq (distinct : (props.map PropDecl.name).Nodup) (defaults : List Default) :
    attachDefaults props defaults = props.map (settle · defaults) ++
      (addedNames props defaults).map fun name =>
        .untyped name ((lastDefault? defaults name).getD "") := by
  induction props generalizing defaults with
  | nil => exact attachDefaults_nil defaults
  | cons prop props induction =>
      obtain ⟨notIn, distinct⟩ := List.nodup_cons.mp distinct
      rw [attachDefaults_cons, induction distinct, addedNames_cons, List.map_cons, List.cons_append]
      congr 2
      · refine List.map_congr_left fun other isOther => ?_
        have differ : other.name ≠ prop.name :=
          fun same => notIn (same ▸ List.mem_map_of_mem isOther)
        rw [settle, lastDefault?_filter_of_ne differ, settle]
      · refine List.map_congr_left fun name isName => ?_
        have differ : name ≠ prop.name := by
          obtain ⟨default, isDefault, rfl⟩ := List.mem_map.mp (mem_addedNames.mp isName).1
          simpa using (List.mem_filter.mp isDefault).2
        rw [lastDefault?_filter_of_ne differ]

/-- A prop with the last default of its name, or with its own if none has its name. Nothing else of
it is touched. -/
structure Settles (defaults : List Default) (prop settled : PropDecl) : Prop where
  name : settled.name = prop.name
  type : settled.type = prop.type
  required : settled.required = prop.required
  given : prop.name ∈ defaults.map (·.1) →
    ∃ text, IsLast defaults prop.name text ∧ settled.declaredDefault = some text
  kept : prop.name ∉ defaults.map (·.1) → settled.declaredDefault = prop.declaredDefault

structure IsAdded (defaults : List Default) (added : PropDecl) : Prop where
  untyped : added.type = none
  optional : added.required = false
  given : ∃ text, IsLast defaults added.name text ∧ added.declaredDefault = some text

/-- All props are kept, each in its place; behind them stands one prop for each name that only
defaults have, in the order in which these first name them. -/
structure Attached (props : List PropDecl) (defaults : List Default) (kept added : List PropDecl) :
    Prop where
  settles : List.Forall₂ (Settles defaults) props kept
  adds : ∀ prop ∈ added, IsAdded defaults prop
  names : ∀ name, name ∈ added.map (·.name) ↔
    name ∈ defaults.map (·.1) ∧ name ∉ props.map (·.name)
  inOrder : (added.map (·.name)).Pairwise fun one other =>
    (defaults.map (·.1)).idxOf one < (defaults.map (·.1)).idxOf other

theorem settles_settle (prop : PropDecl) (defaults : List Default) :
    Settles defaults prop (settle prop defaults) where
  name := rfl
  type := rfl
  required := rfl
  given isGiven := by
    obtain ⟨text, isLast⟩ := Option.isSome_iff_exists.mp (lastDefault?_isSome_iff.mpr isGiven)
    exact ⟨text, isLast_iff.mpr isLast, by rw [settle, isLast, Option.some_or]⟩
  kept notGiven := by
    rw [settle, lastDefault?_eq_none_iff.mpr notGiven, Option.none_or]

theorem exists_attached (distinct : (props.map PropDecl.name).Nodup) (defaults : List Default) :
    ∃ kept added, attachDefaults props defaults = kept ++ added ∧
      Attached props defaults kept added := by
  have names : ((addedNames props defaults).map fun name =>
      PropDecl.untyped name ((lastDefault? defaults name).getD "")).map (·.name) =
      addedNames props defaults := by
    rw [List.map_map]
    exact List.map_id' _
  refine ⟨_, _, attachDefaults_eq distinct defaults, ?_, ?_, ?_, ?_⟩
  · rw [List.forall₂_map_right_iff, List.forall₂_same]
    exact fun prop _ => settles_settle prop defaults
  · intro added isAdded
    obtain ⟨name, isName, rfl⟩ := List.mem_map.mp isAdded
    obtain ⟨text, isLast⟩ := Option.isSome_iff_exists.mp
      (lastDefault?_isSome_iff.mpr (mem_addedNames.mp isName).1)
    refine ⟨rfl, rfl, text, isLast_iff.mpr isLast, ?_⟩
    rw [isLast]
    rfl
  · intro name
    rw [names, mem_addedNames]
  · rw [names]
    exact pairwise_idxOf_eraseDups_filter _ _

/-- Defaults are attached to props with distinct names completely, and nothing else is touched. Of
the defaults of a component those of `defaultProps` decide on the names that they have. -/
theorem attachDefaults_exactly {props : List PropDecl}
    (distinct : (props.map PropDecl.name).Nodup) :
    (∀ defaults, ∃ kept added, attachDefaults props defaults = kept ++ added ∧
      Attached props defaults kept added) ∧
    ∀ survey candidate,
      defaultsOf survey candidate = ownDefaults candidate ++ givenDefaults survey candidate ∧
      ∀ name ∈ (givenDefaults survey candidate).map (·.1), ∀ text,
        IsLast (defaultsOf survey candidate) name text ↔
          IsLast (givenDefaults survey candidate) name text :=
  ⟨exists_attached distinct, fun _ _ => ⟨rfl, fun _ isGiven _ => isLast_append_iff isGiven⟩⟩

/-- A default given twice, one that is not given, and one of a name that is not declared. -/
theorem attachDefaults_exactly_tone :
    let tone : PropDecl := ⟨"tone", some (PropType.ofKind .string), true, none⟩
    let size : PropDecl := ⟨"size", none, false, some "1"⟩
    let defaults := [("tone", "'soft'"), ("glow", "2"), ("tone", "'loud'"), ("glow", "3")]
    ([tone, size].map PropDecl.name).Nodup ∧
      attachDefaults [tone, size] defaults =
        [{ tone with declaredDefault := some "'loud'" }, size, .untyped "glow" "3"] ∧
      ∃ kept added, attachDefaults [tone, size] defaults = kept ++ added ∧
        Attached [tone, size] defaults kept added := by
  intro tone size defaults
  have distinct : ([tone, size].map PropDecl.name).Nodup := by decide
  exact ⟨distinct, rfl, (attachDefaults_exactly distinct).1 defaults⟩

end SnapshotGen.Extraction
