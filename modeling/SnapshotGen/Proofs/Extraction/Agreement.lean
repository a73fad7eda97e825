import SnapshotGen.Extraction.Extract
import SnapshotGen.Proofs.Extraction.Notes

/-!
Surveys that agree: in the names of their candidates, so that scripts are about components of one
name, or in the values they know, so that the same is read of these.
-/

namespace SnapshotGen.Extraction

open Script Script.Node

namespace Survey

variable {survey other : Survey}

theorem exists_candidates_note (survey : Survey) (note : Note) :
    ∃ more, (survey.note note).candidates = survey.candidates ++ more := by
  have added (candidate : Candidate) :
      ∃ more, (survey.addCandidate candidate).candidates = survey.candidates ++ more := by
    unfold addCandidate
    split
    · exact ⟨[], (List.append_nil _).symm⟩
    · exact ⟨[candidate], rfl⟩
  cases note with
  | candidate candidate => exact added candidate
  | typed name statement description =>
      rw [Survey.note, noteAssigned]
      split
      · exact ⟨[], (List.append_nil _).symm⟩
      · exact added _
  | default name => exact ⟨[], (List.append_nil _).symm⟩
  | binding name value => exact ⟨[], (List.append_nil _).symm⟩
  | assignment assignment => exact ⟨[], (List.append_nil _).symm⟩
  | definition definition => exact ⟨[], (List.append_nil _).symm⟩

theorem exists_candidates_foldl_note (survey : Survey) (notes : List Note) :
    ∃ more, (notes.foldl note survey).candidates = survey.candidates ++ more := by
  induction notes generalizing survey with
  | nil => exact ⟨[], (List.append_nil _).symm⟩
  | cons note notes induction =>
      obtain ⟨first, addsFirst⟩ := survey.exists_candidates_note note
      obtain ⟨more, addsMore⟩ := induction (survey.note note)
      exact ⟨first ++ more, by rw [List.foldl_cons, addsMore, addsFirst, List.append_assoc]⟩

def candidate? (survey : Survey) (name : String) : Option Candidate :=
  survey.candidates.find? (·.name == name)

theorem candidate?_foldl_note {name : String} {candidate : Candidate}
    (known : survey.candidate? name = some candidate) (notes : List Note) :
    (notes.foldl note survey).candidate? name = some candidate := by
  obtain ⟨more, adds⟩ := survey.exists_candidates_foldl_note notes
  rw [candidate?, adds, List.find?_append, ← candidate?, known, Option.some_or]

theorem candidate?_addCandidate {candidate : Candidate}
    (unknown : survey.hasCandidate candidate.name = false) :
    (survey.addCandidate candidate).candidate? candidate.name = some candidate := by
  have notFound : survey.candidate? candidate.name = none := by
    rw [candidate?, List.find?_eq_none]
    exact fun other isCandidate => List.any_eq_false.mp unknown other isCandidate
  rw [addCandidate, unknown, Bool.and_false, if_neg nofun, candidate?, List.find?_append,
    ← candidate?, notFound, Option.none_or, List.find?_cons_of_pos (by simp)]

theorem hasCandidate_eq_isSome (survey : Survey) (name : String) :
    survey.hasCandidate name = (survey.candidate? name).isSome := by
  rw [Bool.eq_iff_iff, candidate?, List.find?_isSome, hasCandidate, List.any_eq_true]

theorem candidate?_of_resolve? {candidate : Candidate}
    (resolved : survey.resolve? = some candidate) :
    survey.candidate? candidate.name = some candidate := by
  rw [resolve?, Option.or_eq_some_iff] at resolved
  rcases resolved with ofDefault | ⟨_, isFirst⟩
  · obtain ⟨name, _, found⟩ := List.exists_of_findSome?_eq_some ofDefault
    have same : candidate.name = name := by simpa using List.find?_some found
    exact same ▸ found
  · obtain ⟨more, candidates⟩ := List.head?_eq_some_iff.mp isFirst
    rw [candidate?, candidates, List.find?_cons_of_pos (by simp)]

def SameNames (survey other : Survey) : Prop :=
  survey.candidates.map (·.name) = other.candidates.map (·.name)

theorem SameNames.symm (same : survey.SameNames other) : other.SameNames survey :=
  Eq.symm same

theorem hasCandidate_iff (survey : Survey) (name : String) :
    survey.hasCandidate name ↔ name ∈ survey.candidates.map (·.name) := by
  simp [hasCandidate]

theorem SameNames.hasCandidate_eq (same : survey.SameNames other) (name : String) :
    survey.hasCandidate name = other.hasCandidate name := by
  rw [Bool.eq_iff_iff, hasCandidate_iff, hasCandidate_iff, same]

theorem SameNames.addCandidate (same : survey.SameNames other) {first second : Candidate}
    (sameName : first.name = second.name) :
    (survey.addCandidate first).SameNames (other.addCandidate second) := by
  unfold Survey.addCandidate
  rw [sameName, same.hasCandidate_eq]
  split
  · exact same
  · rw [SameNames, List.map_append, List.map_append, same]
    exact congrArg _ (congrArg (· :: []) sameName)

theorem SameNames.noteAssigned (same : survey.SameNames other) (first second name : String)
    (statement node : Node) :
    (survey.noteAssigned first statement name).SameNames
      (other.noteAssigned second node name) := by
  unfold Survey.noteAssigned
  rw [same.hasCandidate_eq]
  split
  · exact same
  · exact same.addCandidate rfl

theorem SameNames.addCandidate_noteAssigned (same : survey.SameNames other) {candidate : Candidate}
    (named : candidate.name ≠ "") (description : String) (statement : Node) :
    (survey.addCandidate candidate).SameNames
      (other.noteAssigned description statement candidate.name) := by
  unfold Survey.noteAssigned
  split
  · rename_i known
    rw [Survey.addCandidate, same.hasCandidate_eq, known, Bool.and_true,
      if_pos (decide_eq_true named)]
    exact same
  · exact same.addCandidate rfl

theorem SameNames.note (same : survey.SameNames other) (note : Note) :
    (survey.note note).SameNames (other.note note) := by
  cases note with
  | candidate candidate => exact same.addCandidate rfl
  | typed name statement description => exact same.noteAssigned _ _ _ _ _
  | default name => exact same
  | binding name value => exact same
  | assignment assignment => exact same
  | definition definition => exact same

theorem SameNames.foldl_note (same : survey.SameNames other) (notes : List Note) :
    (notes.foldl Survey.note survey).SameNames (notes.foldl Survey.note other) := by
  induction notes generalizing survey other with
  | nil => exact same
  | cons note notes induction => exact induction (same.note note)

theorem name_resolve? (survey : Survey) :
    survey.resolve?.map (·.name) =
      (survey.defaultNames.find? survey.hasCandidate).or
        (survey.candidates.map (·.name)).head? := by
  have ofDefaults (names : List String) :
      (names.findSome? survey.candidate?).map (·.name) = names.find? survey.hasCandidate := by
    induction names with
    | nil => rfl
    | cons name names induction =>
        rw [List.findSome?_cons, List.find?_cons, hasCandidate_eq_isSome]
        cases found : survey.candidate? name with
        | none => exact induction
        | some candidate =>
            have same : candidate.name = name := by simpa using List.find?_some found
            exact congrArg some same
  rw [resolve?, Option.map_or, List.head?_map]
  exact congrArg (Option.or · _) (ofDefaults _)

theorem SameNames.resolve? (same : survey.SameNames other)
    (sameDefaults : survey.defaultNames = other.defaultNames) :
    survey.resolve?.map (·.name) = other.resolve?.map (·.name) := by
  have sameKnown : survey.hasCandidate = other.hasCandidate := funext same.hasCandidate_eq
  rw [name_resolve?, name_resolve?, sameDefaults, sameKnown, same]

structure SameValues (survey other : Survey) : Prop where
  bindings : survey.bindings = other.bindings
  assigned : ∀ target property, survey.assigned? target property = other.assigned? target property

theorem SameValues.objectWithin?_eq (same : survey.SameValues other) (limit : Nat) :
    survey.objectWithin? limit = other.objectWithin? limit := by
  have sameBinding (name : String) : survey.binding? name = other.binding? name := by
    rw [binding?, binding?, same.bindings]
  induction limit with
  | zero =>
      funext node
      unfold objectWithin?
      dsimp only
      cases node.unparenthesized.kind <;> rfl
  | succ limit induction =>
      funext node
      unfold objectWithin?
      dsimp only
      rw [sameBinding]
      cases node.unparenthesized.kind with
      | identifier => exact congrArg (Option.bind _) induction
      | _ => rfl

theorem SameValues.object?_eq (same : survey.SameValues other) :
    survey.object? = other.object? :=
  same.objectWithin?_eq mostBindings

theorem SameValues.declared?_eq (same : survey.SameValues other) (limit : Nat) :
    declared? survey limit = declared? other limit := by
  have sameFields : fieldsObject? survey = fieldsObject? other := by
    funext expression
    rw [fieldsObject?, fieldsObject?, same.object?_eq]
  have sameMember : memberDeclared? survey = memberDeclared? other := by
    funext read? member
    unfold memberDeclared?
    rw [sameFields]
  induction limit with
  | zero => rfl
  | succ limit induction =>
      funext object
      rw [declared?, declared?, sameMember, induction]

theorem SameValues.staticValue?_eq (same : survey.SameValues other) {first second : Candidate}
    (sameName : first.name = second.name)
    (alike : first = second ∨ first.form ≠ .classLike ∧ second.form ≠ .classLike)
    (property : String) : survey.staticValue? first property = other.staticValue? second property := by
  unfold staticValue?
  rw [sameName, same.assigned]
  rcases alike with rfl | ⟨firstNoClass, secondNoClass⟩
  · rfl
  · rw [if_neg firstNoClass, if_neg secondNoClass]

end Survey

variable {survey other : Survey} {first second : Candidate}

def ownDefaults (candidate : Candidate) : List Default :=
  if candidate.form = .classLike then [] else parameterDefaults candidate.node

def givenDefaults (survey : Survey) (candidate : Candidate) : List Default :=
  (((survey.staticValue? candidate "defaultProps").bind survey.object?).map objectDefaults).getD []

theorem props_extractFrom (survey : Survey) (program : Node) (candidate : Candidate) :
    (extractFrom survey program candidate).component.props.getD [] =
      attachDefaults ((declarations survey program candidate).filterMap Declared.prop?)
        (ownDefaults candidate ++ givenDefaults survey candidate) := by
  have ofBoth : defaultsOf survey candidate =
      ownDefaults candidate ++ givenDefaults survey candidate := rfl
  unfold extractFrom
  dsimp only
  rw [ofBoth]
  split
  · rename_i isEmpty
    exact (List.isEmpty_iff.mp isEmpty).symm
  · rfl

/-- A component without props has no list of these, so the lists tell all. -/
theorem props_extractFrom_eq_iff {program otherProgram : Node} :
    (extractFrom survey program first).component.props =
        (extractFrom other otherProgram second).component.props ↔
      (extractFrom survey program first).component.props.getD [] =
        (extractFrom other otherProgram second).component.props.getD [] := by
  unfold extractFrom
  dsimp only
  generalize attachDefaults _ (defaultsOf survey first) = props
  generalize attachDefaults _ (defaultsOf other second) = otherProps
  cases props <;> cases otherProps <;> simp

section Same

variable (same : survey.SameValues other)
  (sameStatic : ∀ property, survey.staticValue? first property = other.staticValue? second property)

include same sameStatic

theorem givenDefaults_eq : givenDefaults survey first = givenDefaults other second := by
  rw [givenDefaults, givenDefaults, sameStatic, same.object?_eq]

theorem declarations_eq {program otherProgram : Node}
    (sameCount : program.count .object = otherProgram.count .object) :
    declarations survey program first = declarations other otherProgram second := by
  rw [declarations, declarations, sameStatic, same.object?_eq, same.declared?_eq, sameCount]

omit same in
theorem displayName_eq (sameName : first.name = second.name) :
    displayName survey first = displayName other second := by
  rw [displayName, displayName, sameStatic, sameName]

end Same

end SnapshotGen.Extraction
