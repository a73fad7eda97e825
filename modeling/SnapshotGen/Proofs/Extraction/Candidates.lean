import Mathlib.Data.List.Forall2
import Mathlib.Data.List.Nodup
import SnapshotGen.Extraction.Extract
import SnapshotGen.Proofs.Extraction.Agreement
import SnapshotGen.Proofs.Extraction.Assignments
import SnapshotGen.Proofs.Extraction.DefaultExport
import SnapshotGen.Proofs.Extraction.Forms
import SnapshotGen.Proofs.Extraction.Members
import SnapshotGen.Proofs.Extraction.Variables

/-!
The candidates of a script in the order of its statements: each stands at the first statement that
qualifies its name, and no name that is qualified is left out.
-/

namespace SnapshotGen.Extraction

open Script Script.Node Survey

/-- A declaration of a component, with the node that the component is. -/
inductive DeclaresComponent (declaration : Node) : String → Node → Form → Prop
  | classLike {name : Node} (isClass : declaration.kind = .classDeclaration)
      (hasName : declaration.child? .name = some name) (isComponent : isComponentClass declaration) :
      DeclaresComponent declaration name.text declaration .classLike
  | function {name : Node} (isFunction : declaration.kind = .functionDeclaration)
      (hasName : declaration.child? .name = some name) (isName : isComponentName name.text)
      (renders : declaration.rendersElement) :
      DeclaresComponent declaration name.text declaration .function
  | bound {name : String} {value node : Node} {form : Form}
      (isVariable : (name, value) ∈ declaredVariables declaration)
      (isInline : inlineComponent? value = some (node, form)) (isName : isComponentName name) :
      DeclaresComponent declaration name node form

/-- A statement makes a name that of a candidate of a form, unless it is that of one already: by a
declaration, by an export of a component without a name, or by an assignment of types, which does
not tell the node of the component. -/
inductive Qualifies (statement : Node) : String → Option Node → Form → Prop
  | declared {declaration node : Node} {name : String} {form : Form}
      (declares : declaration? statement = some declaration)
      (component : DeclaresComponent declaration name node form) :
      Qualifies statement name (some node) form
  | exported {value node : Node} {form : Form} (exports : exported? statement = some (.value value))
      (isInline : target? value = some (.inline node form)) : Qualifies statement "" (some node) form
  | typed {assignment : Assignment} (assigns : assignment? statement = some assignment)
      (isTypes : assignment.property = "propTypes") :
      Qualifies statement assignment.target none .assigned

def Note.qualified? : Note → Option (String × Option Node × Form)
  | .candidate noted => some (noted.name, some noted.node, noted.form)
  | .typed name _ _ => some (name, none, .assigned)
  | _ => none

def qualifiedIn (notes : List Note) : List (String × Option Node × Form) :=
  notes.filterMap Note.qualified?

variable {name : String} {told : Option Node} {form : Form} {description : String}
  {statement declaration : Node}

theorem mem_qualifiedIn_notesOfDefined {node : Node} {own : String} {component : Option Form} :
    (name, told, form) ∈ qualifiedIn (notesOfDefined own node description component) ↔
      name = own ∧ told = some node ∧ component = some form := by
  cases component <;> simp [notesOfDefined, qualifiedIn, Note.qualified?, eq_comm]

theorem mem_qualifiedIn_notesOfDeclarator {declarator : Node} :
    (name, told, form) ∈ qualifiedIn (notesOfDeclarator description declarator) ↔
      ∃ value node, boundValue? declarator = some (name, value) ∧ told = some node ∧
        inlineComponent? value = some (node, form) ∧ isComponentName name := by
  unfold notesOfDeclarator boundValue?
  cases declarator.child? .name with
  | none => simp [qualifiedIn]
  | some ownName =>
      cases declarator.child? .value with
      | none => simp [qualifiedIn]
      | some value =>
          dsimp only
          by_cases isIdentifier : ownName.kind = .identifier
          · rw [if_pos isIdentifier, if_pos isIdentifier]
            have skipped (notes : List Note) :
                qualifiedIn (.binding ownName.text value :: notes) = qualifiedIn notes := rfl
            rw [skipped]
            rcases isInline : inlineComponent? value with _ | ⟨node, found⟩
            · simp [qualifiedIn, isInline]
            · dsimp only
              rw [mem_qualifiedIn_notesOfDefined, Option.ite_none_right_eq_some]
              constructor
              · rintro ⟨rfl, isTold, isName, same⟩
                cases same
                exact ⟨value, node, rfl, isTold, isInline, isName⟩
              · rintro ⟨_, other, same, isTold, isFound, isName⟩
                cases same
                cases isInline.symm.trans isFound
                exact ⟨rfl, isTold, isName, rfl⟩
          · simp [isIdentifier, qualifiedIn]

theorem mem_qualifiedIn_notesOfDeclarators {declarators : List Node} :
    (name, told, form) ∈ qualifiedIn (declarators.flatMap (notesOfDeclarator description)) ↔
      ∃ value node, (name, value) ∈ declarators.filterMap boundValue? ∧ told = some node ∧
        inlineComponent? value = some (node, form) ∧ isComponentName name := by
  have inFlat :
      (name, told, form) ∈ qualifiedIn (declarators.flatMap (notesOfDeclarator description)) ↔
        ∃ declarator ∈ declarators,
          (name, told, form) ∈ qualifiedIn (notesOfDeclarator description declarator) := by
    rw [qualifiedIn, List.filterMap_flatMap, List.mem_flatMap]
    rfl
  simp only [inFlat, mem_qualifiedIn_notesOfDeclarator, List.mem_filterMap]
  constructor
  · rintro ⟨declarator, member, value, node, isBound, isComponent⟩
    exact ⟨value, node, ⟨declarator, member, isBound⟩, isComponent⟩
  · rintro ⟨value, node, ⟨declarator, member, isBound⟩, isComponent⟩
    exact ⟨declarator, member, value, node, isBound, isComponent⟩

theorem declaresComponent_of_mem
    (member : (name, told, form) ∈ qualifiedIn (notesOfDeclaration description declaration)) :
    ∃ node, told = some node ∧ DeclaresComponent declaration name node form := by
  unfold notesOfDeclaration at member
  split at member
  · rename_i own isClass hasName
    obtain ⟨rfl, isTold, isForm⟩ := mem_qualifiedIn_notesOfDefined.mp member
    obtain ⟨isComponent, same⟩ := Option.ite_none_right_eq_some.mp isForm
    cases same
    exact ⟨declaration, isTold, .classLike isClass hasName isComponent⟩
  · rename_i own isFunction hasName
    obtain ⟨rfl, isTold, isForm⟩ := mem_qualifiedIn_notesOfDefined.mp member
    obtain ⟨isComponent, same⟩ := Option.ite_none_right_eq_some.mp isForm
    obtain ⟨isName, renders⟩ := Bool.and_eq_true_iff.mp isComponent
    cases same
    exact ⟨declaration, isTold, .function isFunction hasName isName renders⟩
  · rename_i isVariables
    obtain ⟨value, node, isBound, isTold, isInline, isName⟩ :=
      mem_qualifiedIn_notesOfDeclarators.mp member
    refine ⟨node, isTold, .bound ?_ isInline isName⟩
    rwa [declaredVariables, if_pos isVariables]
  · cases member

theorem mem_qualifiedIn_notesOfDeclaration :
    (name, told, form) ∈ qualifiedIn (notesOfDeclaration description declaration) ↔
      ∃ node, told = some node ∧ DeclaresComponent declaration name node form := by
  refine ⟨declaresComponent_of_mem, ?_⟩
  rintro ⟨node, rfl, declares⟩
  cases declares with
  | classLike isClass hasName isComponent =>
      simp only [notesOfDeclaration, isClass, hasName]
      exact mem_qualifiedIn_notesOfDefined.mpr ⟨rfl, rfl, if_pos isComponent⟩
  | function isFunction hasName isName renders =>
      simp only [notesOfDeclaration, isFunction, hasName]
      exact mem_qualifiedIn_notesOfDefined.mpr ⟨rfl, rfl, if_pos (by rw [isName, renders]; rfl)⟩
  | @bound _ value _ _ isVariable isInline isName =>
      unfold declaredVariables at isVariable
      split at isVariable
      · rename_i isVariables
        simp only [notesOfDeclaration, isVariables]
        exact mem_qualifiedIn_notesOfDeclarators.mpr ⟨value, node, isVariable, rfl, isInline, isName⟩
      · cases isVariable

theorem mem_qualifiedIn_notesOfDefault {value : Node} :
    (name, told, form) ∈ qualifiedIn (notesOfDefault description value) ↔
      name = "" ∧ ∃ node, told = some node ∧ target? value = some (.inline node form) := by
  unfold notesOfDefault
  rcases target? value with _ | _ | ⟨node, found⟩ <;>
    simp [qualifiedIn, Note.qualified?, eq_comm]

theorem qualifies_of_mem_export (isExport : statement.kind = .export)
    (member : (name, told, form) ∈ qualifiedIn (notesOfExport description statement)) :
    Qualifies statement name told form := by
  unfold notesOfExport at member
  split at member
  · rename_i declaration hasDeclaration
    rw [qualifiedIn, List.filterMap_append, List.mem_append] at member
    rcases member with inDeclaration | inDefault
    · obtain ⟨node, rfl, component⟩ := mem_qualifiedIn_notesOfDeclaration.mp inDeclaration
      exact .declared (by rwa [declaration?, if_pos isExport]) component
    · split at inDefault <;> cases inDefault
  · rename_i value noDeclaration hasValue
    split at member
    · rename_i isDefault
      obtain ⟨rfl, node, rfl, isInline⟩ := mem_qualifiedIn_notesOfDefault.mp member
      exact .exported (by simp [exported?, isExport, isDefault, noDeclaration, hasValue]) isInline
    · cases member
  · cases member

theorem qualifies_of_mem_assignment {object property value : Node}
    (isExpression : statement.kind = .expressionStatement)
    (assigns : assignmentOf? statement = some (object, property, value))
    (member : (name, told, form) ∈
      qualifiedIn (notesOfAssignment description statement object property value)) :
    Qualifies statement name told form := by
  unfold notesOfAssignment at member
  split at member
  · rename_i isModule
    obtain ⟨rfl, node, rfl, isInline⟩ := mem_qualifiedIn_notesOfDefault.mp member
    exact .exported (by simp [exported?, isExpression, assigns, isModule]) isInline
  · rename_i noModule
    split at member
    · cases member
    · rename_i isIdentifier
      have isAssignment : assignment? statement = some ⟨object.text, property.text, value⟩ := by
        rw [assignment?, if_pos isExpression, assigns, Option.bind_some]
        dsimp only
        rw [if_neg noModule, if_neg isIdentifier]
      split at member
      · rename_i isTypes
        obtain ⟨rfl, rfl, rfl⟩ : name = object.text ∧ told = none ∧ form = .assigned := by
          simpa [qualifiedIn, Note.qualified?] using member
        exact .typed isAssignment isTypes
      · cases member

theorem qualifies_of_mem
    (member : (name, told, form) ∈ qualifiedIn (notesOfStatement description statement)) :
    Qualifies statement name told form := by
  unfold notesOfStatement at member
  split at member
  · rename_i isExport
    exact qualifies_of_mem_export isExport member
  · rename_i isExpression
    split at member
    · rename_i object property value assigns
      exact qualifies_of_mem_assignment isExpression assigns member
    · cases member
  · rename_i noExport noExpression
    obtain ⟨node, rfl, component⟩ := mem_qualifiedIn_notesOfDeclaration.mp member
    exact .declared (by rw [declaration?, if_neg noExport]) component

theorem mem_of_declaresComponent {node : Node}
    (declares : declaration? statement = some declaration)
    (component : DeclaresComponent declaration name node form) :
    (name, some node, form) ∈ qualifiedIn (notesOfStatement description statement) := by
  have member : (name, some node, form) ∈ qualifiedIn (notesOfDeclaration description declaration) :=
    mem_qualifiedIn_notesOfDeclaration.mpr ⟨node, rfl, component⟩
  unfold declaration? at declares
  split at declares
  · rename_i isExport
    simp only [notesOfStatement, isExport, notesOfExport, declares]
    rw [qualifiedIn, List.filterMap_append]
    exact List.mem_append_left _ member
  · rename_i noExport
    cases declares
    unfold notesOfStatement
    split
    · contradiction
    · rename_i isExpression
      simp [notesOfDeclaration, isExpression, qualifiedIn] at member
    · exact member

theorem mem_of_exported {value node : Node} (exports : exported? statement = some (.value value))
    (isInline : target? value = some (.inline node form)) :
    ("", some node, form) ∈ qualifiedIn (notesOfStatement description statement) := by
  have member : ("", some node, form) ∈ qualifiedIn (notesOfDefault description value) :=
    mem_qualifiedIn_notesOfDefault.mpr ⟨rfl, node, rfl, isInline⟩
  unfold exported? at exports
  split at exports
  · rename_i isExport
    split at exports
    · rename_i isDefault
      split at exports
      · cases exports
      · rename_i noDeclaration
        obtain ⟨found, hasValue, same⟩ := Option.map_eq_some_iff.mp exports
        cases same
        simp only [notesOfStatement, isExport, notesOfExport, noDeclaration, hasValue, isDefault]
        exact member
    · cases exports
  · rename_i isExpression
    split at exports
    · rename_i object property assigned assigns
      split at exports
      · rename_i isModule
        cases exports
        simp only [notesOfStatement, isExpression, assigns, notesOfAssignment, isModule]
        exact member
      · cases exports
    · cases exports
  · cases exports

theorem mem_of_typed {assignment : Assignment} (assigns : assignment? statement = some assignment)
    (isTypes : assignment.property = "propTypes") :
    (assignment.target, none, .assigned) ∈ qualifiedIn (notesOfStatement description statement) := by
  unfold assignment? at assigns
  split at assigns
  · rename_i isExpression
    obtain ⟨⟨object, property, value⟩, isAssignment, assigns⟩ := Option.bind_eq_some_iff.mp assigns
    dsimp only at assigns
    split at assigns
    · cases assigns
    · rename_i noModule
      split at assigns
      · cases assigns
      · rename_i isIdentifier
        cases assigns
        simp only [notesOfStatement, isExpression, isAssignment]
        rw [notesOfAssignment, if_neg noModule, if_neg isIdentifier, if_pos isTypes]
        exact .head _
  · cases assigns

theorem mem_qualifiedIn_notesOfStatement :
    (name, told, form) ∈ qualifiedIn (notesOfStatement description statement) ↔
      Qualifies statement name told form := by
  refine ⟨qualifies_of_mem, fun qualifies => ?_⟩
  cases qualifies with
  | declared declares component => exact mem_of_declaresComponent declares component
  | exported exports isInline => exact mem_of_exported exports isInline
  | typed assigns isTypes => exact mem_of_typed assigns isTypes

namespace Survey

variable {survey middle later : Survey}

/-- No two candidates have the same name, except for the empty one. -/
def CandidatesOnce (survey : Survey) : Prop :=
  ((survey.candidates.map (·.name)).filter (· ≠ "")).Nodup

/-- What some notes add to the candidates: only what they qualify and what is no candidate yet, and
all names that they qualify. -/
structure Admits (survey : Survey) (qualified : List (String × Option Node × Form))
    (added : List Candidate) (later : Survey) : Prop where
  candidates : later.candidates = survey.candidates ++ added
  sound : ∀ candidate ∈ added,
    (∃ told, (candidate.name, told, candidate.form) ∈ qualified ∧
      ∀ node ∈ told, node = candidate.node) ∧
    (candidate.name ≠ "" → ¬survey.hasCandidate candidate.name)
  complete : ∀ entry ∈ qualified, later.hasCandidate entry.1
  once : survey.CandidatesOnce → later.CandidatesOnce

section

variable {qualified more : List (String × Option Node × Form)} {added further : List Candidate}

theorem Admits.hasCandidate (admits : survey.Admits qualified added later)
    (known : survey.hasCandidate name) : later.hasCandidate name := by
  rw [Survey.hasCandidate, admits.candidates, List.any_append, ← Survey.hasCandidate, known,
    Bool.true_or]

theorem Admits.append (first : survey.Admits qualified added middle)
    (second : middle.Admits more further later) :
    survey.Admits (qualified ++ more) (added ++ further) later where
  candidates := by rw [second.candidates, first.candidates, List.append_assoc]
  sound candidate member := by
    rcases List.mem_append.mp member with isFirst | isSecond
    · obtain ⟨⟨told, isQualified, isTold⟩, isNew⟩ := first.sound candidate isFirst
      exact ⟨⟨told, List.mem_append_left _ isQualified, isTold⟩, isNew⟩
    · obtain ⟨⟨told, isQualified, isTold⟩, isNew⟩ := second.sound candidate isSecond
      exact ⟨⟨told, List.mem_append_right _ isQualified, isTold⟩, fun named known =>
        isNew named (first.hasCandidate known)⟩
  complete entry member := by
    rcases List.mem_append.mp member with isFirst | isSecond
    · exact second.hasCandidate (first.complete entry isFirst)
    · exact second.complete entry isSecond
  once := second.once ∘ first.once

theorem admits_of_known (same : later.candidates = survey.candidates)
    (known : ∀ entry ∈ qualified, survey.hasCandidate entry.1) : survey.Admits qualified [] later where
  candidates := by rw [same, List.append_nil]
  sound _ member := absurd member List.not_mem_nil
  complete entry member := by
    rw [Survey.hasCandidate, same]
    exact known entry member
  once := by
    rw [CandidatesOnce, CandidatesOnce, same]
    exact id

end

theorem candidatesOnce_append {candidate : Candidate} (once : survey.CandidatesOnce)
    (same : later.candidates = survey.candidates ++ [candidate])
    (isNew : candidate.name ≠ "" → ¬survey.hasCandidate candidate.name) : later.CandidatesOnce := by
  rw [CandidatesOnce, same, List.map_append, List.filter_append, List.nodup_append]
  refine ⟨once, (List.nodup_singleton _).filter _, ?_⟩
  intro other isOther name isName
  obtain ⟨isLast, named⟩ := List.mem_filter.mp isName
  obtain rfl : name = candidate.name := List.mem_singleton.mp isLast
  rintro rfl
  have isEarlier := (List.mem_filter.mp isOther).1
  exact isNew (of_decide_eq_true named) ((hasCandidate_iff survey candidate.name).mpr isEarlier)

theorem admits_addCandidate (survey : Survey) (candidate : Candidate)
    (isTold : ∀ node ∈ told, node = candidate.node) :
    ∃ added, survey.Admits [(candidate.name, told, candidate.form)] added
      (survey.addCandidate candidate) := by
  by_cases isKnown : (candidate.name ≠ "" && survey.hasCandidate candidate.name) = true
  · refine ⟨[], admits_of_known (by rw [addCandidate, if_pos isKnown]) ?_⟩
    exact List.forall_mem_singleton.mpr (Bool.and_eq_true_iff.mp isKnown).2
  · have same : (survey.addCandidate candidate).candidates = survey.candidates ++ [candidate] := by
      rw [addCandidate, if_neg isKnown]
    have isNew (named : candidate.name ≠ "") : ¬survey.hasCandidate candidate.name :=
      fun known => isKnown (Bool.and_eq_true_iff.mpr ⟨decide_eq_true named, known⟩)
    refine ⟨[candidate], same, ?_, ?_, fun once => candidatesOnce_append once same isNew⟩
    · exact List.forall_mem_singleton.mpr ⟨⟨told, .head _, isTold⟩, isNew⟩
    · exact List.forall_mem_singleton.mpr (hasCandidate_addCandidate_self survey candidate)

theorem admits_note (survey : Survey) (note : Note) :
    ∃ added, survey.Admits note.qualified?.toList added (survey.note note) := by
  cases note with
  | candidate candidate =>
      exact survey.admits_addCandidate candidate fun _ same => (Option.some.inj same).symm
  | typed name statement description =>
      rw [Survey.note, noteAssigned]
      split
      · rename_i isKnown
        exact ⟨[], admits_of_known rfl (List.forall_mem_singleton.mpr isKnown)⟩
      · exact survey.admits_addCandidate ⟨name, _, _, .assigned⟩ fun node member =>
          absurd member (Option.not_mem_none node)
  | default | binding | assignment | definition =>
      exact ⟨[], admits_of_known rfl fun _ member => absurd member List.not_mem_nil⟩

theorem admits_notes (survey : Survey) (notes : List Note) :
    ∃ added, survey.Admits (qualifiedIn notes) added (notes.foldl note survey) := by
  induction notes generalizing survey with
  | nil => exact ⟨[], admits_of_known rfl fun _ member => absurd member List.not_mem_nil⟩
  | cons note notes induction =>
      obtain ⟨_, first⟩ := survey.admits_note note
      obtain ⟨_, second⟩ := induction (survey.note note)
      have split : qualifiedIn (note :: notes) = note.qualified?.toList ++ qualifiedIn notes := by
        rw [qualifiedIn, List.filterMap_cons]
        cases note.qualified? <;> rfl
      rw [split]
      exact ⟨_, first.append second⟩

/-- The statement at a place is the first one that qualifies the name of a candidate, and gives it
its form and its node, if it tells one. Where there is no name, other exports may stand before it. -/
def FirstAt (statements : List Node) (candidate : Candidate) (place : Nat) : Prop :=
  ∃ before statement after, statements = before ++ statement :: after ∧ before.length = place ∧
    (∃ told, Qualifies statement candidate.name told candidate.form ∧
      ∀ node ∈ told, node = candidate.node) ∧
    (candidate.name ≠ "" →
      ∀ earlier ∈ before, ∀ told form, ¬Qualifies earlier candidate.name told form)

/-- What is known of the candidates when some statements have been visited. -/
structure Accounts (statements : List Node) (survey : Survey) : Prop where
  once : survey.CandidatesOnce
  ordered : ∃ places, List.Forall₂ (FirstAt statements) survey.candidates places ∧
    places.Pairwise (· ≤ ·)
  complete : ∀ statement ∈ statements, ∀ name told form, Qualifies statement name told form →
    survey.hasCandidate name

theorem FirstAt.lt {statements : List Node} {candidate : Candidate} {place : Nat}
    (first : FirstAt statements candidate place) : place < statements.length := by
  obtain ⟨before, statement, after, rfl, rfl, -⟩ := first
  simp

theorem FirstAt.append {statements : List Node} {candidate : Candidate} {place : Nat}
    (first : FirstAt statements candidate place) (more : List Node) :
    FirstAt (statements ++ more) candidate place := by
  obtain ⟨before, statement, after, rfl, rfl, qualifies, isFirst⟩ := first
  exact ⟨before, statement, after ++ more, by simp, rfl, qualifies, isFirst⟩

section

variable {statements : List Node} {added : List Candidate}

/-- A candidate that is added by a statement was qualified by none before it. -/
theorem Accounts.firstAt_added (accounts : survey.Accounts statements)
    (admits : survey.Admits (qualifiedIn (notesOfStatement description statement)) added later)
    {candidate : Candidate} (isAdded : candidate ∈ added) :
    FirstAt (statements ++ [statement]) candidate statements.length := by
  obtain ⟨⟨told, isQualified, isTold⟩, isNew⟩ := admits.sound candidate isAdded
  refine ⟨statements, statement, [], rfl, rfl, ⟨told, qualifies_of_mem isQualified, isTold⟩, ?_⟩
  intro named earlier isEarlier told form qualifies
  exact isNew named (accounts.complete earlier isEarlier _ told form qualifies)

theorem Accounts.ordered_added (accounts : survey.Accounts statements)
    (admits : survey.Admits (qualifiedIn (notesOfStatement description statement)) added later) :
    ∃ places, List.Forall₂ (FirstAt (statements ++ [statement])) later.candidates places ∧
      places.Pairwise (· ≤ ·) := by
  obtain ⟨places, areFirst, ordered⟩ := accounts.ordered
  refine ⟨places ++ added.map fun _ => statements.length, ?_, ?_⟩
  · rw [admits.candidates]
    refine List.rel_append (areFirst.imp fun _ _ first => first.append [statement]) ?_
    exact List.forall₂_map_right_iff.mpr (List.forall₂_same.mpr fun _ isAdded =>
      accounts.firstAt_added admits isAdded)
  · refine List.pairwise_append.mpr ⟨ordered, List.pairwise_map.mpr ?_, ?_⟩
    · exact List.pairwise_of_forall fun _ _ => Nat.le_refl _
    · intro place isPlace last isLast
      obtain ⟨_, _, rfl⟩ := List.mem_map.mp isLast
      obtain ⟨_, _, first⟩ := exists_of_mem_of_forall₂ areFirst.flip isPlace
      exact Nat.le_of_lt (FirstAt.lt first)

theorem Accounts.visitStatement (accounts : survey.Accounts statements) (description : String)
    (statement : Node) :
    (survey.visitStatement description statement).Accounts (statements ++ [statement]) := by
  rw [visitStatement_eq]
  obtain ⟨added, admits⟩ := survey.admits_notes (notesOfStatement description statement)
  refine ⟨admits.once accounts.once, accounts.ordered_added admits, ?_⟩
  intro other isOther name told form qualifies
  rcases List.mem_append.mp isOther with isEarlier | isLast
  · exact admits.hasCandidate (accounts.complete other isEarlier name told form qualifies)
  · cases List.mem_singleton.mp isLast
    exact admits.complete (name, told, form) (mem_qualifiedIn_notesOfStatement.mpr qualifies)

end

theorem Accounts.visitAll {statements nodes : List Node} (accounts : survey.Accounts statements)
    (previous : Option Node) :
    (survey.visitAll previous nodes).Accounts (statements ++ nodes) := by
  induction nodes generalizing survey statements previous with
  | nil => rwa [List.append_nil]
  | cons node nodes induction =>
      rw [List.append_cons]
      exact induction (accounts.visitStatement _ node) (some node)

theorem accounts_empty : empty.Accounts [] :=
  ⟨List.nodup_nil, ⟨[], .nil, .nil⟩, fun _ member => absurd member List.not_mem_nil⟩

theorem accounts_ofProgram (program : Node) :
    (ofProgram program).Accounts program.childNodes :=
  accounts_empty.visitAll none

theorem resolve?_eq_none_iff : survey.resolve? = none ↔ survey.candidates = [] := by
  rw [resolve?, Option.or_eq_none_iff, List.head?_eq_none_iff]
  constructor
  · exact fun none => none.2
  · intro noCandidate
    refine ⟨List.findSome?_eq_none_iff.mpr fun name _ => ?_, noCandidate⟩
    rw [noCandidate]
    rfl

end Survey

theorem ofProgram_eq_noComponent_iff {program : Node} :
    Extraction.ofProgram program = .error .noComponent ↔
      (Survey.ofProgram program).candidates = [] := by
  rw [← resolve?_eq_none_iff, Extraction.ofProgram]
  cases (Survey.ofProgram program).resolve? <;> simp

theorem extract_eq_noComponent_iff {path source : String} :
    extract path source = .error .noComponent ↔
      ∃ dialect program, Dialect.ofPath? path.toList = some dialect ∧
        Module.read? dialect source.toList = some program ∧
        (Survey.ofProgram program).candidates = [] := by
  rw [extract]
  cases Dialect.ofPath? path.toList with
  | none => simp
  | some dialect =>
      dsimp only
      rw [ofSource]
      cases read : Module.read? dialect source.toList with
      | none => simp [read]
      | some program => simp [read, ofProgram_eq_noComponent_iff]

/-- The candidates of a script have different names, but for components without one; they stand in
the order of the statements that first qualify their names, and there is one for every name that a
statement qualifies. Names whose types are assigned are among them, and only such names are
candidates by assignment. A script is about no component just if there is no candidate. -/
theorem candidates_exactly (program : Node) :
    let survey := Survey.ofProgram program
    ((survey.candidates.map (·.name)).filter (· ≠ "")).Nodup ∧
    (∃ places, List.Forall₂ (FirstAt program.childNodes) survey.candidates places ∧
      places.Pairwise (· ≤ ·)) ∧
    (∀ statement ∈ program.childNodes, ∀ name told form, Qualifies statement name told form →
      ∃ candidate ∈ survey.candidates, candidate.name = name) ∧
    (∀ assignment ∈ survey.assignments, assignment.property = "propTypes" →
      ∃ candidate ∈ survey.candidates, candidate.name = assignment.target) ∧
    (∀ candidate ∈ survey.candidates, candidate.form = .assigned →
      ∃ assignment ∈ survey.assignments, assignment.target = candidate.name ∧
        assignment.property = "propTypes") ∧
    (survey.resolve? = none ↔ survey.candidates = []) ∧
    ∀ path source, extract path source = .error .noComponent ↔
      ∃ dialect program, Dialect.ofPath? path.toList = some dialect ∧
        Module.read? dialect source.toList = some program ∧
        (Survey.ofProgram program).candidates = [] := by
  intro survey
  have accounts := accounts_ofProgram program
  refine ⟨accounts.once, accounts.ordered, ?_, ?_, ?_, resolve?_eq_none_iff,
    fun _ _ => extract_eq_noComponent_iff⟩
  · intro statement isStatement name told form qualifies
    have known := accounts.complete statement isStatement name told form qualifies
    exact List.mem_map.mp ((hasCandidate_iff survey name).mp known)
  · intro assignment isAssignment isTypes
    rw [assignments_ofProgram] at isAssignment
    obtain ⟨statement, isStatement, assigns⟩ := List.mem_filterMap.mp isAssignment
    have known := accounts.complete statement isStatement _ _ _ (.typed assigns isTypes)
    exact List.mem_map.mp ((hasCandidate_iff survey assignment.target).mp known)
  · intro candidate isCandidate isAssigned
    cases (formsTell_ofProgram program).candidates candidate isCandidate with
    | classLike isForm _ _ => exact absurd (isAssigned.symm.trans isForm) (by decide)
    | function isForm _ => exact absurd (isAssigned.symm.trans isForm) (by decide)
    | assigned _ typed _ => exact typed

/-- A function that is declared twice, a class that its types alone make a component, and an export
without a name. -/
def boxesSource : String := Text.ofLines [
  "class Plain \x7b\x7d",
  "const Box = () => <i />;",
  "Plain.propTypes = \x7b\x7d;",
  "function Box() \x7b return <b />; \x7d",
  "export default () => <b />;"]

theorem candidates_exactly_boxes :
    ∃ program, Module.read? .javaScript boxesSource.toList = some program ∧
      let survey := Survey.ofProgram program
      survey.candidates.map (fun candidate => (candidate.name, candidate.form)) =
        [("Box", .function), ("Plain", .assigned), ("", .function)] ∧
      (∃ places, List.Forall₂ (FirstAt program.childNodes) survey.candidates places ∧
        places.Pairwise (· ≤ ·)) ∧
      (∃ assignment ∈ survey.assignments, assignment.property = "propTypes" ∧
        ∃ candidate ∈ survey.candidates, candidate.name = assignment.target) ∧
      (∃ candidate ∈ survey.candidates, candidate.form = .assigned ∧
        ∃ assignment ∈ survey.assignments, assignment.target = candidate.name ∧
          assignment.property = "propTypes") ∧
      extract "Card.js" "class Plain \x7b\x7d\n" = .error .noComponent := by
  have evaluated : (Module.read? .javaScript boxesSource.toList).any fun program =>
      (Survey.ofProgram program).candidates.map (fun candidate => (candidate.name, candidate.form)) =
          [("Box", .function), ("Plain", .assigned), ("", .function)] &&
        (Survey.ofProgram program).assignments.any (·.property == "propTypes") := by
    decide +kernel
  obtain ⟨program, read, evaluated⟩ := (Option.any_eq_true ..).mp evaluated
  obtain ⟨named, typed⟩ := Bool.and_eq_true_iff.mp evaluated
  have named := of_decide_eq_true named
  obtain ⟨assignment, isAssignment, isTypes⟩ := List.any_eq_true.mp typed
  obtain ⟨_, ordered, _, ofTyped, ofAssigned, _, ofSource⟩ := candidates_exactly program
  obtain ⟨candidate, isCandidate, isPlain⟩ := List.mem_map.mp
    (named.symm ▸ (by decide : ("Plain", Form.assigned) ∈
      [("Box", Form.function), ("Plain", .assigned), ("", .function)]))
  have isAssigned : candidate.form = .assigned := congrArg Prod.snd isPlain
  have isTypes := beq_iff_eq.mp isTypes
  refine ⟨program, read, named, ordered, ?_, ?_, ?_⟩
  · exact ⟨assignment, isAssignment, isTypes, ofTyped assignment isAssignment isTypes⟩
  · exact ⟨candidate, isCandidate, isAssigned, ofAssigned candidate isCandidate isAssigned⟩
  · have empty : (Module.read? .javaScript "class Plain \x7b\x7d\n".toList).any fun program =>
        (Survey.ofProgram program).candidates.isEmpty := by decide +kernel
    obtain ⟨plain, read, empty⟩ := (Option.any_eq_true ..).mp empty
    exact (ofSource _ _).mpr ⟨.javaScript, plain, by decide, read, List.isEmpty_iff.mp empty⟩

end SnapshotGen.Extraction
