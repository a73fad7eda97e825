import SnapshotGen.Proofs.Extraction.Notes
import SnapshotGen.Proofs.Extraction.Sources

/-!
What the form of a candidate tells. A class is taken for a component where it is defined, or only
for the types that are assigned to its name, and the form keeps the two apart.
-/

namespace SnapshotGen.Extraction

open Script Script.Node Survey

def IsClass (node : Node) : Prop :=
  node.kind = .classDeclaration ∨ node.kind = .classExpression

/-- A class that is taken for a component where it is defined: a declaration, or an expression that
is bound to the name of a component. -/
structure IsRecognised (name : String) (node : Node) : Prop where
  isComponent : isComponentClass node
  byForm : node.kind = .classDeclaration ∨ node.kind = .classExpression ∧ isComponentName name

/-- What made a candidate one of its form. A class without a name is exported by itself. -/
inductive FormTells (assignments : List Assignment) (candidate : Candidate) : Prop
  | classLike (isForm : candidate.form = .classLike) (isComponent : isComponentClass candidate.node)
      (recognised : candidate.name ≠ "" → IsRecognised candidate.name candidate.node)
  | function (isForm : candidate.form = .function) (noClass : ¬IsClass candidate.node)
  | assigned (isForm : candidate.form = .assigned)
      (typed : ∃ assignment ∈ assignments,
        assignment.target = candidate.name ∧ assignment.property = "propTypes")
      (unrecognised : ¬IsRecognised candidate.name candidate.node)

theorem FormTells.mono {assignments more : List Assignment} {candidate : Candidate}
    (tells : FormTells assignments candidate) (included : assignments ⊆ more) :
    FormTells more candidate := by
  cases tells with
  | classLike isForm isComponent recognised => exact .classLike isForm isComponent recognised
  | function isForm noClass => exact .function isForm noClass
  | assigned isForm typed unrecognised =>
      obtain ⟨assignment, member, isTyped⟩ := typed
      exact .assigned isForm ⟨assignment, included member, isTyped⟩ unrecognised

theorem FormTells.of_plainComponent? {node : Node} {form : Form}
    (plain : plainComponent? node = some (node, form)) (assignments : List Assignment)
    {name : String} (named : name = "" ∨ isComponentName name) (description : String) :
    FormTells assignments ⟨name, node, description, form⟩ := by
  obtain ⟨-, ⟨rfl, isFunction⟩ | ⟨rfl, isExpression, isComponent⟩⟩ := plainComponent?_cases plain
  · refine .function rfl ?_
    rcases isFunction with isArrow | isFunction
    · simp [IsClass, isArrow]
    · simp [IsClass, isFunction]
  · refine .classLike rfl isComponent fun notEmpty => ⟨isComponent, .inr ⟨isExpression, ?_⟩⟩
    exact named.resolve_left notEmpty

theorem IsRecognised.isComponentName {name : String} {node : Node} {form : Form}
    (recognised : IsRecognised name node) (plain : plainComponent? node = some (node, form)) :
    isComponentName name := by
  rcases recognised.byForm with isDeclaration | ⟨_, isName⟩
  · exfalso
    obtain ⟨-, ⟨-, isOther | isOther⟩ | ⟨-, isOther, -⟩⟩ := plainComponent?_cases plain <;>
      exact absurd (isDeclaration.symm.trans isOther) (by decide)
  · exact isName

/-- The forms of all candidates tell what made them candidates, and no class that is taken for a
component where it is defined is left out. -/
structure Survey.FormsTell (survey : Survey) : Prop where
  candidates : ∀ candidate ∈ survey.candidates, FormTells survey.assignments candidate
  definitions : ∀ definition ∈ survey.definitions,
    IsRecognised definition.name definition.node → survey.hasCandidate definition.name

namespace Survey

variable {survey : Survey}

theorem hasCandidate_addCandidate_self (survey : Survey) (candidate : Candidate) :
    (survey.addCandidate candidate).hasCandidate candidate.name := by
  unfold addCandidate
  split
  · rename_i isKnown
    exact (Bool.and_eq_true_iff.mp isKnown).2
  · simp [hasCandidate]

theorem hasCandidate_addCandidate {name : String} (known : survey.hasCandidate name)
    (candidate : Candidate) : (survey.addCandidate candidate).hasCandidate name := by
  unfold addCandidate
  split
  · exact known
  · rw [hasCandidate, List.any_append, ← hasCandidate, known, Bool.true_or]

theorem FormsTell.addCandidate (tell : survey.FormsTell) {candidate : Candidate}
    (tells : FormTells survey.assignments candidate) :
    (survey.addCandidate candidate).FormsTell := by
  refine ⟨?_, ?_⟩
  · unfold Survey.addCandidate
    split
    · exact tell.candidates
    · exact forall_mem_append_last tell.candidates tells
  · intro definition member recognised
    refine hasCandidate_addCandidate (tell.definitions definition ?_ recognised) candidate
    obtain ⟨_, same⟩ := survey.exists_addCandidate_eq candidate
    rwa [same] at member

theorem FormsTell.define (tell : survey.FormsTell) {definition : Definition}
    (complete : IsRecognised definition.name definition.node →
      survey.hasCandidate definition.name) : (survey.define definition).FormsTell :=
  ⟨tell.candidates, forall_mem_append_last tell.definitions complete⟩

theorem FormsTell.addAssignment (tell : survey.FormsTell) (assignment : Assignment) :
    (survey.addAssignment assignment).FormsTell where
  candidates candidate member :=
    (tell.candidates candidate member).mono (List.subset_append_left _ _)
  definitions := tell.definitions

theorem addCandidate_define (survey : Survey) (candidate : Candidate) (definition : Definition) :
    (survey.define definition).addCandidate candidate =
      (survey.addCandidate candidate).define definition := by
  unfold addCandidate
  change (if (candidate.name ≠ "" && survey.hasCandidate candidate.name) = true then _ else _) = _
  split <;> rfl

theorem addAssignment_noteAssigned (survey : Survey) (assignment : Assignment)
    (description name : String) (statement : Node) :
    (survey.noteAssigned description statement name).addAssignment assignment =
      (survey.addAssignment assignment).noteAssigned description statement name := by
  unfold noteAssigned addCandidate
  change _ = if survey.hasCandidate name = true then _ else
    if (name ≠ "" && survey.hasCandidate name) = true then _ else _
  split
  · rfl
  · dsimp only
    split <;> rfl

theorem FormsTell.noteDefined (tell : survey.FormsTell) {name description : String} {node : Node}
    {component : Option Form}
    (tells : ∀ form, component = some form →
      FormTells survey.assignments ⟨name, node, description, form⟩)
    (complete : IsRecognised name node → component.isSome) :
    (survey.noteDefined name node description component).FormsTell := by
  cases component with
  | none => exact tell.define fun recognised => absurd (complete recognised) Bool.false_ne_true
  | some form =>
      rw [Survey.noteDefined, addCandidate_define]
      exact (tell.addCandidate (tells form rfl)).define fun _ =>
        hasCandidate_addCandidate_self survey ⟨name, node, description, form⟩

theorem FormsTell.noteAssigned (tell : survey.FormsTell) {description name : String}
    {statement : Node} (isStatement : statement.kind = .expressionStatement)
    (typed : ∃ assignment ∈ survey.assignments,
      assignment.target = name ∧ assignment.property = "propTypes") :
    (survey.noteAssigned description statement name).FormsTell := by
  unfold Survey.noteAssigned
  split
  · exact tell
  · rename_i isNew
    dsimp only
    refine tell.addCandidate (.assigned rfl typed fun recognised => ?_)
    cases found : survey.definition? name with
    | none =>
        rw [found] at recognised
        have byForm := recognised.byForm
        simp [isStatement] at byForm
    | some definition =>
        rw [found] at recognised
        have sameName : definition.name = name := by simpa using List.find?_some found
        refine isNew ?_
        rw [← sameName]
        refine tell.definitions definition (List.mem_of_find?_eq_some found) ?_
        rw [sameName]
        exact recognised

theorem kept_formsTell (program : Node) : Kept program FormsTell where
  addDefault _ tell := ⟨tell.candidates, tell.definitions⟩
  addBinding _ _ _ tell := ⟨tell.candidates, tell.definitions⟩
  noteClass name description node _ isClass tell := by
    refine tell.noteDefined ?_ ?_
    · intro form isForm
      obtain ⟨isComponent, same⟩ := Option.ite_none_right_eq_some.mp isForm
      cases same
      exact .classLike rfl isComponent fun _ => ⟨isComponent, .inl isClass⟩
    · intro recognised
      rw [if_pos recognised.isComponent]
      rfl
  noteFunction name description node _ isFunction tell := by
    refine tell.noteDefined ?_ ?_
    · intro form isForm
      obtain ⟨_, same⟩ := Option.ite_none_right_eq_some.mp isForm
      cases same
      exact .function rfl (by simp [IsClass, isFunction])
    · intro recognised
      have byForm := recognised.byForm
      simp [isFunction] at byForm
  noteInline name description node form isInline tell := by
    refine tell.noteDefined ?_ ?_
    · intro noted isForm
      obtain ⟨isName, same⟩ := Option.ite_none_right_eq_some.mp isForm
      cases same
      exact .of_plainComponent? isInline.plain _ (.inr isName) description
    · intro recognised
      rw [if_pos (recognised.isComponentName isInline.plain)]
      rfl
  addInline description node form isInline tell :=
    tell.addCandidate (.of_plainComponent? isInline.plain _ (.inl rfl) description)
  noteTypes name description statement value _ _ isStatement tell := by
    rw [addAssignment_noteAssigned]
    refine (tell.addAssignment _).noteAssigned isStatement ?_
    exact ⟨_, List.mem_append_right _ (.head _), rfl, rfl⟩
  addAssignment _ _ tell := tell.addAssignment _

theorem formsTell_ofProgram (program : Node) : (ofProgram program).FormsTell :=
  (kept_formsTell program).ofProgram ⟨fun _ member => absurd member List.not_mem_nil,
    fun _ member => absurd member List.not_mem_nil⟩

end Survey

end SnapshotGen.Extraction
