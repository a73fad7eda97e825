import SnapshotGen.Extraction.Survey

/-!
A survey as the notes that it takes. What is noted of a statement does not depend on the statements
in front of it, so a survey is the notes of all statements, taken one after another.
-/

namespace SnapshotGen.Extraction

open Script Survey

inductive Note
  | candidate (candidate : Candidate)
  | default (name : String)
  | binding (name : String) (value : Node)
  | assignment (assignment : Assignment)
  | definition (definition : Definition)
  | typed (name : String) (statement : Node) (description : String)

namespace Note

def default? : Note → Option String
  | .default name => some name
  | _ => none

def binding? : Note → Option (String × Node)
  | .binding name value => some (name, value)
  | _ => none

def assignment? : Note → Option Assignment
  | .assignment noted => some noted
  | _ => none

def definition? : Note → Option Definition
  | .definition noted => some noted
  | _ => none

end Note

def notesOfDefined (name : String) (node : Node) (description : String) (component : Option Form) :
    List Note :=
  match component with
  | some form =>
    [.definition ⟨name, node, description⟩, .candidate ⟨name, node, description, form⟩]
  | none => [.definition ⟨name, node, description⟩]

def notesOfDeclarator (description : String) (node : Node) : List Note :=
  match node.child? .name, node.child? .value with
  | some name, some value =>
    if name.kind = .identifier then
      .binding name.text value ::
        match inlineComponent? value with
        | some (node, form) =>
          notesOfDefined name.text node description
            (if isComponentName name.text then some form else none)
        | none => []
    else []
  | _, _ => []

def notesOfDeclaration (description : String) (node : Node) : List Note :=
  match node.kind, node.child? .name with
  | .classDeclaration, some name =>
    notesOfDefined name.text node description
      (if isComponentClass node then some .classLike else none)
  | .functionDeclaration, some name =>
    notesOfDefined name.text node description
      (if isComponentName name.text && node.rendersElement then some .function else none)
  | .variableDeclaration, _ =>
    (node.childNodes.filter (·.kind == .declarator)).flatMap (notesOfDeclarator description)
  | _, _ => []

def notesOfDefault (description : String) (value : Node) : List Note :=
  match target? value with
  | some (.named name) => [.default name]
  | some (.inline node form) => [.candidate ⟨"", node, description, form⟩, .default ""]
  | none => []

def notesOfExport (description : String) (node : Node) : List Note :=
  match node.child? .declaration, node.child? .value with
  | some declaration, _ =>
    notesOfDeclaration description declaration ++
      if node.hasKeyword "default" then [.default (declaredName declaration)] else []
  | none, some value => if node.hasKeyword "default" then notesOfDefault description value else []
  | none, none => []

def notesOfAssignment (description : String) (statement object property value : Node) :
    List Note :=
  if object.text = "module" && property.text = "exports" then notesOfDefault description value
  else if object.kind ≠ .identifier then []
  else
    (if property.text = "propTypes" then [.typed object.text statement description] else []) ++
      [.assignment ⟨object.text, property.text, value⟩]

def notesOfStatement (description : String) (node : Node) : List Note :=
  match node.kind with
  | .export => notesOfExport description node
  | .expressionStatement =>
    match assignmentOf? node with
    | some (object, property, value) => notesOfAssignment description node object property value
    | none => []
  | _ => notesOfDeclaration description node

def notesOfAll (previous : Option Node) : List Node → List Note
  | [] => []
  | node :: more =>
    notesOfStatement (descriptionBehind previous) node ++ notesOfAll (some node) more

def notesOf (program : Node) : List Note :=
  notesOfAll none program.childNodes

theorem notesOfAll_append (previous : Option Node) (front back : List Node) :
    notesOfAll previous (front ++ back) =
      notesOfAll previous front ++ notesOfAll (front.getLast?.or previous) back := by
  induction front generalizing previous with
  | nil => rfl
  | cons node front induction =>
      have last : (node :: front).getLast?.or previous = front.getLast?.or (some node) := by
        rw [List.getLast?_cons]
        cases front.getLast? <;> rfl
      rw [List.cons_append, notesOfAll, induction, notesOfAll, last, List.append_assoc]

section

variable {holds : Note → Prop} {description : String}
  (definitions : ∀ name node, holds (.definition ⟨name, node, description⟩))
  (candidates : ∀ name node form, holds (.candidate ⟨name, node, description, form⟩))

include definitions candidates

theorem forall_mem_notesOfDefined {name : String} {node : Node} {component : Option Form} :
    ∀ note ∈ notesOfDefined name node description component, holds note := by
  cases component <;> simp [notesOfDefined, definitions, candidates]

variable (bindings : ∀ name value, holds (.binding name value))

include bindings

theorem forall_mem_notesOfDeclarator {node : Node} :
    ∀ note ∈ notesOfDeclarator description node, holds note := by
  unfold notesOfDeclarator
  split
  · split
    · refine List.forall_mem_cons.mpr ⟨bindings _ _, ?_⟩
      split
      · exact forall_mem_notesOfDefined definitions candidates
      · exact nofun
    · exact nofun
  · exact nofun

/-- A declaration is noted as variables, definitions and components, described as it is. -/
theorem forall_mem_notesOfDeclaration {node : Node} :
    ∀ note ∈ notesOfDeclaration description node, holds note := by
  unfold notesOfDeclaration
  split
  · exact forall_mem_notesOfDefined definitions candidates
  · exact forall_mem_notesOfDefined definitions candidates
  · intro note member
    obtain ⟨declarator, _, inDeclarator⟩ := List.mem_flatMap.mp member
    exact forall_mem_notesOfDeclarator definitions candidates bindings note inDeclarator
  · exact nofun

end

/-- What only says what a script defines; what it assigns and exports is none of it. -/
def Note.Defines : Note → Prop
  | .candidate _ | .binding _ _ | .definition _ => True
  | _ => False

theorem defines_of_mem_notesOfDeclaration {description : String} {node : Node} :
    ∀ note ∈ notesOfDeclaration description node, note.Defines :=
  forall_mem_notesOfDeclaration (fun _ _ => trivial) (fun _ _ _ => trivial) fun _ _ => trivial

theorem filterMap_notesOfDeclaration_eq_nil {α : Type} {told : Note → Option α}
    (isSilent : ∀ note, note.Defines → told note = none) (description : String) (node : Node) :
    (notesOfDeclaration description node).filterMap told = [] :=
  List.filterMap_eq_nil_iff.mpr fun note member =>
    isSilent note (defines_of_mem_notesOfDeclaration note member)

namespace Survey

def note (survey : Survey) : Note → Survey
  | .candidate candidate => survey.addCandidate candidate
  | .default name => survey.addDefault name
  | .binding name value => survey.addBinding name value
  | .assignment assignment => survey.addAssignment assignment
  | .definition definition => survey.define definition
  | .typed name statement description => survey.noteAssigned description statement name

variable (survey : Survey)

theorem noteDefined_eq (name : String) (node : Node) (description : String)
    (component : Option Form) :
    survey.noteDefined name node description component =
      (notesOfDefined name node description component).foldl note survey := by
  cases component <;> rfl

theorem visitDeclarator_eq (description : String) (node : Node) :
    survey.visitDeclarator description node =
      (notesOfDeclarator description node).foldl note survey := by
  unfold visitDeclarator notesOfDeclarator
  cases node.child? .name with
  | none => rfl
  | some name =>
      cases node.child? .value with
      | none => rfl
      | some value =>
          dsimp only
          split
          · rcases inlineComponent? value with _ | ⟨component, form⟩
            · rfl
            · exact noteDefined_eq _ _ _ _ _
          · rfl

theorem foldl_visitDeclarator_eq (description : String) (nodes : List Node) :
    nodes.foldl (visitDeclarator description) survey =
      (nodes.flatMap (notesOfDeclarator description)).foldl note survey := by
  induction nodes generalizing survey with
  | nil => rfl
  | cons node nodes induction =>
      rw [List.foldl_cons, induction, visitDeclarator_eq, List.flatMap_cons, List.foldl_append]

theorem visitDeclaration_eq (description : String) (node : Node) :
    survey.visitDeclaration description node =
      (notesOfDeclaration description node).foldl note survey := by
  unfold visitDeclaration notesOfDeclaration
  cases node.child? .name <;> cases node.kind <;>
    first
    | rfl
    | exact noteDefined_eq _ _ _ _ _
    | exact foldl_visitDeclarator_eq _ _ _

theorem visitDefault_eq (description : String) (value : Node) :
    survey.visitDefault description value =
      (notesOfDefault description value).foldl note survey := by
  unfold visitDefault notesOfDefault
  rcases target? value with _ | _ | _ <;> rfl

theorem visitExport_eq (description : String) (node : Node) :
    survey.visitExport description node = (notesOfExport description node).foldl note survey := by
  unfold visitExport notesOfExport
  cases node.child? .declaration with
  | some declaration =>
      dsimp only
      rw [List.foldl_append, visitDeclaration_eq]
      split <;> rfl
  | none =>
      cases node.child? .value with
      | none => rfl
      | some value =>
          dsimp only
          split
          · exact visitDefault_eq _ _ _
          · rfl

theorem visitAssignment_eq (description : String) (statement object property value : Node) :
    survey.visitAssignment description statement object property value =
      (notesOfAssignment description statement object property value).foldl note survey := by
  unfold visitAssignment notesOfAssignment
  split
  · exact visitDefault_eq _ _ _
  · split
    · rfl
    · rw [List.foldl_append]
      dsimp only
      split <;> rfl

theorem visitStatement_eq (description : String) (node : Node) :
    survey.visitStatement description node =
      (notesOfStatement description node).foldl note survey := by
  unfold visitStatement notesOfStatement
  cases node.kind with
  | «export» => exact visitExport_eq _ _ _
  | expressionStatement =>
      rcases assignmentOf? node with _ | ⟨object, property, value⟩
      · rfl
      · exact visitAssignment_eq _ _ _ _ _ _
  | _ => exact visitDeclaration_eq _ _ _

theorem visitAll_eq (previous : Option Node) (nodes : List Node) :
    survey.visitAll previous nodes = (notesOfAll previous nodes).foldl note survey := by
  induction nodes generalizing survey previous with
  | nil => rfl
  | cons node nodes induction =>
      rw [visitAll, induction, visitStatement_eq, notesOfAll, List.foldl_append]

theorem ofProgram_eq (program : Node) : ofProgram program = (notesOf program).foldl note empty :=
  visitAll_eq _ _ _

/-- The lists that only grow, after some notes. Candidates are not among them, a name may be one
already. -/
structure Extends (survey : Survey) (notes : List Note) (later : Survey) : Prop where
  defaultNames : later.defaultNames = survey.defaultNames ++ notes.filterMap Note.default?
  bindings : later.bindings = survey.bindings ++ notes.filterMap Note.binding?
  assignments : later.assignments = survey.assignments ++ notes.filterMap Note.assignment?
  definitions : later.definitions = survey.definitions ++ notes.filterMap Note.definition?

theorem Extends.append {survey middle later : Survey} {notes more : List Note}
    (first : survey.Extends notes middle) (second : middle.Extends more later) :
    survey.Extends (notes ++ more) later where
  defaultNames := by
    rw [second.defaultNames, first.defaultNames, List.filterMap_append, List.append_assoc]
  bindings := by
    rw [second.bindings, first.bindings, List.filterMap_append, List.append_assoc]
  assignments := by
    rw [second.assignments, first.assignments, List.filterMap_append, List.append_assoc]
  definitions := by
    rw [second.definitions, first.definitions, List.filterMap_append, List.append_assoc]

theorem extends_of_candidates (candidates : List Candidate) {notes : List Note}
    (noDefault : notes.filterMap Note.default? = []) (noBinding : notes.filterMap Note.binding? = [])
    (noAssignment : notes.filterMap Note.assignment? = [])
    (noDefinition : notes.filterMap Note.definition? = []) :
    survey.Extends notes { survey with candidates } := by
  refine ⟨?_, ?_, ?_, ?_⟩
  · rw [noDefault, List.append_nil]
  · rw [noBinding, List.append_nil]
  · rw [noAssignment, List.append_nil]
  · rw [noDefinition, List.append_nil]

theorem exists_addCandidate_eq (candidate : Candidate) :
    ∃ candidates, survey.addCandidate candidate = { survey with candidates } := by
  unfold addCandidate
  split
  · exact ⟨survey.candidates, rfl⟩
  · exact ⟨_, rfl⟩

theorem exists_noteAssigned_eq (description name : String) (statement : Node) :
    ∃ candidates, survey.noteAssigned description statement name = { survey with candidates } := by
  unfold noteAssigned
  split
  · exact ⟨survey.candidates, rfl⟩
  · exact exists_addCandidate_eq _ _

theorem extends_note (note : Note) : survey.Extends [note] (survey.note note) := by
  cases note with
  | candidate candidate =>
      obtain ⟨candidates, same⟩ := survey.exists_addCandidate_eq candidate
      rw [Survey.note, same]
      exact survey.extends_of_candidates candidates rfl rfl rfl rfl
  | typed name statement description =>
      obtain ⟨candidates, same⟩ := survey.exists_noteAssigned_eq description name statement
      rw [Survey.note, same]
      exact survey.extends_of_candidates candidates rfl rfl rfl rfl
  | default name =>
      exact ⟨rfl, (List.append_nil _).symm, (List.append_nil _).symm, (List.append_nil _).symm⟩
  | binding name value =>
      exact ⟨(List.append_nil _).symm, rfl, (List.append_nil _).symm, (List.append_nil _).symm⟩
  | assignment assignment =>
      exact ⟨(List.append_nil _).symm, (List.append_nil _).symm, rfl, (List.append_nil _).symm⟩
  | definition definition =>
      exact ⟨(List.append_nil _).symm, (List.append_nil _).symm, (List.append_nil _).symm, rfl⟩

theorem extends_foldl_note (notes : List Note) : survey.Extends notes (notes.foldl note survey) := by
  induction notes generalizing survey with
  | nil => exact survey.extends_of_candidates survey.candidates rfl rfl rfl rfl
  | cons note notes induction => exact (survey.extends_note note).append (induction _)

end Survey

end SnapshotGen.Extraction
