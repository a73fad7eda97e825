import SnapshotGen.Extraction.ComponentForm

/-!
One pass over the statements of a script. It notes every name that may be a component, every
assignment to a member of a name, every variable, and what is exported by default.
-/

namespace SnapshotGen.Extraction

open Script

/-- A component that a script may be about. An expression that is exported without a name has the
empty one. -/
structure Candidate where
  name : String
  node : Node
  description : String
  form : Form

/-- `target.property = value` -/
structure Assignment where
  target : String
  property : String
  value : Node

structure Definition where
  name : String
  node : Node
  description : String

structure Survey where
  candidates : List Candidate
  assignments : List Assignment
  bindings : List (String × Node)
  definitions : List Definition
  defaultNames : List String

namespace Survey

def empty : Survey :=
  ⟨[], [], [], [], []⟩

def hasCandidate (survey : Survey) (name : String) : Bool :=
  survey.candidates.any (·.name == name)

/-- A name is a candidate once, the empty one as often as it comes. -/
def addCandidate (survey : Survey) (candidate : Candidate) : Survey :=
  if candidate.name ≠ "" && survey.hasCandidate candidate.name then survey
  else { survey with candidates := survey.candidates ++ [candidate] }

def addDefault (survey : Survey) (name : String) : Survey :=
  { survey with defaultNames := survey.defaultNames ++ [name] }

def addBinding (survey : Survey) (name : String) (value : Node) : Survey :=
  { survey with bindings := survey.bindings ++ [(name, value)] }

def addAssignment (survey : Survey) (assignment : Assignment) : Survey :=
  { survey with assignments := survey.assignments ++ [assignment] }

def define (survey : Survey) (definition : Definition) : Survey :=
  { survey with definitions := survey.definitions ++ [definition] }

def definition? (survey : Survey) (name : String) : Option Definition :=
  survey.definitions.find? (·.name == name)

def binding? (survey : Survey) (name : String) : Option Node :=
  (survey.bindings.reverse.find? (·.1 == name)).map (·.2)

def assigned? (survey : Survey) (target property : String) : Option Node :=
  (survey.assignments.reverse.find? fun assignment =>
    assignment.target == target && assignment.property == property).map (·.value)

def isComponentName (name : String) : Bool :=
  name.toList.head?.any fun c => 'A' ≤ c && c ≤ 'Z'

def noteDefined (survey : Survey) (name : String) (node : Node) (description : String)
    (component : Option Form) : Survey :=
  let survey := survey.define ⟨name, node, description⟩
  match component with
  | some form => survey.addCandidate ⟨name, node, description, form⟩
  | none => survey

def visitDeclarator (description : String) (survey : Survey) (node : Node) : Survey :=
  match node.child? .name, node.child? .value with
  | some name, some value =>
    if name.kind = .identifier then
      let survey := survey.addBinding name.text value
      match inlineComponent? value with
      | some (node, form) =>
        survey.noteDefined name.text node description
          (if isComponentName name.text then some form else none)
      | none => survey
    else survey
  | _, _ => survey

def visitDeclaration (description : String) (survey : Survey) (node : Node) : Survey :=
  match node.kind, node.child? .name with
  | .classDeclaration, some name =>
    survey.noteDefined name.text node description
      (if isComponentClass node then some .classLike else none)
  | .functionDeclaration, some name =>
    survey.noteDefined name.text node description
      (if isComponentName name.text && node.rendersElement then some .function else none)
  | .variableDeclaration, _ =>
    (node.childNodes.filter (·.kind == .declarator)).foldl (visitDeclarator description) survey
  | _, _ => survey

def declaredName (node : Node) : String :=
  match node.kind with
  | .classDeclaration | .functionDeclaration => ((node.child? .name).map Node.text).getD ""
  | _ => ""

def visitDefault (description : String) (survey : Survey) (value : Node) : Survey :=
  match target? value with
  | some (.named name) => survey.addDefault name
  | some (.inline node form) => (survey.addCandidate ⟨"", node, description, form⟩).addDefault ""
  | none => survey

def visitExport (description : String) (survey : Survey) (node : Node) : Survey :=
  let isDefault := node.hasKeyword "default"
  match node.child? .declaration, node.child? .value with
  | some declaration, _ =>
    let survey := survey.visitDeclaration description declaration
    if isDefault then survey.addDefault (declaredName declaration) else survey
  | none, some value => if isDefault then survey.visitDefault description value else survey
  | none, none => survey

/-- A name becomes a candidate when its `propTypes` are assigned, whatever it is. -/
def noteAssigned (description : String) (survey : Survey) (statement : Node) (name : String) :
    Survey :=
  if survey.hasCandidate name then survey
  else
    let found := (survey.definition? name).getD ⟨name, statement, description⟩
    survey.addCandidate ⟨name, found.node, found.description, .assigned⟩

def visitAssignment (description : String) (survey : Survey) (statement object property value : Node) :
    Survey :=
  if object.text = "module" && property.text = "exports" then survey.visitDefault description value
  else if object.kind ≠ .identifier then survey
  else
    let survey :=
      if property.text = "propTypes" then survey.noteAssigned description statement object.text
      else survey
    survey.addAssignment ⟨object.text, property.text, value⟩

def assignmentOf? (statement : Node) : Option (Node × Node × Node) := do
  let expression ← statement.childNodes.find? (·.kind == .assignment)
  let left ← expression.child? .left
  let right ← expression.child? .right
  if left.kind ≠ .member then none
  else return (← left.child? .object, ← left.child? .property, right)

def visitStatement (survey : Survey) (description : String) (node : Node) : Survey :=
  match node.kind with
  | .export => survey.visitExport description node
  | .expressionStatement =>
    match assignmentOf? node with
    | some (object, property, value) => survey.visitAssignment description node object property value
    | none => survey
  | _ => survey.visitDeclaration description node

/-- What the comment right in front of a statement says. -/
def descriptionBehind (previous : Option Node) : String :=
  match previous with
  | some node => if node.kind = .comment then description node.text.toList else ""
  | none => ""

def visitAll (survey : Survey) (previous : Option Node) : List Node → Survey
  | [] => survey
  | node :: more => visitAll (survey.visitStatement (descriptionBehind previous) node) (some node) more

def ofProgram (program : Node) : Survey :=
  visitAll empty none program.childNodes

/-- The component that a script is about: the one that is exported by default, else the first. -/
def resolve? (survey : Survey) : Option Candidate :=
  (survey.defaultNames.findSome? fun name => survey.candidates.find? (·.name == name)).or
    survey.candidates.head?

/-- The value of a static property: the one assigned last, else that of a member of the class. -/
def staticValue? (survey : Survey) (candidate : Candidate) (property : String) : Option Node :=
  let assigned := if candidate.name = "" then none else survey.assigned? candidate.name property
  assigned.or (if candidate.form = .classLike then staticMember? candidate.node property else none)

/-- The object literal that an expression stands for, through parentheses and no more than a number
of variables. -/
def objectWithin? (survey : Survey) : Nat → Node → Option Node
  | limit, node =>
    let node := node.unparenthesized
    match node.kind, limit with
    | .object, _ => some node
    | .identifier, n + 1 => (survey.binding? node.text).bind (objectWithin? survey n)
    | _, _ => none

def mostBindings : Nat := 8

def object? (survey : Survey) (node : Node) : Option Node :=
  survey.objectWithin? mostBindings node

end Survey

end SnapshotGen.Extraction
