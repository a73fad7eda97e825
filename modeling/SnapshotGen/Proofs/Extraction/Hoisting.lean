import SnapshotGen.Proofs.Extraction.Agreement
import SnapshotGen.Proofs.Extraction.Attaching
import SnapshotGen.Proofs.Extraction.DefaultExport
import SnapshotGen.Proofs.Extraction.Typed

/-!
A function may stand behind the assignment of its `propTypes`. What is extracted is then the same
but for the defaults in its parameter, which are only seen where the function stands in front.
-/

namespace SnapshotGen.Extraction

open Script Script.Node

def scriptOf (text : String) (statements : List Node) : Node :=
  .mk .program text (statements.map (.part, ·))

theorem childNodes_scriptOf (text : String) (statements : List Node) :
    (scriptOf text statements).childNodes = statements := by
  rw [childNodes, scriptOf, children, List.map_map]
  exact List.map_id' _

/-- The order of statements makes no difference to how many objects there are. -/
theorem count_scriptOf_of_perm {statements others : List Node} (perm : statements.Perm others)
    (text otherText : String) :
    (scriptOf text statements).count .object = (scriptOf otherText others).count .object := by
  rw [scriptOf, scriptOf, count, count]
  apply congrArg
  induction perm with
  | nil => rfl
  | cons statement _ induction =>
      rw [List.map_cons, List.map_cons, countChildren, countChildren, induction]
  | swap first second more =>
      simp only [List.map_cons, countChildren]
      omega
  | trans _ _ first second => exact first.trans second

/-- A function that renders an element and has the name of a component, exported or not. -/
structure DeclaresFunction (statement function : Node) (name : String) : Prop where
  stands : statement = function ∨
    statement.kind = .export ∧ statement.child? .declaration = some function
  isFunction : function.kind = .functionDeclaration
  named : (function.child? .name).map Node.text = some name
  isComponent : Survey.isComponentName name
  renders : function.rendersElement

/-- `name.propTypes = value` -/
structure AssignsTypes (statement value : Node) (name : String) : Prop where
  isExpression : statement.kind = .expressionStatement
  whole : ∃ expression, statement.children = [(.part, expression)]
  assigns : ∃ object property, Survey.assignmentOf? statement = some (object, property, value) ∧
    object.kind = .identifier ∧ object.text = name ∧ property.text = "propTypes"

variable {statement function value : Node} {name : String}

def exportedNames (statement : Node) : List String :=
  ((exported? statement).bind Exported.name?).toList

theorem DeclaresFunction.notes (declares : DeclaresFunction statement function name)
    (description : String) :
    notesOfStatement description statement =
      [.definition ⟨name, function, description⟩,
        .candidate ⟨name, function, description, .function⟩] ++
        (exportedNames statement).map .default := by
  have ofFunction : notesOfDeclaration description function =
      [.definition ⟨name, function, description⟩,
        .candidate ⟨name, function, description, .function⟩] := by
    obtain ⟨nameNode, hasName, sameName⟩ := Option.map_eq_some_iff.mp declares.named
    unfold notesOfDeclaration
    simp only [declares.isFunction, hasName, sameName, declares.isComponent, declares.renders]
    rfl
  rcases declares.stands with rfl | ⟨isExport, isDeclared⟩
  · have notExported : exportedNames statement = [] := by
      rw [exportedNames, exported?, declares.isFunction]
      rfl
    rw [notesOfStatement, declares.isFunction, notExported, ← ofFunction]
    exact (List.append_nil _).symm
  · rw [notesOfStatement, isExport, exportedNames, exported?, isExport]
    unfold notesOfExport
    rw [isDeclared]
    dsimp only
    rw [ofFunction]
    by_cases isDefault : statement.hasKeyword "default" <;>
      simp [isDefault, Exported.name?, Survey.declaredName, declares.isFunction, declares.named]

theorem AssignsTypes.notes (assigns : AssignsTypes statement value name) (description : String) :
    notesOfStatement description statement =
      [.typed name statement description, .assignment ⟨name, "propTypes", value⟩] := by
  obtain ⟨object, property, isAssignment, isName, rfl, isTypes⟩ := assigns.assigns
  rw [notesOfStatement, assigns.isExpression]
  dsimp only
  rw [isAssignment]
  simp [notesOfAssignment, isName, isTypes]

theorem AssignsTypes.parameterDefaults (assigns : AssignsTypes statement value name) :
    parameterDefaults statement = [] := by
  obtain ⟨expression, children⟩ := assigns.whole
  simp [Extraction.parameterDefaults, firstParameter?, child?, children]

theorem notesOfAll_of_not_comment {node : Node} (noComment : node.kind ≠ .comment)
    (nodes : List Node) : notesOfAll (some node) nodes = notesOfAll none nodes := by
  cases nodes with
  | nil => rfl
  | cons next more =>
      rw [notesOfAll, notesOfAll, Survey.descriptionBehind, if_neg noComment]
      rfl

theorem exists_notesOfAll_append (previous : Option Node) (front : List Node) {node : Node}
    (noComment : node.kind ≠ .comment) (back : List Node) :
    ∃ description, notesOfAll previous (front ++ node :: back) =
      notesOfAll previous front ++ notesOfStatement description node ++ notesOfAll none back := by
  refine ⟨Survey.descriptionBehind (front.getLast?.or previous), ?_⟩
  rw [notesOfAll_append, notesOfAll, notesOfAll_of_not_comment noComment, List.append_assoc]

theorem exists_notesOf_scriptOf (text : String) (front middle back : List Node) {one two : Node}
    (oneNoComment : one.kind ≠ .comment) (twoNoComment : two.kind ≠ .comment) :
    ∃ first second, notesOf (scriptOf text (front ++ one :: (middle ++ two :: back))) =
      notesOfAll none front ++ notesOfStatement first one ++
        (notesOfAll none middle ++ notesOfStatement second two ++ notesOfAll none back) := by
  obtain ⟨first, notes⟩ :=
    exists_notesOfAll_append none front oneNoComment (middle ++ two :: back)
  obtain ⟨second, rest⟩ := exists_notesOfAll_append none middle twoNoComment back
  exact ⟨first, second, by rw [notesOf, childNodes_scriptOf, notes, rest]⟩

theorem find?_reverse_exchange {α : Type} {p : α → Bool} (front middle back : List α) {a : α}
    (passes : p a = false ∨ ∀ b ∈ middle, p b = false) :
    (front ++ middle ++ [a] ++ back).reverse.find? p =
      (front ++ [a] ++ middle ++ back).reverse.find? p := by
  simp only [List.reverse_append, List.find?_append, List.append_assoc, List.reverse_singleton]
  rcases passes with passes | passes
  · simp [passes]
  · have none : middle.reverse.find? p = none := by
      simpa [List.find?_eq_none] using passes
    simp [none]

/-- A function that renders an element, and the assignment of its prop types, among other
statements of a script. No statement between the two assigns prop types of that name. -/
structure Exchange where
  front : List Node
  middle : List Node
  back : List Node
  name : String
  definition : Node
  function : Node
  assignment : Node
  value : Node
  declares : DeclaresFunction definition function name
  assigns : AssignsTypes assignment value name
  onlyTypes : ((notesOfAll none middle).foldl Survey.note .empty).assigned? name "propTypes" = none

namespace Exchange

variable (exchange : Exchange)

def functionFirst (text : String) : Node :=
  scriptOf text
    (exchange.front ++ exchange.definition :: (exchange.middle ++ exchange.assignment :: exchange.back))

def typesFirst (text : String) : Node :=
  scriptOf text
    (exchange.front ++ exchange.assignment :: (exchange.middle ++ exchange.definition :: exchange.back))

def earlier : Survey :=
  (notesOfAll none exchange.front).foldl Survey.note .empty

def functionNotes (description : String) : List Note :=
  [.definition ⟨exchange.name, exchange.function, description⟩,
    .candidate ⟨exchange.name, exchange.function, description, .function⟩] ++
    (exportedNames exchange.definition).map .default

def typesNotes (description : String) : List Note :=
  [.typed exchange.name exchange.assignment description,
    .assignment ⟨exchange.name, "propTypes", exchange.value⟩]

theorem definition_not_comment : exchange.definition.kind ≠ .comment := by
  rcases exchange.declares.stands with same | ⟨isExport, _⟩
  · rw [same, exchange.declares.isFunction]
    exact nofun
  · rw [isExport]
    exact nofun

theorem assignment_not_comment : exchange.assignment.kind ≠ .comment := by
  rw [exchange.assigns.isExpression]
  exact nofun

theorem exists_survey_functionFirst (text : String) : ∃ first second,
    Survey.ofProgram (exchange.functionFirst text) =
      (exchange.functionNotes first ++ (notesOfAll none exchange.middle ++
        exchange.typesNotes second ++ notesOfAll none exchange.back)).foldl Survey.note
          exchange.earlier := by
  obtain ⟨first, second, notes⟩ := exists_notesOf_scriptOf text exchange.front exchange.middle
    exchange.back exchange.definition_not_comment exchange.assignment_not_comment
  refine ⟨first, second, ?_⟩
  rw [Survey.ofProgram_eq, functionFirst, notes, exchange.declares.notes, exchange.assigns.notes,
    List.append_assoc, List.foldl_append]
  rfl

theorem exists_survey_typesFirst (text : String) : ∃ first second,
    Survey.ofProgram (exchange.typesFirst text) =
      (exchange.typesNotes first ++ (notesOfAll none exchange.middle ++
        exchange.functionNotes second ++ notesOfAll none exchange.back)).foldl Survey.note
          exchange.earlier := by
  obtain ⟨first, second, notes⟩ := exists_notesOf_scriptOf text exchange.front exchange.middle
    exchange.back exchange.assignment_not_comment exchange.definition_not_comment
  refine ⟨first, second, ?_⟩
  rw [Survey.ofProgram_eq, typesFirst, notes, exchange.declares.notes, exchange.assigns.notes,
    List.append_assoc, List.foldl_append]
  rfl

theorem name_ne_empty : exchange.name ≠ "" := by
  intro isEmpty
  have isComponent := exchange.declares.isComponent
  rw [isEmpty] at isComponent
  exact absurd isComponent (by decide)

theorem candidates_foldl_default (survey : Survey) (names : List String) :
    ((names.map Note.default).foldl Survey.note survey).candidates = survey.candidates := by
  induction names generalizing survey with
  | nil => rfl
  | cons name names induction =>
      rw [List.map_cons, List.foldl_cons, induction]
      rfl

theorem sameNames_function_types {survey other : Survey} (same : survey.SameNames other)
    (first second : String) :
    ((exchange.functionNotes first).foldl Survey.note survey).SameNames
      ((exchange.typesNotes second).foldl Survey.note other) := by
  have defined : (survey.define ⟨exchange.name, exchange.function, first⟩).SameNames other := same
  rw [functionNotes, List.foldl_append, Survey.SameNames, candidates_foldl_default]
  exact defined.addCandidate_noteAssigned exchange.name_ne_empty second exchange.assignment

theorem sameNames (text otherText : String) :
    (Survey.ofProgram (exchange.functionFirst text)).SameNames
      (Survey.ofProgram (exchange.typesFirst otherText)) := by
  obtain ⟨first, second, functionFirst⟩ := exchange.exists_survey_functionFirst text
  obtain ⟨third, fourth, typesFirst⟩ := exchange.exists_survey_typesFirst otherText
  rw [functionFirst, typesFirst]
  simp only [List.foldl_append]
  have same : exchange.earlier.SameNames exchange.earlier := rfl
  have inFront := exchange.sameNames_function_types same first third
  have between := inFront.foldl_note (notesOfAll none exchange.middle)
  -- The second time the two statements have changed places.
  have behind := (exchange.sameNames_function_types between.symm fourth second).symm
  exact behind.foldl_note _

theorem defaultNames_eq (text otherText : String)
    (atMostOne : exported? exchange.definition = none ∨ exchange.middle.filterMap exported? = []) :
    (Survey.ofProgram (exchange.functionFirst text)).defaultNames =
      (Survey.ofProgram (exchange.typesFirst otherText)).defaultNames := by
  have noneOfTypes : exported? exchange.assignment = none := by
    obtain ⟨object, property, isAssignment, _, _, isTypes⟩ := exchange.assigns.assigns
    rw [exported?, exchange.assigns.isExpression]
    simp [isAssignment, isTypes]
  rw [defaultNames_ofProgram, defaultNames_ofProgram, defaultExports, defaultExports,
    functionFirst, typesFirst, childNodes_scriptOf, childNodes_scriptOf]
  simp only [List.filterMap_append, List.filterMap_cons, noneOfTypes]
  rcases atMostOne with noneOfFunction | noneBetween
  · simp [noneOfFunction]
  · simp [noneBetween]

theorem bindings_functionNotes (description : String) :
    (exchange.functionNotes description).filterMap Note.binding? = [] := by
  simp [List.filterMap_eq_nil_iff, functionNotes, Note.binding?]

theorem assignments_functionNotes (description : String) :
    (exchange.functionNotes description).filterMap Note.assignment? = [] := by
  simp [List.filterMap_eq_nil_iff, functionNotes, Note.assignment?]

theorem bindings_typesNotes (description : String) :
    (exchange.typesNotes description).filterMap Note.binding? = [] := rfl

theorem assignments_typesNotes (description : String) :
    (exchange.typesNotes description).filterMap Note.assignment? =
      [⟨exchange.name, "propTypes", exchange.value⟩] := rfl

theorem assignment_between_passes {assignment : Assignment}
    (isBetween : assignment ∈ (notesOfAll none exchange.middle).filterMap Note.assignment?) :
    ¬(assignment.target = exchange.name ∧ assignment.property = "propTypes") := by
  have noneBetween := exchange.onlyTypes
  rw [Survey.assigned?, Option.map_eq_none_iff, List.find?_eq_none] at noneBetween
  have known : assignment ∈ ((notesOfAll none exchange.middle).foldl Survey.note
      Survey.empty).assignments.reverse := by
    rw [List.mem_reverse, (Survey.empty.extends_foldl_note _).assignments]
    exact List.mem_append_right _ isBetween
  simpa using noneBetween assignment known

theorem sameValues (text otherText : String) :
    (Survey.ofProgram (exchange.functionFirst text)).SameValues
      (Survey.ofProgram (exchange.typesFirst otherText)) := by
  obtain ⟨first, second, functionFirst⟩ := exchange.exists_survey_functionFirst text
  obtain ⟨third, fourth, typesFirst⟩ := exchange.exists_survey_typesFirst otherText
  rw [functionFirst, typesFirst]
  have inOrder := exchange.earlier.extends_foldl_note (exchange.functionNotes first ++
    (notesOfAll none exchange.middle ++ exchange.typesNotes second ++ notesOfAll none exchange.back))
  have exchanged := exchange.earlier.extends_foldl_note (exchange.typesNotes third ++
    (notesOfAll none exchange.middle ++ exchange.functionNotes fourth ++
      notesOfAll none exchange.back))
  constructor
  · rw [inOrder.bindings, exchanged.bindings]
    simp only [List.filterMap_append, bindings_functionNotes, bindings_typesNotes, List.nil_append,
      List.append_nil]
  · intro target property
    rw [Survey.assigned?, Survey.assigned?, inOrder.assignments, exchanged.assignments]
    simp only [List.filterMap_append, assignments_functionNotes, assignments_typesNotes,
      List.nil_append, List.append_nil, ← List.append_assoc]
    refine congrArg _ (find?_reverse_exchange _ _ _ ?_)
    by_cases isTypes : exchange.name = target ∧ "propTypes" = property
    · right
      obtain ⟨rfl, rfl⟩ := isTypes
      intro assignment isBetween
      simpa using exchange.assignment_between_passes isBetween
    · left
      simpa using isTypes

theorem count_eq (text otherText : String) :
    (exchange.functionFirst text).count .object = (exchange.typesFirst otherText).count .object := by
  have behindFunction : (exchange.definition :: (exchange.middle ++ exchange.assignment ::
      exchange.back)).Perm (exchange.definition :: exchange.assignment ::
        (exchange.middle ++ exchange.back)) :=
    .cons _ List.perm_middle
  have behindTypes : (exchange.assignment :: (exchange.middle ++ exchange.definition ::
      exchange.back)).Perm (exchange.assignment :: exchange.definition ::
        (exchange.middle ++ exchange.back)) :=
    .cons _ List.perm_middle
  have exchanged := (behindFunction.trans (.swap _ _ _)).trans behindTypes.symm
  exact count_scriptOf_of_perm (exchanged.append_left exchange.front) text otherText

theorem candidate?_of_known {candidate : Candidate}
    (known : exchange.earlier.candidate? exchange.name = some candidate) (text otherText : String) :
    (Survey.ofProgram (exchange.functionFirst text)).candidate? exchange.name = some candidate ∧
      (Survey.ofProgram (exchange.typesFirst otherText)).candidate? exchange.name =
        some candidate := by
  obtain ⟨_, _, functionFirst⟩ := exchange.exists_survey_functionFirst text
  obtain ⟨_, _, typesFirst⟩ := exchange.exists_survey_typesFirst otherText
  rw [functionFirst, typesFirst]
  exact ⟨Survey.candidate?_foldl_note known _, Survey.candidate?_foldl_note known _⟩

section Unknown

variable (unknown : exchange.earlier.hasCandidate exchange.name = false)

include unknown

/-- With the function in front the component is the function. -/
theorem exists_candidate?_functionFirst (text : String) : ∃ description,
    (Survey.ofProgram (exchange.functionFirst text)).candidate? exchange.name =
      some ⟨exchange.name, exchange.function, description, .function⟩ := by
  obtain ⟨first, second, functionFirst⟩ := exchange.exists_survey_functionFirst text
  let component : Candidate := ⟨exchange.name, exchange.function, first, .function⟩
  have noted : ((exchange.earlier.define ⟨exchange.name, exchange.function, first⟩).addCandidate
      component).candidate? component.name = some component :=
    Survey.candidate?_addCandidate unknown
  refine ⟨first, ?_⟩
  rw [functionFirst, functionNotes, List.append_assoc, List.foldl_append]
  exact Survey.candidate?_foldl_note noted _

/-- With the assignment in front it is what the name was defined as before that, or else the
assignment. -/
theorem exists_candidate?_typesFirst (text : String) : ∃ description,
    (Survey.ofProgram (exchange.typesFirst text)).candidate? exchange.name =
      some ⟨exchange.name,
        ((exchange.earlier.definition? exchange.name).map (·.node)).getD exchange.assignment,
        description, .assigned⟩ := by
  obtain ⟨first, second, typesFirst⟩ := exchange.exists_survey_typesFirst text
  let found := (exchange.earlier.definition? exchange.name).getD
    ⟨exchange.name, exchange.assignment, first⟩
  have isNode : found.node =
      ((exchange.earlier.definition? exchange.name).map (·.node)).getD exchange.assignment := by
    cases hasDefinition : exchange.earlier.definition? exchange.name <;> simp [found, hasDefinition]
  let component : Candidate := ⟨exchange.name, found.node, found.description, .assigned⟩
  have noted : (exchange.earlier.addCandidate component).candidate? component.name =
      some component := Survey.candidate?_addCandidate unknown
  refine ⟨found.description, ?_⟩
  rw [typesFirst, ← isNode, typesNotes, List.cons_append, List.foldl_cons, Survey.note,
    Survey.noteAssigned, unknown, if_neg Bool.false_ne_true]
  exact Survey.candidate?_foldl_note noted _

end Unknown

variable (text otherText : String) (candidate other : Candidate)

def extractFunctionFirst : Component :=
  (extractFrom (Survey.ofProgram (exchange.functionFirst text)) (exchange.functionFirst text)
    candidate).component

def extractTypesFirst : Component :=
  (extractFrom (Survey.ofProgram (exchange.typesFirst otherText)) (exchange.typesFirst otherText)
    other).component

def declared : List PropDecl :=
  (declarations (Survey.ofProgram (exchange.functionFirst text)) (exchange.functionFirst text)
    candidate).filterMap Declared.prop?

def given : List Default :=
  givenDefaults (Survey.ofProgram (exchange.functionFirst text)) candidate

/-- What is extracted in both orders comes of the same declarations and of the same `defaultProps`;
only the defaults in the parameter may differ. -/
structure Compares : Prop where
  displayName : (exchange.extractFunctionFirst text candidate).displayName =
    (exchange.extractTypesFirst otherText other).displayName
  noDefault : ∀ prop ∈ exchange.declared text candidate, prop.declaredDefault = none
  functionFirst : (exchange.extractFunctionFirst text candidate).props.getD [] =
    attachDefaults (exchange.declared text candidate)
      (ownDefaults candidate ++ exchange.given text candidate)
  typesFirst : (exchange.extractTypesFirst otherText other).props.getD [] =
    attachDefaults (exchange.declared text candidate)
      (ownDefaults other ++ exchange.given text candidate)

variable {text otherText candidate other} {exchange}

theorem compares (sameName : candidate.name = other.name)
    (alike : candidate = other ∨ candidate.form ≠ .classLike ∧ other.form ≠ .classLike)
    (inProgram : candidate.node ∈ (exchange.functionFirst text).parts) :
    exchange.Compares text otherText candidate other := by
  have same := exchange.sameValues text otherText
  have sameStatic := same.staticValue?_eq sameName alike
  have sameDeclarations := declarations_eq same sameStatic (exchange.count_eq text otherText)
  refine ⟨?_, ?_, props_extractFrom _ _ _, ?_⟩
  · unfold extractFunctionFirst extractTypesFirst extractFrom
    rw [displayName_eq sameStatic sameName]
  · intro prop isProp
    exact (isDeclared_of_declarations (Survey.isOf_ofProgram _) inProgram
      (mem_filterMap_prop?.mp isProp)).noDefault
  · rw [extractTypesFirst, props_extractFrom, ← sameDeclarations,
      ← givenDefaults_eq same sameStatic]
    rfl

theorem Compares.props_eq_iff (compares : exchange.Compares text otherText candidate other)
    (noOwn : ownDefaults other = []) :
    (exchange.extractFunctionFirst text candidate).props =
        (exchange.extractTypesFirst otherText other).props ↔
      (ownDefaults candidate).map (·.1) ⊆ (exchange.given text candidate).map (·.1) ∧
        addedNames (exchange.declared text candidate)
            (ownDefaults candidate ++ exchange.given text candidate) =
          addedNames (exchange.declared text candidate) (exchange.given text candidate) := by
  rw [extractFunctionFirst, extractTypesFirst, props_extractFrom_eq_iff, ← extractFunctionFirst,
    ← extractTypesFirst, compares.functionFirst, compares.typesFirst, noOwn, List.nil_append]
  exact attachDefaults_append_eq_iff compares.noDefault

/-- Which order a function and the assignment of its prop types have makes no difference to which
component a script is about, unless both the function and something between them are exported by
default, and none to its display name and its declarations. The defaults in the parameter are kept
if the function stands in front; if not, those of an earlier definition are, or none: nothing is
lost just if `defaultProps` names all of them and leaves the order of the props that are added. -/
theorem compares_of_exchange (exchange : Exchange) (text otherText : String) :
    (exported? exchange.definition = none ∨ exchange.middle.filterMap exported? = [] →
      (Survey.ofProgram (exchange.functionFirst text)).resolve?.map (·.name) =
        (Survey.ofProgram (exchange.typesFirst otherText)).resolve?.map (·.name)) ∧
    ∀ candidate other,
      (Survey.ofProgram (exchange.functionFirst text)).resolve? = some candidate →
      (Survey.ofProgram (exchange.typesFirst otherText)).resolve? = some other →
      candidate.name = exchange.name → other.name = exchange.name →
      exchange.Compares text otherText candidate other ∧
        (exchange.earlier.hasCandidate exchange.name → candidate = other) ∧
        (exchange.earlier.hasCandidate exchange.name = false →
          ownDefaults candidate = parameterDefaults exchange.function ∧
          (∀ definition, exchange.earlier.definition? exchange.name = some definition →
            ownDefaults other = parameterDefaults definition.node) ∧
          (exchange.earlier.definition? exchange.name = none →
            ownDefaults other = [] ∧
            ((exchange.extractFunctionFirst text candidate).props =
                (exchange.extractTypesFirst otherText other).props ↔
              (ownDefaults candidate).map (·.1) ⊆ (exchange.given text candidate).map (·.1) ∧
                addedNames (exchange.declared text candidate)
                    (ownDefaults candidate ++ exchange.given text candidate) =
                  addedNames (exchange.declared text candidate)
                    (exchange.given text candidate)))) := by
  refine ⟨fun atMostOne => (exchange.sameNames text otherText).resolve?
    (exchange.defaultNames_eq text otherText atMostOne), ?_⟩
  intro candidate other resolved resolvedToo named namedToo
  have found := Survey.candidate?_of_resolve? resolved
  have foundToo := Survey.candidate?_of_resolve? resolvedToo
  rw [named] at found
  rw [namedToo] at foundToo
  have inProgram := (Survey.isOf_ofProgram (exchange.functionFirst text)).resolve? resolved
  have sameName : candidate.name = other.name := named.trans namedToo.symm
  cases known : exchange.earlier.hasCandidate exchange.name with
  | true =>
      rw [Survey.hasCandidate_eq_isSome] at known
      obtain ⟨first, isKnown⟩ := Option.isSome_iff_exists.mp known
      obtain ⟨isFirst, isFirstToo⟩ := exchange.candidate?_of_known isKnown text otherText
      have same : candidate = other := by
        rw [isFirst] at found
        rw [isFirstToo] at foundToo
        exact Option.some.inj (found.symm.trans foundToo)
      exact ⟨compares sameName (.inl same) inProgram, fun _ => same, nofun⟩
  | false =>
      obtain ⟨description, isFunction⟩ := exchange.exists_candidate?_functionFirst known text
      obtain ⟨otherDescription, isAssigned⟩ :=
        exchange.exists_candidate?_typesFirst known otherText
      rw [isFunction] at found
      rw [isAssigned] at foundToo
      cases found
      cases foundToo
      have compares : exchange.Compares text otherText _ _ :=
        compares sameName (.inr ⟨nofun, nofun⟩) inProgram
      refine ⟨compares, nofun, fun _ => ⟨rfl, ?_, ?_⟩⟩
      · intro definition isDefined
        rw [isDefined]
        rfl
      · intro notDefined
        rw [notDefined] at compares ⊢
        have noOwn : parameterDefaults exchange.assignment = [] :=
          exchange.assigns.parameterDefaults
        exact ⟨noOwn, compares.props_eq_iff noOwn⟩

end Exchange

deriving instance DecidableEq for Candidate

def cardFunction : Node :=
  .mk .functionDeclaration "function Card(\x7b a = 1 \x7d) \x7b return <b />; \x7d"
    [(.name, named "Card"),
      (.parameters, .mk .parameters "(\x7b a = 1 \x7d)"
        [(.part, .mk .objectPattern "\x7b a = 1 \x7d"
          [(.part, .mk .shorthandDefault "a = 1"
            [(.left, .mk .shorthand "a" []), (.right, .mk .number "1" [])])])]),
      (.body, .mk .block "\x7b return <b />; \x7d"
        [(.part, .mk .returned "return <b />;" [(.part, .mk .element "<b />" [])])])]

def cardObject : Node :=
  .mk .object "\x7b a: PropTypes.number \x7d"
    [(.part, .mk .pair "a: PropTypes.number"
      [(.key, named "a"),
        (.value, .mk .member "PropTypes.number"
          [(.object, named "PropTypes"), (.property, named "number")])])]

def cardTypes : Node :=
  .mk .expressionStatement "Card.propTypes = \x7b a: PropTypes.number \x7d;"
    [(.part, .mk .assignment "Card.propTypes = \x7b a: PropTypes.number \x7d"
      [(.left, .mk .member "Card.propTypes"
          [(.object, named "Card"), (.property, named "propTypes")]),
        (.right, cardObject)])]

def cardExchange : Exchange where
  front := []
  middle := []
  back := []
  name := "Card"
  definition := cardFunction
  function := cardFunction
  assignment := cardTypes
  value := cardObject
  declares := ⟨.inl rfl, rfl, rfl, by decide, by decide⟩
  assigns := ⟨rfl, ⟨_, rfl⟩, _, _, rfl, rfl, rfl, rfl⟩
  onlyTypes := rfl

def cardFunctionFirst : String :=
  cardFunction.text ++ "\n" ++ cardTypes.text

def cardTypesFirst : String :=
  cardTypes.text ++ "\n" ++ cardFunction.text

/-- The props of the card differ in both orders. -/
theorem compares_of_exchange_card : ∃ candidate other,
    (Survey.ofProgram (cardExchange.functionFirst cardFunctionFirst)).resolve? = some candidate ∧
      (Survey.ofProgram (cardExchange.typesFirst cardTypesFirst)).resolve? = some other ∧
      cardExchange.Compares cardFunctionFirst cardTypesFirst candidate other ∧
      (cardExchange.extractFunctionFirst cardFunctionFirst candidate).props ≠
        (cardExchange.extractTypesFirst cardTypesFirst other).props := by
  have resolved : (Survey.ofProgram (cardExchange.functionFirst cardFunctionFirst)).resolve? =
      some ⟨"Card", cardFunction, "", .function⟩ := by
    decide +kernel
  have resolvedToo : (Survey.ofProgram (cardExchange.typesFirst cardTypesFirst)).resolve? =
      some ⟨"Card", cardTypes, "", .assigned⟩ := by
    decide +kernel
  obtain ⟨compares, _, unknown⟩ := (Exchange.compares_of_exchange cardExchange
    cardFunctionFirst cardTypesFirst).2 _ _ resolved resolvedToo rfl rfl
  obtain ⟨_, _, undefined⟩ := unknown rfl
  refine ⟨_, _, resolved, resolvedToo, compares, fun same => ?_⟩
  have noneGiven : cardExchange.given cardFunctionFirst ⟨"Card", cardFunction, "", .function⟩ = [] := by
    decide +kernel
  have isLost := ((undefined rfl).2.mp same).1
  rw [noneGiven] at isLost
  exact List.not_mem_nil (isLost (by decide +kernel : "a" ∈ _))

def namedDefaults (program : Node) : Option (List (String × Option String)) :=
  (ofProgram program).toOption.map fun extract =>
    (extract.component.props.getD []).map fun prop => (prop.name, prop.declaredDefault)

/-- The default of the card is lost behind the assignment. -/
theorem namedDefaults_cardTypesFirst :
    Module.read? .javaScript cardFunctionFirst.toList =
        some (cardExchange.functionFirst cardFunctionFirst) ∧
      Module.read? .javaScript cardTypesFirst.toList =
        some (cardExchange.typesFirst cardTypesFirst) ∧
      namedDefaults (cardExchange.functionFirst cardFunctionFirst) = some [("a", some "1")] ∧
      namedDefaults (cardExchange.typesFirst cardTypesFirst) = some [("a", none)] := by
  refine ⟨?_, ?_, ?_, ?_⟩ <;> decide +kernel

end SnapshotGen.Extraction
