import SnapshotGen.Proofs.Extraction.Notes
import SnapshotGen.Proofs.Script.Equality
import SnapshotGen.Script.Module

/-!
Which component a default export of names, parentheses and calls makes a script be about.
-/

namespace SnapshotGen.Extraction

open Script Script.Node

/-- An expression that is built from names by parentheses and calls. -/
inductive Nest : Node → Prop
  | name (text : String) (children : List (Role × Node)) : Nest (.mk .identifier text children)
  | parenthesized {inner : Node} (text : String) (isNest : Nest inner) :
      Nest (.mk .parenthesized text [(.part, inner)])
  | call {callee : Node} {given : List Node} (text givenText : String) (ofCallee : Nest callee)
      (ofGiven : ∀ argument ∈ given, Nest argument) :
      Nest (.mk .call text
        [(.callee, callee), (.arguments, .mk .arguments givenText (given.map (.part, ·)))])

mutual

/-- The name that an expression is, or those among the arguments of its calls: the arguments of a
call come before those in its callee, which is looked through only if it is to be entered. -/
def namesIn (enters : Node → Bool) : Node → List String
  | .mk .identifier text _ => [text]
  | .mk .parenthesized _ children => namesInAll enters children
  | .mk .call _ children => namesGiven enters children ++ namesBehind enters children
  | _ => []

def namesInAll (enters : Node → Bool) : List (Role × Node) → List String
  | [] => []
  | (_, child) :: more => namesIn enters child ++ namesInAll enters more

def namesGiven (enters : Node → Bool) : List (Role × Node) → List String
  | [] => []
  | (.arguments, .mk .arguments _ items) :: more => namesInAll enters items ++ namesGiven enters more
  | _ :: more => namesGiven enters more

def namesBehind (enters : Node → Bool) : List (Role × Node) → List String
  | [] => []
  | (.callee, child) :: more =>
    (if enters child then namesIn enters child else []) ++ namesBehind enters more
  | _ :: more => namesBehind enters more

end

def offeredNames (expression : Node) : List String :=
  namesIn (·.unparenthesized.kind == .call) expression

/-- The names that are looked through for an export: calls in parentheses are not entered. -/
def searchedNames (expression : Node) : List String :=
  namesIn (·.kind == .call) expression

section Names

variable (enters : Node → Bool)

theorem namesInAll_map (given : List Node) :
    namesInAll enters (given.map (Role.part, ·)) = given.flatMap (namesIn enters) := by
  induction given with
  | nil => rfl
  | cons argument given induction =>
      rw [List.map_cons, namesInAll, induction, List.flatMap_cons]

theorem namesIn_parenthesized (text : String) (inner : Node) :
    namesIn enters (.mk .parenthesized text [(.part, inner)]) = namesIn enters inner := by
  rw [namesIn, namesInAll, namesInAll, List.append_nil]

theorem namesIn_call (text givenText : String) (callee : Node) (given : List Node) :
    namesIn enters (.mk .call text
        [(.callee, callee), (.arguments, .mk .arguments givenText (given.map (.part, ·)))]) =
      given.flatMap (namesIn enters) ++ if enters callee then namesIn enters callee else [] := by
  simp [namesIn, namesGiven, namesBehind, namesInAll_map]

theorem namesIn_mono {few more : Node → Bool} (wider : ∀ node, few node → more node)
    {expression : Node} (isNest : Nest expression) : namesIn few expression ⊆ namesIn more expression := by
  induction isNest with
  | name text children => exact List.Subset.refl _
  | parenthesized text _ induction =>
      rw [namesIn_parenthesized, namesIn_parenthesized]
      exact induction
  | @call callee given text givenText _ _ ofCallee ofGiven =>
      rw [namesIn_call, namesIn_call]
      intro name isName
      rcases List.mem_append.mp isName with inGiven | inCallee
      · obtain ⟨argument, isArgument, inArgument⟩ := List.mem_flatMap.mp inGiven
        have found := ofGiven argument isArgument inArgument
        exact List.mem_append_left _ (List.mem_flatMap.mpr ⟨argument, isArgument, found⟩)
      · split at inCallee
        · rename_i enters
          rw [if_pos (wider callee enters)]
          exact List.mem_append_right _ (ofCallee inCallee)
        · cases inCallee

end Names

theorem searchedNames_subset {expression : Node} (isNest : Nest expression) :
    searchedNames expression ⊆ offeredNames expression := by
  refine namesIn_mono (fun node isCall => ?_) isNest
  have isCall : node.kind = .call := by simpa using isCall
  obtain ⟨kind, text, children⟩ := node
  cases isCall
  rw [unparenthesized]
  · rfl
  · intro _ _ same
    cases same

theorem firstTarget?_map {given : List Node}
    (ofGiven : ∀ argument ∈ given,
      target? argument = (searchedNames argument).head?.map .named) :
    firstTarget? (given.map (Role.part, ·)) = (given.flatMap searchedNames).head?.map .named := by
  induction given with
  | nil => rfl
  | cons argument given induction =>
      rw [List.map_cons, firstTarget?, ofGiven argument (.head _),
        induction fun other member => ofGiven other (.tail _ member), List.flatMap_cons,
        List.head?_append, Option.map_or]

/-- An export of names, parentheses and calls stands for the first name that is searched. -/
theorem target?_eq_of_nest {expression : Node} (isNest : Nest expression) :
    target? expression = (searchedNames expression).head?.map .named := by
  induction isNest with
  | name text children => rfl
  | parenthesized text isInner induction =>
      rw [target?, targetInside?, if_pos (by cases isInner <;> rfl), induction, searchedNames,
        searchedNames, namesIn_parenthesized]
  | @call callee given text givenText _ _ ofCallee ofGiven =>
      have behind : targetOfCallee? [(Role.callee, callee),
            (.arguments, .mk .arguments givenText (given.map (.part, ·)))] =
          (if callee.kind == .call then searchedNames callee else []).head?.map .named := by
        rw [targetOfCallee?, ofCallee]
        by_cases isCall : callee.kind = .call <;> simp [isCall]
      rw [target?, targetInCall?, targetInCall?, firstTarget?_map ofGiven, behind, ← Option.map_or,
        ← List.head?_append]
      · exact congrArg _ (congrArg _ (namesIn_call _ text givenText callee given).symm)
      · intro _ _ same
        cases same

/-- What is exported by default: a declaration of a name, or the value of an expression. -/
inductive Exported
  | declared (name : String)
  | value (expression : Node)
  deriving DecidableEq

def exported? (statement : Node) : Option Exported :=
  match statement.kind with
  | .export =>
    if statement.hasKeyword "default" then
      match statement.child? .declaration with
      | some declaration => some (.declared (Survey.declaredName declaration))
      | none => (statement.child? .value).map .value
    else none
  | .expressionStatement =>
    match Survey.assignmentOf? statement with
    | some (object, property, value) =>
      if object.text = "module" && property.text = "exports" then some (.value value) else none
    | none => none
  | _ => none

def defaultExports (program : Node) : List Exported :=
  program.childNodes.filterMap exported?

def Target.name : Target → String
  | named name => name
  | inline _ _ => ""

def Exported.name? : Exported → Option String
  | declared name => some name
  | value expression => (target? expression).map Target.name

theorem defaults_notesOfDeclaration (description : String) (node : Node) :
    (notesOfDeclaration description node).filterMap Note.default? = [] :=
  filterMap_notesOfDeclaration_eq_nil (by rintro ⟨⟩ <;> simp [Note.Defines, Note.default?]) _ _

theorem defaults_notesOfDefault (description : String) (value : Node) :
    (notesOfDefault description value).filterMap Note.default? =
      ((Exported.value value).name?).toList := by
  unfold notesOfDefault Exported.name?
  dsimp only
  rcases target? value with _ | _ | _ <;> rfl

theorem defaults_notesOfExport (description : String) {node : Node} (isExport : node.kind = .export) :
    (notesOfExport description node).filterMap Note.default? =
      ((exported? node).bind Exported.name?).toList := by
  unfold notesOfExport exported?
  rw [isExport]
  by_cases isDefault : node.hasKeyword "default"
  · simp only [if_pos isDefault]
    cases node.child? .declaration with
    | some declaration =>
        dsimp only
        rw [List.filterMap_append, defaults_notesOfDeclaration]
        rfl
    | none =>
        cases node.child? .value with
        | none => rfl
        | some value => exact defaults_notesOfDefault _ _
  · simp only [if_neg isDefault]
    cases node.child? .declaration with
    | some declaration =>
        dsimp only
        rw [List.append_nil, defaults_notesOfDeclaration]
        rfl
    | none => cases node.child? .value <;> rfl

theorem defaults_notesOfStatement (description : String) (node : Node) :
    (notesOfStatement description node).filterMap Note.default? =
      ((exported? node).bind Exported.name?).toList := by
  unfold notesOfStatement
  split
  · rename_i isExport
    exact defaults_notesOfExport description isExport
  · rename_i isExpression
    unfold exported?
    rw [isExpression]
    rcases Survey.assignmentOf? node with _ | ⟨object, property, value⟩
    · rfl
    · unfold notesOfAssignment
      dsimp only
      split
      · exact defaults_notesOfDefault _ _
      · split
        · rfl
        · split <;> rfl
  · rw [defaults_notesOfDeclaration]
    unfold exported?
    split
    · contradiction
    · contradiction
    · rfl

theorem defaults_notesOfAll (previous : Option Node) (nodes : List Node) :
    (notesOfAll previous nodes).filterMap Note.default? =
      (nodes.filterMap exported?).filterMap Exported.name? := by
  induction nodes generalizing previous with
  | nil => rfl
  | cons node nodes induction =>
      rw [notesOfAll, List.filterMap_append, induction, defaults_notesOfStatement,
        List.filterMap_cons]
      cases exported? node with
      | none => rfl
      | some exported =>
          rw [Option.bind_some, List.filterMap_cons]
          cases exported.name? <;> rfl

/-- A survey has a name for every default export that stands for anything. -/
theorem defaultNames_ofProgram (program : Node) :
    (Survey.ofProgram program).defaultNames =
      (defaultExports program).filterMap Exported.name? := by
  rw [Survey.ofProgram_eq, (Survey.empty.extends_foldl_note _).defaultNames, notesOf,
    defaults_notesOfAll]
  rfl

theorem resolve?_of_nest {program expression : Node}
    (exports : defaultExports program = [.value expression]) (isNest : Nest expression) :
    (Survey.ofProgram program).resolve? =
      ((searchedNames expression).head?.bind fun name =>
        (Survey.ofProgram program).candidates.find? (·.name == name)).or
          (Survey.ofProgram program).candidates.head? := by
  rw [Survey.resolve?, defaultNames_ofProgram, exports, List.filterMap_cons, Exported.name?,
    target?_eq_of_nest isNest]
  cases (searchedNames expression).head? with
  | none => rfl
  | some name => simp [Target.name]

/-- Where one of the names that an exported expression hands over is that of a candidate, the
script is about it just if that name is the first to be searched, or if it is the first candidate
anyway. -/
theorem resolve?_eq_some_iff_of_nest {program expression : Node} {name : String}
    {candidate : Candidate} (exports : defaultExports program = [.value expression])
    (isNest : Nest expression)
    (onlyOne : ∀ other ∈ offeredNames expression,
      (Survey.ofProgram program).hasCandidate other → other = name)
    (found : (Survey.ofProgram program).candidates.find? (·.name == name) = some candidate) :
    (Survey.ofProgram program).resolve? = some candidate ↔
      (searchedNames expression).head? = some name ∨
        (Survey.ofProgram program).candidates.head? = some candidate := by
  rw [resolve?_of_nest exports isNest]
  cases isFirst : (searchedNames expression).head? with
  | none => simp
  | some first =>
      by_cases same : first = name
      · rw [same, Option.bind_some, found]
        simp
      · -- The search ends at a name that is no candidate.
        have isOffered : first ∈ offeredNames expression :=
          searchedNames_subset isNest (List.mem_of_head? isFirst)
        have noCandidate :
            (Survey.ofProgram program).candidates.find? (·.name == first) = none := by
          rw [List.find?_eq_none]
          intro other isCandidate isFirst
          exact same (onlyOne first isOffered (List.any_eq_true.mpr ⟨other, isCandidate, isFirst⟩))
        rw [Option.bind_some, noCandidate, Option.none_or]
        simp [same]

/-- A script with two components, of which the second one is exported through calls. -/
def listScript (exported : String) : String := Text.ofLines [
  "const Item = () => <li />;",
  "const List = () => <ul />;",
  "export default " ++ exported ++ ";"]

def named (name : String) : Node :=
  .mk .identifier name []

/-- `connect(mapState)(List)` -/
def curriedList : Node :=
  .mk .call "connect(mapState)(List)"
    [(.callee, .mk .call "connect(mapState)"
      [(.callee, named "connect"),
        (.arguments, .mk .arguments "(mapState)" [(.part, named "mapState")])]),
      (.arguments, .mk .arguments "(List)" [(.part, named "List")])]

/-- `connect(mapState, List)` -/
def plainList : Node :=
  .mk .call "connect(mapState, List)"
    [(.callee, named "connect"),
      (.arguments, .mk .arguments "(mapState, List)"
        [(.part, named "mapState"), (.part, named "List")])]

theorem nest_curriedList : Nest curriedList := by
  refine @Nest.call _ [named "List"] _ _ ?_ ?_
  · refine @Nest.call _ [named "mapState"] _ _ (.name _ _) ?_
    exact List.forall_mem_singleton.mpr (.name _ _)
  · exact List.forall_mem_singleton.mpr (.name _ _)

theorem nest_plainList : Nest plainList := by
  refine @Nest.call _ [named "mapState", named "List"] _ _ (.name _ _) ?_
  exact List.forall_mem_cons.mpr ⟨.name _ _, List.forall_mem_singleton.mpr (.name _ _)⟩

/-- What is asked of a script with an exported expression. -/
def listAnswers (exported : String) : Option (List Exported × List String × Option String) :=
  (Module.read? .javaScript (listScript exported).toList).map fun program =>
    let survey := Survey.ofProgram program
    (defaultExports program, survey.candidates.map (·.name), survey.resolve?.map (·.name))

theorem exists_list (exported : String) (value : Node) (resolved : Option String)
    (answers : listAnswers exported = some ([.value value], ["Item", "List"], resolved)) :
    ∃ program candidate, Module.read? .javaScript (listScript exported).toList = some program ∧
      defaultExports program = [.value value] ∧
      (∀ name, (Survey.ofProgram program).hasCandidate name ↔ name ∈ ["Item", "List"]) ∧
      (Survey.ofProgram program).candidates.find? (·.name == "List") = some candidate ∧
      (Survey.ofProgram program).resolve?.map (·.name) = resolved := by
  obtain ⟨program, read, same⟩ := Option.map_eq_some_iff.mp answers
  obtain ⟨exports, rest⟩ := Prod.mk.inj same
  obtain ⟨names, resolves⟩ := Prod.mk.inj rest
  have isFound :
      ((Survey.ofProgram program).candidates.find? (·.name == "List")).isSome := by
    obtain ⟨candidate, isCandidate, isList⟩ :=
      List.mem_map.mp (names.symm ▸ (by decide : "List" ∈ ["Item", "List"]))
    exact List.find?_isSome.mpr ⟨candidate, isCandidate, beq_iff_eq.mpr isList⟩
  obtain ⟨candidate, found⟩ := Option.isSome_iff_exists.mp isFound
  refine ⟨program, candidate, read, exports, fun name => ?_, found, resolves⟩
  rw [← names, Survey.hasCandidate, List.any_eq_true, List.mem_map]
  simp only [beq_iff_eq]

/-- The component is found behind a call of a call. -/
theorem resolve?_curriedList : ∃ program candidate,
    Module.read? .javaScript (listScript curriedList.text).toList = some program ∧
      candidate.name = "List" ∧ (Survey.ofProgram program).resolve? = some candidate := by
  obtain ⟨program, candidate, read, exports, known, found, _⟩ :=
    exists_list curriedList.text curriedList (some "List") (by decide +kernel)
  refine ⟨program, candidate, read, by simpa using List.find?_some found, ?_⟩
  refine (resolve?_eq_some_iff_of_nest exports nest_curriedList ?_ found).mpr (.inl rfl)
  have offered : offeredNames curriedList = ["List", "mapState"] := rfl
  simp [offered, known]

/-- The component is missed behind an argument that is none, and the first one is taken. -/
theorem resolve?_plainList : ∃ program candidate,
    Module.read? .javaScript (listScript plainList.text).toList = some program ∧
      defaultExports program = [.value plainList] ∧ Nest plainList ∧
      (∀ other ∈ offeredNames plainList,
        (Survey.ofProgram program).hasCandidate other ↔ other = "List") ∧
      (Survey.ofProgram program).candidates.find? (·.name == "List") = some candidate ∧
      (Survey.ofProgram program).resolve? ≠ some candidate ∧
      (Survey.ofProgram program).resolve?.map (·.name) = some "Item" := by
  obtain ⟨program, candidate, read, exports, known, found, resolves⟩ :=
    exists_list plainList.text plainList (some "Item") (by decide +kernel)
  have isList : candidate.name = "List" := by simpa using List.find?_some found
  refine ⟨program, candidate, read, exports, nest_plainList, ?_, found, ?_, resolves⟩
  · have offered : offeredNames plainList = ["mapState", "List"] := rfl
    simp [offered, known]
  · intro resolved
    rw [resolved, Option.map_some, isList] at resolves
    exact absurd resolves (by decide)

end SnapshotGen.Extraction
