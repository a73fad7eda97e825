import SnapshotGen.Extraction.Survey
import SnapshotGen.Proofs.Script.Parts

/-!
Induction over a survey. What holds of the empty survey, and is kept by everything that a part of a
script can have noted, holds of the survey of the script.
-/

namespace SnapshotGen.Extraction

open Script Script.Node

theorem plainComponent?_cases {node found : Node} {form : Form}
    (plain : plainComponent? node = some (found, form)) :
    found = node ∧
      (form = .function ∧ (node.kind = .arrow ∨ node.kind = .functionExpression) ∨
        form = .classLike ∧ node.kind = .classExpression ∧ isComponentClass node) := by
  unfold plainComponent? at plain
  split at plain
  · rename_i isArrow
    obtain ⟨_, same⟩ := Option.ite_none_right_eq_some.mp plain
    cases same
    exact ⟨rfl, .inl ⟨rfl, .inl isArrow⟩⟩
  · rename_i isFunction
    obtain ⟨_, same⟩ := Option.ite_none_right_eq_some.mp plain
    cases same
    exact ⟨rfl, .inl ⟨rfl, .inr isFunction⟩⟩
  · rename_i isExpression
    obtain ⟨isComponent, same⟩ := Option.ite_none_right_eq_some.mp plain
    cases same
    exact ⟨rfl, .inr ⟨rfl, isExpression, isComponent⟩⟩
  · contradiction

/-- A component in one of the forms that an expression gives it, among some nodes. -/
structure IsInline (nodes : List Node) (found : Node) (form : Form) : Prop where
  member : found ∈ nodes
  plain : plainComponent? found = some (found, form)

theorem IsInline.mono {nodes others : List Node} {found : Node} {form : Form}
    (isInline : IsInline nodes found form) (more : ∀ node ∈ nodes, node ∈ others) :
    IsInline others found form :=
  ⟨more found isInline.member, isInline.plain⟩

mutual

theorem isInline_of_inlineComponent? {found : Node} {form : Form} : (node : Node) →
    inlineComponent? node = some (found, form) → IsInline node.parts found form
  | .mk kind text children, isFound => by
      by_cases isParenthesized : kind = .parenthesized
      · subst isParenthesized
        rw [inlineComponent?] at isFound
        exact (isInline_of_insideParentheses? children isFound).mono fun _ => mem_parts_of_mem_childParts
      · by_cases isCall : kind = .call
        · subst isCall
          rw [inlineComponent?] at isFound
          exact (isInline_of_inCall? children isFound).mono fun _ => mem_parts_of_mem_childParts
        · rw [inlineComponent?] at isFound
          · obtain ⟨rfl, -⟩ := plainComponent?_cases isFound
            exact ⟨mem_parts_self _, isFound⟩
          · simpa using isParenthesized
          · simpa using isCall

theorem isInline_of_insideParentheses? {found : Node} {form : Form} :
    (children : List (Role × Node)) → insideParentheses? children = some (found, form) →
    IsInline (childParts children) found form
  | [], isFound => by simp [insideParentheses?] at isFound
  | (_, child) :: more, isFound => by
      rw [insideParentheses?] at isFound
      rw [childParts]
      split at isFound
      · exact (isInline_of_inlineComponent? child isFound).mono fun _ => List.mem_append_left _
      · exact (isInline_of_insideParentheses? more isFound).mono fun _ => List.mem_append_right _

theorem isInline_of_inCall? {found : Node} {form : Form} :
    (children : List (Role × Node)) → inCall? children = some (found, form) →
    IsInline (childParts children) found form
  | [], isFound => by simp [inCall?] at isFound
  | (role, .mk kind text items) :: more, isFound => by
      rw [childParts]
      by_cases isArguments : role = .arguments ∧ kind = .arguments
      · obtain ⟨rfl, rfl⟩ := isArguments
        rw [inCall?] at isFound
        refine (isInline_of_firstInline? items isFound).mono fun node member => ?_
        exact List.mem_append_left _ (mem_parts_of_mem_childParts member)
      · rw [inCall?] at isFound
        · exact (isInline_of_inCall? more isFound).mono fun _ => List.mem_append_right _
        · rintro _ _ ⟨⟩
          exact isArguments ⟨rfl, rfl⟩

theorem isInline_of_firstInline? {found : Node} {form : Form} :
    (children : List (Role × Node)) → firstInline? children = some (found, form) →
    IsInline (childParts children) found form
  | [], isFound => by simp [firstInline?] at isFound
  | (_, child) :: more, isFound => by
      rw [firstInline?, Option.or_eq_some_iff] at isFound
      rw [childParts]
      rcases isFound with inChild | ⟨_, inMore⟩
      · exact (isInline_of_inlineComponent? child inChild).mono fun _ => List.mem_append_left _
      · exact (isInline_of_firstInline? more inMore).mono fun _ => List.mem_append_right _

end

/-- The component that a default export is of its own is a part of it. -/
def Target.IsIn (nodes : List Node) : Target → Prop
  | .named _ => True
  | .inline node form => IsInline nodes node form

theorem Target.IsIn.mono {nodes others : List Node} {target : Target}
    (more : ∀ node ∈ nodes, node ∈ others) (isIn : target.IsIn nodes) : target.IsIn others := by
  cases target with
  | named name => trivial
  | inline node form => exact IsInline.mono isIn more

mutual

theorem isIn_of_target? {target : Target} : (node : Node) → target? node = some target →
    target.IsIn node.parts
  | .mk kind text children, isTarget => by
      by_cases isParenthesized : kind = .parenthesized
      · subst isParenthesized
        rw [target?] at isTarget
        exact (isIn_of_targetInside? children isTarget).mono fun _ => mem_parts_of_mem_childParts
      · by_cases isName : kind = .identifier
        · subst isName
          rw [target?] at isTarget
          cases isTarget
          trivial
        · by_cases isCall : kind = .call
          · subst isCall
            rw [target?, Option.or_eq_some_iff] at isTarget
            rcases isTarget with inCall | ⟨_, ofCallee⟩
            · exact (isIn_of_targetInCall? children inCall).mono fun _ => mem_parts_of_mem_childParts
            · exact (isIn_of_targetOfCallee? children ofCallee).mono fun _ => mem_parts_of_mem_childParts
          · rw [target?] at isTarget
            · obtain ⟨⟨found, form⟩, isFound, rfl⟩ := Option.map_eq_some_iff.mp isTarget
              exact isInline_of_inlineComponent? _ isFound
            · simpa using isParenthesized
            · simpa using isName
            · simpa using isCall

theorem isIn_of_targetInside? {target : Target} : (children : List (Role × Node)) →
    targetInside? children = some target → target.IsIn (childParts children)
  | [], isTarget => by simp [targetInside?] at isTarget
  | (_, child) :: more, isTarget => by
      rw [targetInside?] at isTarget
      rw [childParts]
      split at isTarget
      · exact (isIn_of_target? child isTarget).mono fun _ => List.mem_append_left _
      · exact (isIn_of_targetInside? more isTarget).mono fun _ => List.mem_append_right _

theorem isIn_of_targetInCall? {target : Target} : (children : List (Role × Node)) →
    targetInCall? children = some target → target.IsIn (childParts children)
  | [], isTarget => by simp [targetInCall?] at isTarget
  | (role, .mk kind text items) :: more, isTarget => by
      rw [childParts]
      by_cases isArguments : role = .arguments ∧ kind = .arguments
      · obtain ⟨rfl, rfl⟩ := isArguments
        rw [targetInCall?] at isTarget
        refine (isIn_of_firstTarget? items isTarget).mono fun node member => ?_
        exact List.mem_append_left _ (mem_parts_of_mem_childParts member)
      · rw [targetInCall?] at isTarget
        · exact (isIn_of_targetInCall? more isTarget).mono fun _ => List.mem_append_right _
        · rintro _ _ ⟨⟩
          exact isArguments ⟨rfl, rfl⟩

theorem isIn_of_targetOfCallee? {target : Target} : (children : List (Role × Node)) →
    targetOfCallee? children = some target → target.IsIn (childParts children)
  | [], isTarget => by simp [targetOfCallee?] at isTarget
  | (role, child) :: more, isTarget => by
      rw [childParts]
      by_cases isCallee : role = .callee
      · subst isCallee
        rw [targetOfCallee?] at isTarget
        split at isTarget
        · exact (isIn_of_target? child isTarget).mono fun _ => List.mem_append_left _
        · contradiction
      · rw [targetOfCallee?] at isTarget
        · exact (isIn_of_targetOfCallee? more isTarget).mono fun _ => List.mem_append_right _
        · simpa using isCallee

theorem isIn_of_firstTarget? {target : Target} : (children : List (Role × Node)) →
    firstTarget? children = some target → target.IsIn (childParts children)
  | [], isTarget => by simp [firstTarget?] at isTarget
  | (_, child) :: more, isTarget => by
      rw [firstTarget?, Option.or_eq_some_iff] at isTarget
      rw [childParts]
      rcases isTarget with inChild | ⟨_, inMore⟩
      · exact (isIn_of_target? child inChild).mono fun _ => List.mem_append_left _
      · exact (isIn_of_firstTarget? more inMore).mono fun _ => List.mem_append_right _

end

namespace Survey

/-- What is kept when a survey takes a note of parts of a program. A definition goes with the
candidate that it makes, and an assignment of types with the candidate that it may make. -/
structure Kept (program : Node) (holds : Survey → Prop) : Prop where
  addDefault : ∀ {survey} name, holds survey → holds (survey.addDefault name)
  addBinding : ∀ {survey} name {value}, value ∈ program.parts → holds survey →
    holds (survey.addBinding name value)
  noteClass : ∀ {survey} name description {node}, node ∈ program.parts →
    node.kind = .classDeclaration → holds survey →
    holds (survey.noteDefined name node description
      (if isComponentClass node then some .classLike else none))
  noteFunction : ∀ {survey} name description {node}, node ∈ program.parts →
    node.kind = .functionDeclaration → holds survey →
    holds (survey.noteDefined name node description
      (if isComponentName name && node.rendersElement then some .function else none))
  noteInline : ∀ {survey} name description {node form}, IsInline program.parts node form →
    holds survey →
    holds (survey.noteDefined name node description
      (if isComponentName name then some form else none))
  addInline : ∀ {survey} description {node form}, IsInline program.parts node form →
    holds survey → holds (survey.addCandidate ⟨"", node, description, form⟩)
  noteTypes : ∀ {survey} name description {statement value}, statement ∈ program.parts →
    value ∈ program.parts → statement.kind = .expressionStatement → holds survey →
    holds ((survey.noteAssigned description statement name).addAssignment
      ⟨name, "propTypes", value⟩)
  addAssignment : ∀ {survey assignment}, assignment.value ∈ program.parts →
    assignment.property ≠ "propTypes" → holds survey → holds (survey.addAssignment assignment)

variable {program : Node} {holds : Survey → Prop} {survey : Survey}

theorem Kept.visitDeclarator (kept : Kept program holds) (description : String) {node : Node}
    (inProgram : node ∈ program.parts) (now : holds survey) :
    holds (survey.visitDeclarator description node) := by
  unfold Survey.visitDeclarator
  split
  · rename_i name value hasName hasValue
    have valueInProgram := mem_parts_trans (mem_parts_of_child? hasValue) program inProgram
    split
    · have bound := kept.addBinding name.text valueInProgram now
      dsimp only
      split
      · rename_i isFound
        have isInline := isInline_of_inlineComponent? value isFound
        exact kept.noteInline _ _
          (isInline.mono fun _ member => mem_parts_trans member program valueInProgram) bound
      · exact bound
    · exact now
  · exact now

theorem Kept.visitDeclarators (kept : Kept program holds) (description : String) {nodes : List Node}
    (inProgram : ∀ node ∈ nodes, node ∈ program.parts) (now : holds survey) :
    holds (nodes.foldl (Survey.visitDeclarator description) survey) :=
  List.foldlRecOn nodes _ now fun _ now node isDeclarator =>
    kept.visitDeclarator description (inProgram node isDeclarator) now

theorem Kept.visitDeclaration (kept : Kept program holds) (description : String) {node : Node}
    (inProgram : node ∈ program.parts) (now : holds survey) :
    holds (survey.visitDeclaration description node) := by
  unfold Survey.visitDeclaration
  split
  · rename_i isClass _
    exact kept.noteClass _ _ inProgram isClass now
  · rename_i isFunction _
    exact kept.noteFunction _ _ inProgram isFunction now
  · refine kept.visitDeclarators description (fun child member => ?_) now
    have isChild := (List.mem_filter.mp member).1
    exact mem_parts_trans (mem_parts_of_mem_childNodes isChild) program inProgram
  · exact now

theorem Kept.visitDefault (kept : Kept program holds) (description : String) {value : Node}
    (inProgram : value ∈ program.parts) (now : holds survey) :
    holds (survey.visitDefault description value) := by
  unfold Survey.visitDefault
  split
  · exact kept.addDefault _ now
  · rename_i node form isTarget
    have isInline : IsInline value.parts node form := isIn_of_target? value isTarget
    exact kept.addDefault _ (kept.addInline _
      (isInline.mono fun _ member => mem_parts_trans member program inProgram) now)
  · exact now

theorem Kept.visitExport (kept : Kept program holds) (description : String) {node : Node}
    (inProgram : node ∈ program.parts) (now : holds survey) :
    holds (survey.visitExport description node) := by
  unfold Survey.visitExport
  dsimp only
  split
  · rename_i declaration hasDeclaration
    have declared := kept.visitDeclaration description
      (mem_parts_trans (mem_parts_of_child? hasDeclaration) program inProgram) now
    split
    · exact kept.addDefault _ declared
    · exact declared
  · rename_i value hasValue
    split
    · exact kept.visitDefault description
        (mem_parts_trans (mem_parts_of_child? hasValue) program inProgram) now
    · exact now
  · exact now

theorem Kept.visitAssignment (kept : Kept program holds) (description : String)
    {statement value : Node} (inProgram : statement ∈ program.parts)
    (valueInProgram : value ∈ program.parts) (isStatement : statement.kind = .expressionStatement)
    (object property : Node) (now : holds survey) :
    holds (survey.visitAssignment description statement object property value) := by
  unfold Survey.visitAssignment
  split
  · exact kept.visitDefault description valueInProgram now
  · split
    · exact now
    · by_cases isTypes : property.text = "propTypes"
      · simp only [isTypes, if_true]
        exact kept.noteTypes _ description inProgram valueInProgram isStatement now
      · simp only [isTypes, if_false]
        exact kept.addAssignment valueInProgram isTypes now

theorem mem_parts_of_assignmentOf? {statement object property value : Node}
    (found : assignmentOf? statement = some (object, property, value)) :
    value ∈ statement.parts := by
  simp only [assignmentOf?, Option.bind_eq_bind, Option.bind_eq_some_iff] at found
  obtain ⟨expression, isChild, left, _, right, hasRight, found⟩ := found
  have inExpression := mem_parts_of_child? hasRight
  have inStatement := mem_parts_of_mem_childNodes (List.mem_of_find?_eq_some isChild)
  split at found
  · contradiction
  · obtain ⟨_, _, _, _, same⟩ := by
      simpa only [Option.bind_eq_some_iff, pure, Option.some.injEq] using found
    cases same
    exact mem_parts_trans inExpression statement inStatement

theorem Kept.visitStatement (kept : Kept program holds) (description : String) {node : Node}
    (inProgram : node ∈ program.parts) (now : holds survey) :
    holds (survey.visitStatement description node) := by
  unfold Survey.visitStatement
  split
  · exact kept.visitExport description inProgram now
  · rename_i isStatement
    split
    · rename_i object property value found
      exact kept.visitAssignment description inProgram
        (mem_parts_trans (mem_parts_of_assignmentOf? found) program inProgram) isStatement _ _ now
    · exact now
  · exact kept.visitDeclaration description inProgram now

theorem Kept.visitAll (kept : Kept program holds) {previous : Option Node} {nodes : List Node}
    (inProgram : ∀ node ∈ nodes, node ∈ program.parts) (now : holds survey) :
    holds (survey.visitAll previous nodes) := by
  induction nodes generalizing survey previous with
  | nil => exact now
  | cons node nodes induction =>
      exact induction (fun other member => inProgram other (.tail _ member))
        (kept.visitStatement _ (inProgram node (.head _)) now)

theorem Kept.ofProgram (kept : Kept program holds) (atFirst : holds empty) :
    holds (ofProgram program) :=
  kept.visitAll (fun _ => mem_parts_of_mem_childNodes) atFirst

end Survey

end SnapshotGen.Extraction
