import SnapshotGen.Proofs.Extraction.Visits

/-!
Whatever a survey notes of a script is a part of the script, and so is what is found through it.
-/

namespace SnapshotGen.Extraction

open Script Script.Node

namespace Survey

structure IsOf (program : Node) (survey : Survey) : Prop where
  candidates : ∀ candidate ∈ survey.candidates, candidate.node ∈ program.parts
  assignments : ∀ assignment ∈ survey.assignments, assignment.value ∈ program.parts
  bindings : ∀ binding ∈ survey.bindings, binding.2 ∈ program.parts
  definitions : ∀ definition ∈ survey.definitions, definition.node ∈ program.parts

variable {program : Node} {survey : Survey}

theorem isOf_empty : empty.IsOf program := by
  refine ⟨?_, ?_, ?_, ?_⟩ <;> exact fun _ member => absurd member List.not_mem_nil

theorem forall_mem_append_last {α : Type} {p : α → Prop} {known : List α} {last : α}
    (ofKnown : ∀ a ∈ known, p a) (ofLast : p last) : ∀ a ∈ known ++ [last], p a := by
  intro a member
  rcases List.mem_append.mp member with inKnown | isLast
  · exact ofKnown a inKnown
  · rw [List.mem_singleton.mp isLast]
    exact ofLast

theorem IsOf.addCandidate (isOf : survey.IsOf program) {candidate : Candidate}
    (inProgram : candidate.node ∈ program.parts) :
    (survey.addCandidate candidate).IsOf program := by
  unfold Survey.addCandidate
  split
  · exact isOf
  · exact ⟨forall_mem_append_last isOf.candidates inProgram, isOf.assignments, isOf.bindings,
      isOf.definitions⟩

theorem IsOf.addDefault (isOf : survey.IsOf program) (name : String) :
    (survey.addDefault name).IsOf program :=
  ⟨isOf.candidates, isOf.assignments, isOf.bindings, isOf.definitions⟩

theorem IsOf.addBinding (isOf : survey.IsOf program) (name : String) {value : Node}
    (inProgram : value ∈ program.parts) : (survey.addBinding name value).IsOf program :=
  ⟨isOf.candidates, isOf.assignments, forall_mem_append_last isOf.bindings inProgram,
    isOf.definitions⟩

theorem IsOf.addAssignment (isOf : survey.IsOf program) {assignment : Assignment}
    (inProgram : assignment.value ∈ program.parts) :
    (survey.addAssignment assignment).IsOf program :=
  ⟨isOf.candidates, forall_mem_append_last isOf.assignments inProgram, isOf.bindings,
    isOf.definitions⟩

theorem IsOf.define (isOf : survey.IsOf program) {definition : Definition}
    (inProgram : definition.node ∈ program.parts) : (survey.define definition).IsOf program :=
  ⟨isOf.candidates, isOf.assignments, isOf.bindings,
    forall_mem_append_last isOf.definitions inProgram⟩

theorem IsOf.noteDefined (isOf : survey.IsOf program) (name description : String)
    (component : Option Form) {node : Node} (inProgram : node ∈ program.parts) :
    (survey.noteDefined name node description component).IsOf program := by
  have defined : (survey.define ⟨name, node, description⟩).IsOf program := isOf.define inProgram
  cases component with
  | none => exact defined
  | some form => exact defined.addCandidate inProgram

theorem IsOf.noteAssigned (isOf : survey.IsOf program) (description name : String)
    {statement : Node} (inProgram : statement ∈ program.parts) :
    (survey.noteAssigned description statement name).IsOf program := by
  unfold Survey.noteAssigned
  split
  · exact isOf
  · cases found : survey.definition? name with
    | none => exact isOf.addCandidate inProgram
    | some definition =>
        exact isOf.addCandidate (isOf.definitions definition (List.mem_of_find?_eq_some found))

theorem kept_isOf (program : Node) : Kept program (IsOf program) where
  addDefault name isOf := isOf.addDefault name
  addBinding name _ inProgram isOf := isOf.addBinding name inProgram
  noteClass _ _ _ inProgram _ isOf := isOf.noteDefined _ _ _ inProgram
  noteFunction _ _ _ inProgram _ isOf := isOf.noteDefined _ _ _ inProgram
  noteInline _ _ _ _ isInline isOf := isOf.noteDefined _ _ _ isInline.member
  addInline _ _ _ isInline isOf := isOf.addCandidate isInline.member
  noteTypes _ description _ _ inProgram valueInProgram _ isOf :=
    (isOf.noteAssigned description _ inProgram).addAssignment valueInProgram
  addAssignment inProgram _ isOf := isOf.addAssignment inProgram

theorem isOf_ofProgram (program : Node) : (ofProgram program).IsOf program :=
  (kept_isOf program).ofProgram isOf_empty

theorem mem_candidates_of_resolve? {candidate : Candidate}
    (resolved : survey.resolve? = some candidate) : candidate ∈ survey.candidates := by
  rw [Survey.resolve?, Option.or_eq_some_iff] at resolved
  rcases resolved with ofDefault | ⟨_, isFirst⟩
  · obtain ⟨name, _, found⟩ := List.exists_of_findSome?_eq_some ofDefault
    exact List.mem_of_find?_eq_some found
  · exact List.mem_of_head? isFirst

theorem IsOf.resolve? (isOf : survey.IsOf program) {candidate : Candidate}
    (resolved : survey.resolve? = some candidate) : candidate.node ∈ program.parts :=
  isOf.candidates candidate (mem_candidates_of_resolve? resolved)

theorem IsOf.binding? (isOf : survey.IsOf program) {name : String} {value : Node}
    (bound : survey.binding? name = some value) : value ∈ program.parts := by
  obtain ⟨binding, found, rfl⟩ := Option.map_eq_some_iff.mp bound
  exact isOf.bindings binding (List.mem_reverse.mp (List.mem_of_find?_eq_some found))

end Survey

theorem mem_parts_of_returned? {body value : Node} (found : returned? body = some value) :
    value ∈ body.parts := by
  simp only [returned?, Option.bind_eq_bind, Option.bind_eq_some_iff, pure,
    Option.some.injEq] at found
  obtain ⟨statement, isStatement, part, isPart, rfl⟩ := found
  have inStatement := mem_parts_of_mem_childNodes (List.mem_of_find?_eq_some isPart)
  have inBody := mem_parts_of_mem_childNodes (List.mem_of_find?_eq_some isStatement)
  exact mem_parts_trans (unparenthesized_mem_parts part) body
    (mem_parts_trans inStatement body inBody)

theorem mem_parts_of_staticValueOf? {name : String} {member value : Node}
    (found : staticValueOf? name member = some (some value)) : value ∈ member.parts := by
  unfold staticValueOf? at found
  split at found
  · contradiction
  · split at found
    · split at found
      · exact mem_parts_of_child? (Option.some.inj found)
      · contradiction
    · split at found
      · obtain ⟨body, isBody, isReturned⟩ := Option.bind_eq_some_iff.mp (Option.some.inj found)
        exact mem_parts_trans (mem_parts_of_returned? isReturned) member
          (mem_parts_of_child? isBody)
      · contradiction
    · contradiction

theorem mem_parts_of_staticMember? {node value : Node} {name : String}
    (found : staticMember? node name = some value) : value ∈ node.parts := by
  have isFound : (members node).findSome? (staticValueOf? name) = some (some value) := by
    unfold staticMember? at found
    exact Option.join_eq_some_iff.mp found
  obtain ⟨member, isMember, gives⟩ := List.exists_of_findSome?_eq_some isFound
  have inMember := mem_parts_of_staticValueOf? gives
  unfold members at isMember
  cases hasBody : node.child? .body with
  | none => simp [hasBody] at isMember
  | some body =>
      rw [hasBody] at isMember
      exact mem_parts_trans (mem_parts_trans inMember body (mem_parts_of_mem_childNodes isMember))
        node (mem_parts_of_child? hasBody)

namespace Survey

variable {program : Node} {survey : Survey}

theorem IsOf.staticValue? (isOf : survey.IsOf program) {candidate : Candidate} {property : String}
    {value : Node} (inProgram : candidate.node ∈ program.parts)
    (found : survey.staticValue? candidate property = some value) : value ∈ program.parts := by
  unfold Survey.staticValue? at found
  dsimp only at found
  rcases Option.or_eq_some_iff.mp found with isAssigned | ⟨_, isMember⟩
  · split at isAssigned
    · contradiction
    · obtain ⟨assignment, isFound, rfl⟩ := Option.map_eq_some_iff.mp isAssigned
      exact isOf.assignments assignment (List.mem_reverse.mp (List.mem_of_find?_eq_some isFound))
  · split at isMember
    · exact mem_parts_trans (mem_parts_of_staticMember? isMember) program inProgram
    · contradiction

theorem IsOf.objectWithin? (isOf : survey.IsOf program) {limit : Nat} {node object : Node}
    (inProgram : node ∈ program.parts) (found : survey.objectWithin? limit node = some object) :
    object ∈ program.parts ∧ object.kind = .object := by
  induction limit generalizing node with
  | zero =>
      have inside := mem_parts_trans (unparenthesized_mem_parts node) program inProgram
      unfold Survey.objectWithin? at found
      dsimp only at found
      split at found
      · rename_i isObject
        cases found
        exact ⟨inside, isObject⟩
      · contradiction
      · contradiction
  | succ limit induction =>
      have inside := mem_parts_trans (unparenthesized_mem_parts node) program inProgram
      unfold Survey.objectWithin? at found
      dsimp only at found
      split at found
      · rename_i isObject
        cases found
        exact ⟨inside, isObject⟩
      · obtain ⟨value, bound, onwards⟩ := Option.bind_eq_some_iff.mp found
        cases ‹limit + 1 = _ + 1›
        exact induction (isOf.binding? bound) onwards
      · contradiction

theorem IsOf.staticObject? (isOf : survey.IsOf program) {candidate : Candidate} {property : String}
    {object : Node} (inProgram : candidate.node ∈ program.parts)
    (found : (survey.staticValue? candidate property).bind survey.object? = some object) :
    object ∈ program.parts ∧ object.kind = .object := by
  obtain ⟨value, isStatic, isObject⟩ := Option.bind_eq_some_iff.mp found
  exact isOf.objectWithin? (isOf.staticValue? inProgram isStatic) isObject

end Survey

end SnapshotGen.Extraction
