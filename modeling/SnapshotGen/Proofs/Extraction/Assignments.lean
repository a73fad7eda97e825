import SnapshotGen.Proofs.Extraction.Notes

/-!
The assignments of a script: what the statements of a script itself assign to members of names, in
their order.
-/

namespace SnapshotGen.Extraction

open Script Survey

/-- What a statement assigns to a member of a name. The exports of a module are no such member. -/
def assignment? (statement : Node) : Option Assignment :=
  if statement.kind = .expressionStatement then
    (assignmentOf? statement).bind fun (object, property, value) =>
      if object.text = "module" && property.text = "exports" then none
      else if object.kind ≠ .identifier then none
      else some ⟨object.text, property.text, value⟩
  else none

theorem assignments_notesOfDeclaration (description : String) (node : Node) :
    (notesOfDeclaration description node).filterMap Note.assignment? = [] :=
  filterMap_notesOfDeclaration_eq_nil (by rintro ⟨⟩ <;> simp [Note.Defines, Note.assignment?]) _ _

theorem assignments_notesOfDefault (description : String) (value : Node) :
    (notesOfDefault description value).filterMap Note.assignment? = [] := by
  unfold notesOfDefault
  rcases target? value with _ | _ | _ <;> rfl

theorem assignments_notesOfExport (description : String) (node : Node) :
    (notesOfExport description node).filterMap Note.assignment? = [] := by
  unfold notesOfExport
  split
  · rw [List.filterMap_append, assignments_notesOfDeclaration]
    split <;> rfl
  · split
    · exact assignments_notesOfDefault _ _
    · rfl
  · rfl

theorem assignments_notesOfStatement (description : String) (statement : Node) :
    (notesOfStatement description statement).filterMap Note.assignment? =
      (assignment? statement).toList := by
  unfold notesOfStatement assignment?
  split
  · rename_i isExport
    rw [isExport, if_neg (by decide)]
    exact assignments_notesOfExport _ _
  · rename_i isStatement
    rw [if_pos isStatement]
    rcases assignmentOf? statement with _ | ⟨object, property, value⟩
    · rfl
    · unfold notesOfAssignment
      dsimp only [Option.bind_some]
      split
      · exact assignments_notesOfDefault _ _
      · split
        · rfl
        · split <;> rfl
  · rename_i noStatement
    rw [if_neg noStatement]
    exact assignments_notesOfDeclaration _ _

theorem assignments_notesOfAll (previous : Option Node) (statements : List Node) :
    (notesOfAll previous statements).filterMap Note.assignment? =
      statements.filterMap assignment? := by
  induction statements generalizing previous with
  | nil => rfl
  | cons statement statements induction =>
      rw [notesOfAll, List.filterMap_append, assignments_notesOfStatement, induction,
        List.filterMap_cons]
      cases assignment? statement <;> rfl

theorem Survey.assignments_ofProgram (program : Node) :
    (Survey.ofProgram program).assignments = program.childNodes.filterMap assignment? := by
  rw [ofProgram_eq, (extends_foldl_note _ _).assignments, notesOf, assignments_notesOfAll]
  rfl

def NeverAssigns (program : Node) (name property : String) : Prop :=
  ∀ statement ∈ program.childNodes, ∀ assignment, assignment? statement = some assignment →
    assignment.target = name → assignment.property ≠ property

theorem assigned?_eq_none_of_neverAssigns {program : Node} {name property : String}
    (never : NeverAssigns program name property) :
    (Survey.ofProgram program).assigned? name property = none := by
  rw [assigned?, Option.map_eq_none_iff, List.find?_eq_none]
  intro assignment member isAssigned
  rw [List.mem_reverse, assignments_ofProgram] at member
  obtain ⟨statement, isStatement, assigns⟩ := List.mem_filterMap.mp member
  obtain ⟨sameTarget, sameProperty⟩ := Bool.and_eq_true_iff.mp isAssigned
  exact never statement isStatement assignment assigns (beq_iff_eq.mp sameTarget)
    (beq_iff_eq.mp sameProperty)

end SnapshotGen.Extraction
