import Mathlib.Data.List.Basic
import SnapshotGen.Proofs.Extraction.Notes

/-!
The variables of a script: what is declared by the statements of a script itself, in their order.
-/

namespace SnapshotGen.Extraction

open Script

/-- What a statement declares, also as an export. -/
def declaration? (statement : Node) : Option Node :=
  if statement.kind = .export then statement.child? .declaration else some statement

def boundValue? (declarator : Node) : Option (String × Node) :=
  match declarator.child? .name, declarator.child? .value with
  | some name, some value => if name.kind = .identifier then some (name.text, value) else none
  | _, _ => none

def declaredVariables (declaration : Node) : List (String × Node) :=
  if declaration.kind = .variableDeclaration then
    (declaration.childNodes.filter (·.kind == .declarator)).filterMap boundValue?
  else []

def variablesOf (statement : Node) : List (String × Node) :=
  (declaration? statement).toList.flatMap declaredVariables

theorem filterMap_binding?_notesOfDefined (name : String) (node : Node) (description : String)
    (component : Option Form) :
    (notesOfDefined name node description component).filterMap Note.binding? = [] := by
  cases component <;> rfl

theorem filterMap_binding?_notesOfDefault (description : String) (value : Node) :
    (notesOfDefault description value).filterMap Note.binding? = [] := by
  unfold notesOfDefault
  rcases target? value with _ | _ | _ <;> rfl

theorem filterMap_binding?_notesOfDeclarator (description : String) (declarator : Node) :
    (notesOfDeclarator description declarator).filterMap Note.binding? =
      (boundValue? declarator).toList := by
  unfold notesOfDeclarator boundValue?
  cases declarator.child? .name with
  | none => rfl
  | some name =>
      cases declarator.child? .value with
      | none => rfl
      | some value =>
          dsimp only
          split
          · apply congrArg ((name.text, value) :: ·)
            rcases inlineComponent? value with _ | ⟨component, form⟩
            · rfl
            · exact filterMap_binding?_notesOfDefined _ _ _ _
          · rfl

theorem filterMap_binding?_notesOfDeclaration (description : String) (declaration : Node) :
    (notesOfDeclaration description declaration).filterMap Note.binding? =
      declaredVariables declaration := by
  unfold notesOfDeclaration declaredVariables
  split
  · rename_i isClass _
    rw [isClass]
    exact filterMap_binding?_notesOfDefined _ _ _ _
  · rename_i isFunction _
    rw [isFunction]
    exact filterMap_binding?_notesOfDefined _ _ _ _
  · rename_i isVariables
    rw [if_pos isVariables, List.filterMap_flatMap, List.filterMap_eq_flatMap_toList]
    simp only [filterMap_binding?_notesOfDeclarator]
  · rename_i noVariables _ _
    rw [if_neg noVariables]
    rfl

theorem filterMap_binding?_notesOfStatement (description : String) (statement : Node) :
    (notesOfStatement description statement).filterMap Note.binding? = variablesOf statement := by
  unfold notesOfStatement variablesOf declaration?
  split
  · rename_i isExport
    rw [if_pos isExport]
    unfold notesOfExport
    split
    · rename_i declared
      rw [declared, List.filterMap_append, filterMap_binding?_notesOfDeclaration]
      split <;> simp [Note.binding?]
    · rename_i none _
      rw [none]
      split
      · exact filterMap_binding?_notesOfDefault _ _
      · rfl
    · rename_i none _
      rw [none]
      rfl
  · rename_i isExpression
    rw [isExpression, if_neg (by decide), Option.toList_some, List.flatMap_singleton,
      declaredVariables, isExpression, if_neg (by decide)]
    split
    · unfold notesOfAssignment
      split
      · exact filterMap_binding?_notesOfDefault _ _
      · split
        · rfl
        · split <;> rfl
    · rfl
  · rename_i noExport _
    rw [if_neg noExport, filterMap_binding?_notesOfDeclaration, Option.toList_some,
      List.flatMap_singleton]

theorem filterMap_binding?_notesOfAll (previous : Option Node) (statements : List Node) :
    (notesOfAll previous statements).filterMap Note.binding? = statements.flatMap variablesOf := by
  induction statements generalizing previous with
  | nil => rfl
  | cons statement statements induction =>
      rw [notesOfAll, List.filterMap_append, filterMap_binding?_notesOfStatement, induction,
        List.flatMap_cons]

theorem Survey.bindings_ofProgram (program : Node) :
    (Survey.ofProgram program).bindings = program.childNodes.flatMap variablesOf := by
  rw [Survey.ofProgram_eq, (Survey.extends_foldl_note _ _).bindings, notesOf,
    filterMap_binding?_notesOfAll]
  rfl

end SnapshotGen.Extraction
