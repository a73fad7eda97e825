import SnapshotGen.Proofs.Extraction.Props
import SnapshotGen.TestModel

/-!
What can be relied on in every component that is read from a script: nothing is present and empty,
a type is whole at every depth, and only a prop that has a default goes without one.
-/

namespace SnapshotGen

/-- A prop with a kind and a text. Only shapes have fields; these have types like the prop itself,
and no defaults. -/
inductive PropDecl.IsTyped : PropDecl → Prop
  | mk {prop : PropDecl} {kind : PropKind} {raw : String}
      (hasKind : prop.kind? = some kind) (hasRaw : prop.raw? = some raw)
      (onlyShapes : prop.shape?.isSome → kind = .shape ∨ kind = .exact)
      (fieldsTyped : ∀ fields, prop.shape? = some fields → ∀ field ∈ fields, field.IsTyped)
      (fieldsPlain : ∀ fields, prop.shape? = some fields →
        ∀ field ∈ fields, field.declaredDefault = none) : prop.IsTyped

theorem PropDecl.IsTyped.exists_kind {prop : PropDecl} (isTyped : prop.IsTyped) :
    ∃ kind, prop.kind? = some kind := by
  cases isTyped with
  | mk hasKind _ _ _ _ => exact ⟨_, hasKind⟩

/-- A default is no part of the type. -/
theorem PropDecl.IsTyped.withDefault {prop : PropDecl} (isTyped : prop.IsTyped) (text : String) :
    PropDecl.IsTyped { prop with declaredDefault := some text } := by
  cases isTyped with
  | mk hasKind hasRaw onlyShapes fieldsTyped fieldsPlain =>
      exact .mk hasKind hasRaw onlyShapes fieldsTyped fieldsPlain

/-- Without a type a prop has a default. -/
def PropDecl.IsSettled (prop : PropDecl) : Prop :=
  prop.IsTyped ∨ prop.type = none ∧ prop.declaredDefault.isSome

structure Component.WellFormed (component : Component) : Prop where
  named : component.displayName ≠ some ""
  notEmpty : component.props ≠ some []
  settled : ∀ prop ∈ component.props.getD [], prop.IsSettled

namespace Extraction

variable {program : Script.Node} {prop : PropDecl}

theorem IsDeclared.noDefault (isDeclared : IsDeclared program prop) :
    prop.declaredDefault = none := by
  cases isDeclared <;> rfl

theorem IsDeclared.isTyped (isDeclared : IsDeclared program prop) : prop.IsTyped := by
  induction isDeclared with
  | shorthand isKey =>
      refine .mk rfl rfl ?_ ?_ ?_ <;> simp [shorthandProp, PropDecl.shape?]
  | plain isKey value =>
      refine .mk rfl rfl ?_ ?_ ?_ <;> simp [declaredProp, PropDecl.shape?]
  | shape isKey isShape areDeclared areTyped =>
      refine .mk rfl rfl (fun _ => isShape) ?_ ?_
      · intro fields same
        cases same
        exact areTyped
      · intro fields same
        cases same
        exact fun field isField => (areDeclared field isField).noDefault

theorem IsExtracted.isSettled (isExtracted : IsExtracted program prop) : prop.IsSettled := by
  cases isExtracted with
  | declared isDeclared => exact .inl isDeclared.isTyped
  | defaulted isDeclared text => exact .inl (isDeclared.isTyped.withDefault text)
  | untyped isKey text => exact .inr ⟨rfl, rfl⟩

theorem wellFormed_of_ofProgram {found : Extract} (extracted : ofProgram program = .ok found) :
    found.component.WellFormed := by
  refine ⟨?_, ?_, fun prop isProp => (isExtracted_of_ofProgram extracted isProp).isSettled⟩
  · obtain ⟨candidate, _, rfl⟩ := exists_candidate_of_ofProgram extracted
    unfold extractFrom
    dsimp only
    split
    · exact nofun
    · rename_i notEmpty
      exact fun same => notEmpty (Option.some.inj same)
  · obtain ⟨candidate, _, rfl⟩ := exists_candidate_of_ofProgram extracted
    unfold extractFrom
    dsimp only
    split
    · exact nofun
    · rename_i notEmpty
      exact fun same => notEmpty (List.isEmpty_iff.mpr (Option.some.inj same))

end Extraction

namespace TestModel

variable {prop : PropDecl}

theorem kind?_isSome_or_default_isSome (settled : prop.IsSettled) :
    prop.kind?.isSome ∨ prop.declaredDefault.isSome := by
  rcases settled with isTyped | ⟨_, hasDefault⟩
  · obtain ⟨kind, hasKind⟩ := isTyped.exists_kind
    exact .inl (hasKind ▸ rfl)
  · exact .inr hasDefault

theorem missing_once (settled : prop.IsSettled) (component path : String) :
    ¬(.missingType prop.name component path ∈ propDiagnostics component path prop ∧
      .missingDefault prop.name component path ∈ propDiagnostics component path prop) := by
  rintro ⟨noType, noDefault⟩
  rcases kind?_isSome_or_default_isSome settled with hasKind | hasDefault
  · simp [propDiagnostics, Option.isSome_iff_ne_none.mp hasKind] at noType
  · simp [propDiagnostics, Option.isSome_iff_ne_none.mp hasDefault] at noDefault

theorem type_isSome_of_standIn (settled : prop.IsSettled) (noDefault : prop.declaredDefault = none) :
    prop.type.isSome := by
  rcases settled with isTyped | ⟨_, hasDefault⟩
  · obtain ⟨kind, hasKind⟩ := isTyped.exists_kind
    obtain ⟨type, hasType, _⟩ := Option.bind_eq_some_iff.mp hasKind
    rw [hasType]
    rfl
  · rw [noDefault] at hasDefault
    cases hasDefault

theorem propText_of_settled (settled : prop.IsSettled) (catalog : Catalog) :
    propText catalog prop = prop.declaredDefault.getD (prop.synthesize catalog).literal := by
  unfold propText
  cases hasDefault : prop.declaredDefault with
  | some text => rfl
  | none =>
      obtain ⟨type, hasType⟩ := Option.isSome_iff_exists.mp (type_isSome_of_standIn settled hasDefault)
      unfold propText.standIn
      rw [hasType]
      rfl

end TestModel

namespace Extraction

/-- Every component that is read from a script is well-formed. So for none of its props both the
type and the default are missing, and a value is only ever made up for a prop that has a type. -/
theorem wellFormed_of_extract {path source : String} {found : Extract}
    (extracted : extract path source = .ok found) :
    found.component.WellFormed ∧
      ∀ prop ∈ TestModel.attributeProps found.component,
        (∀ component sourcePath,
          ¬(.missingType prop.name component sourcePath ∈
              TestModel.propDiagnostics component sourcePath prop ∧
            .missingDefault prop.name component sourcePath ∈
              TestModel.propDiagnostics component sourcePath prop)) ∧
        (prop.declaredDefault = none → prop.type.isSome) ∧
        ∀ catalog, TestModel.propText catalog prop =
          prop.declaredDefault.getD (prop.synthesize catalog).literal := by
  obtain ⟨_, program, _, _, ofProgram⟩ := exists_read_of_extract extracted
  have wellFormed := wellFormed_of_ofProgram ofProgram
  refine ⟨wellFormed, fun prop isProp => ?_⟩
  have settled := wellFormed.settled prop (List.mem_filter.mp isProp).1
  exact ⟨TestModel.missing_once settled, TestModel.type_isSome_of_standIn settled,
    TestModel.propText_of_settled settled⟩

/-- A script with a shape, and with the default of a prop that is not declared. -/
def cardScript : String := Text.ofLines [
  "const Card = (\x7b size = 3 \x7d) => <b />;",
  "Card.propTypes = \x7b info: PropTypes.shape(\x7b id: PropTypes.number.isRequired \x7d) \x7d;"]

theorem wellFormed_of_extract_card :
    ∃ found, extract "Card.js" cardScript = .ok found ∧ found.component.WellFormed ∧
      ((found.component.props.getD []).map fun prop =>
        (prop.name, prop.kind?, prop.declaredDefault)) =
        [("info", some .shape, none), ("size", none, some "3")] := by
  have evaluated : ((extract "Card.js" cardScript).toOption.map fun found =>
      (found.component.props.getD []).map fun prop =>
        (prop.name, prop.kind?, prop.declaredDefault)) =
      some [("info", some .shape, none), ("size", none, some "3")] := by
    decide +kernel
  obtain ⟨found, isFound, same⟩ := Option.map_eq_some_iff.mp evaluated
  have extracted := extract_of_toOption isFound
  exact ⟨found, extracted, (wellFormed_of_extract extracted).1, same⟩

end Extraction

end SnapshotGen
