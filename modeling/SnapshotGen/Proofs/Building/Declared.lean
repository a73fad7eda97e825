import Mathlib.Data.List.Nodup
import SnapshotGen.Proofs.Building.Steps

/-!
The model of a component without the steps that build it. Every attribute prop gives one property,
which nothing but the prop itself, the catalog and the file decide, and an import if its type has a
fixture; of equal imports the first stays.
-/

namespace SnapshotGen.Building

open TestModel

theorem nodup_addLine {seen : List String} (nodup : seen.Nodup) (line : String) :
    (addLine seen line).Nodup := by
  unfold addLine
  split
  · exact nodup
  · rename_i isNew
    refine List.nodup_append.mpr ⟨nodup, List.nodup_singleton line, ?_⟩
    intro other isSeen _ isLine same
    rw [same, List.mem_singleton.mp isLine] at isSeen
    exact isNew (List.contains_iff_mem.mpr isSeen)

theorem foldl_addLine (lines seen : List String) :
    lines.foldl addLine seen = seen ++ (lines.filter (!seen.contains ·)).eraseDups := by
  induction lines generalizing seen with
  | nil => simp
  | cons line lines induction =>
      rw [List.foldl_cons, induction]
      by_cases isSeen : seen.contains line = true
      · have kept : addLine seen line = seen := if_pos isSeen
        rw [kept, List.filter_cons_of_neg (by rw [isSeen]; decide)]
      · have added : addLine seen line = seen ++ [line] := if_neg isSeen
        have later : lines.filter (!(seen ++ [line]).contains ·) =
            (lines.filter (!seen.contains ·)).filter (!· == line) := by
          rw [List.filter_filter]
          refine List.filter_congr fun other _ => ?_
          rw [List.contains_append, Bool.not_or, Bool.and_comm, List.contains_cons,
            List.contains_nil, Bool.or_false]
        rw [added, later, List.filter_cons_of_pos (by simpa using isSeen), List.eraseDups_cons,
          List.append_assoc, List.singleton_append]

theorem foldl_addLine_nil (lines : List String) : lines.foldl addLine [] = lines.eraseDups := by
  rw [foldl_addLine, List.nil_append]
  exact congrArg List.eraseDups (List.filter_eq_self.mpr fun _ _ => rfl)

theorem nodup_eraseDups (lines : List String) : lines.eraseDups.Nodup := by
  rw [← foldl_addLine_nil]
  exact List.foldlRecOn lines addLine List.nodup_nil fun _ nodup line _ => nodup_addLine nodup line

/-- The literal for a prop's type; without any type the prop is taken as a string. -/
def typeLiteral (catalog : Catalog) (prop : PropDecl) : String :=
  let typed : PropDecl := { prop with type := some (prop.type.getD (PropType.ofKind .string)) }
  (typed.synthesize catalog).literal

def declaredProperty (catalog : Catalog) (sourceFile : String) (prop : PropDecl) : TestProp where
  name := prop.name
  kind := prop.kind?.getD .string
  value := .ofText (prop.kind?.getD .string) (prop.declaredDefault.getD (typeLiteral catalog prop))
  sourceFile

theorem standIn_literal (catalog : Catalog) (prop : PropDecl) :
    (propText.standIn catalog prop).literal = typeLiteral catalog prop := by
  obtain ⟨name, type, required, declaredDefault⟩ := prop
  cases type <;> rfl

theorem testProp_eq_declaredProperty (catalog : Catalog) (sourceFile : String) (prop : PropDecl) :
    testProp catalog sourceFile prop = declaredProperty catalog sourceFile prop := by
  have sameText : propText catalog prop = prop.declaredDefault.getD (typeLiteral catalog prop) := by
    rw [propText]
    split
    · rename_i isGiven
      rw [isGiven, Option.getD_some]
    · rename_i isNotGiven
      rw [isNotGiven, Option.getD_none, standIn_literal]
  rw [testProp, sameText]
  rfl

/-- A model says of its component what the declarations and the path of the file say. -/
structure IsDeclared (catalog : Catalog) (sourcePath relativePath : String)
    (component : Component) (model : TestModel) : Prop where
  names : model.properties.map TestProp.name =
    ((component.props.getD []).map PropDecl.name).filter (· ≠ "children")
  properties : model.properties =
    ((component.props.getD []).filter (·.name ≠ "children")).map
      (declaredProperty catalog relativePath)
  hasChildren : model.hasChildren = true ↔ ∃ prop ∈ component.props.getD [], prop.name = "children"
  fixtureImports : model.fixtureImports =
    (((component.props.getD []).filter (·.name ≠ "children")).filterMap
      fun prop => catalog.importLine? prop.raw?).eraseDups
  importsOnce : model.fixtureImports.Nodup
  named : ∀ name, component.displayName = some name → name ≠ "" → model.componentName = name
  unnamed : component.displayName.getD "" = "" → model.componentName = model.fileName
  fileName : model.fileName = fileNameOf sourcePath
  relativeImportPath : model.relativeImportPath = "./" ++ fileNameOf sourcePath
  sourcePath : model.sourcePath = sourcePath

theorem attributeProps_eq_filter (component : Component) :
    attributeProps component = (component.props.getD []).filter (·.name ≠ "children") := by
  refine List.filter_congr fun prop _ => ?_
  rw [childrenProp, bne, decide_not]
  rfl

theorem isDeclared_ofComponent (catalog : Catalog) (sourcePath relativePath : String)
    (component : Component) : IsDeclared catalog sourcePath relativePath component
      (TestModel.ofComponent catalog sourcePath relativePath component) := by
  have properties : (TestModel.ofComponent catalog sourcePath relativePath component).properties =
      ((component.props.getD []).filter (·.name ≠ "children")).map
        (declaredProperty catalog relativePath) := by
    rw [← attributeProps_eq_filter]
    exact List.map_congr_left fun prop _ => testProp_eq_declaredProperty catalog relativePath prop
  have imports : (TestModel.ofComponent catalog sourcePath relativePath component).fixtureImports =
      (((component.props.getD []).filter (·.name ≠ "children")).filterMap
        fun prop => catalog.importLine? prop.raw?).eraseDups := by
    rw [← foldl_addLine_nil, ← attributeProps_eq_filter]
    rfl
  refine ⟨?_, properties, ?_, imports, ?_, ?_, ?_, rfl, rfl, rfl⟩
  · rw [properties, List.map_map, List.filter_map]
    rfl
  · simp [TestModel.ofComponent, childrenProp]
  · rw [imports]
    exact nodup_eraseDups _
  · intro name shown notEmpty
    simp [TestModel.ofComponent, nameOf, shown, Option.filter_some_pos, notEmpty]
  · intro nameless
    simp only [TestModel.ofComponent, nameOf]
    cases shown : component.displayName with
    | none => rfl
    | some name =>
        rw [shown, Option.getD_some] at nameless
        rw [nameless]
        rfl

theorem IsDeclared.eq {catalog : Catalog} {sourcePath relativePath : String}
    {component : Component} {model other : TestModel}
    (declared : IsDeclared catalog sourcePath relativePath component model)
    (otherDeclared : IsDeclared catalog sourcePath relativePath component other) :
    model = other := by
  have sameFile : model.fileName = other.fileName :=
    declared.fileName.trans otherDeclared.fileName.symm
  have sameName : model.componentName = other.componentName := by
    by_cases nameless : component.displayName.getD "" = ""
    · rw [declared.unnamed nameless, otherDeclared.unnamed nameless, sameFile]
    · cases shown : component.displayName with
      | none =>
          rw [shown] at nameless
          exact absurd rfl nameless
      | some name =>
          rw [shown, Option.getD_some] at nameless
          rw [declared.named name shown nameless, otherDeclared.named name shown nameless]
  rw [TestModel.mk.injEq]
  exact ⟨sameName, sameFile, declared.sourcePath.trans otherDeclared.sourcePath.symm,
    declared.relativeImportPath.trans otherDeclared.relativeImportPath.symm,
    declared.properties.trans otherDeclared.properties.symm,
    Bool.eq_iff_iff.mpr (declared.hasChildren.trans otherDeclared.hasChildren.symm),
    declared.fixtureImports.trans otherDeclared.fixtureImports.symm⟩

/-- Built prop by prop, a model is the one that the declarations tell, whatever the collector of
remarks holds before. -/
theorem isDeclared_iff_eq_model (catalog : Catalog) (sourcePath relativePath : String)
    (component : Component) (remarks : List Diagnostic) (model : TestModel) :
    IsDeclared catalog sourcePath relativePath component model ↔
      model = (ofComponent catalog sourcePath relativePath component remarks).model := by
  rw [model_ofComponent]
  constructor
  · intro declared
    exact declared.eq (isDeclared_ofComponent catalog sourcePath relativePath component)
  · intro same
    rw [same]
    exact isDeclared_ofComponent catalog sourcePath relativePath component

end SnapshotGen.Building
