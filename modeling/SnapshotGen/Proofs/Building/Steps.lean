import SnapshotGen.Building

/-!
What the steps of building a model add to it. A prop adds the same whatever was built before it, but
for an import that is there already; so all props together add what each of them does, in order.
-/

namespace SnapshotGen.Building

open TestModel

/-- The notices on a prop: that a stand-in was made, if one was. -/
def noticesOn (catalog : Catalog) (prop : PropDecl) : List Notice :=
  if prop.declaredDefault.isNone then [.standIn prop.name (propText catalog prop)] else []

def addLine (seen : List String) (line : String) : List String :=
  if seen.contains line then seen else seen ++ [line]

section Steps

variable (catalog : Catalog) (sourceFile : String) (prop : PropDecl) (building : Building)

theorem run_kindOf :
    (kindOf prop).run building = (prop.kind?.getD .string, { building with
      remarks := building.remarks ++
        if prop.kind?.isNone then
          [.missingType prop.name building.model.componentName building.model.sourcePath]
        else [] }) := by
  unfold kindOf
  cases prop.kind? with
  | some kind =>
      simp only [Option.isNone_some, if_neg Bool.false_ne_true, List.append_nil]
      rfl
  | none => rfl

theorem run_textOf :
    (textOf catalog prop).run building = (propText catalog prop, { building with
      remarks := building.remarks ++
        (if prop.declaredDefault.isNone then
          [.missingDefault prop.name building.model.componentName building.model.sourcePath]
        else [])
      notices := building.notices ++ noticesOn catalog prop }) := by
  unfold textOf noticesOn propText
  cases prop.declaredDefault with
  | some text =>
      simp only [Option.isNone_some, if_neg Bool.false_ne_true, List.append_nil]
      rfl
  | none => rfl

theorem run_propertyOf :
    (propertyOf catalog sourceFile prop).run building = (testProp catalog sourceFile prop,
      { building with
        remarks := building.remarks ++
          propDiagnostics building.model.componentName building.model.sourcePath prop
        notices := building.notices ++ noticesOn catalog prop }) := by
  simp only [propertyOf, StateT.run_bind, run_kindOf, run_textOf, propDiagnostics,
    ← List.append_assoc]
  rfl

theorem run_addImport (raw : Option String) :
    (addImport catalog raw).run building = ((), { building with
      model.fixtureImports :=
        (catalog.importLine? raw).toList.foldl addLine building.model.fixtureImports }) := by
  unfold addImport
  cases catalog.importLine? raw with
  | none => rfl
  | some line =>
      change ((), if building.model.fixtureImports.contains line then building else _) = _
      simp only [Option.toList_some, List.foldl_cons, List.foldl_nil, addLine]
      split <;> rfl

end Steps

def isShown (prop : PropDecl) : Bool :=
  prop.name != childrenProp

/-- What was built before some props, and what is built behind them. -/
structure Adds (catalog : Catalog) (sourceFile : String) (building : Building)
    (props : List PropDecl) (later : Building) : Prop where
  componentName : later.model.componentName = building.model.componentName
  fileName : later.model.fileName = building.model.fileName
  sourcePath : later.model.sourcePath = building.model.sourcePath
  relativeImportPath : later.model.relativeImportPath = building.model.relativeImportPath
  properties : later.model.properties =
    building.model.properties ++ (props.filter isShown).map (testProp catalog sourceFile)
  hasChildren : later.model.hasChildren =
    (building.model.hasChildren || props.any (·.name == childrenProp))
  fixtureImports : later.model.fixtureImports =
    ((props.filter isShown).filterMap fun prop => catalog.importLine? prop.raw?).foldl addLine
      building.model.fixtureImports
  remarks : later.remarks = building.remarks ++ (props.filter isShown).flatMap
    (propDiagnostics building.model.componentName building.model.sourcePath)
  notices : later.notices = building.notices ++ (props.filter isShown).flatMap (noticesOn catalog)

variable {catalog : Catalog} {sourceFile : String} {building middle later : Building}

theorem Adds.nil : Adds catalog sourceFile building [] building := by
  constructor <;> simp

theorem Adds.append {props more : List PropDecl}
    (first : Adds catalog sourceFile building props middle)
    (second : Adds catalog sourceFile middle more later) :
    Adds catalog sourceFile building (props ++ more) later where
  componentName := second.componentName.trans first.componentName
  fileName := second.fileName.trans first.fileName
  sourcePath := second.sourcePath.trans first.sourcePath
  relativeImportPath := second.relativeImportPath.trans first.relativeImportPath
  properties := by simp [second.properties, first.properties]
  hasChildren := by simp [second.hasChildren, first.hasChildren, Bool.or_assoc]
  fixtureImports := by simp [second.fixtureImports, first.fixtureImports]
  remarks := by simp [second.remarks, first.remarks, first.componentName, first.sourcePath]
  notices := by simp [second.notices, first.notices]

theorem adds_visit (catalog : Catalog) (sourceFile : String) (prop : PropDecl)
    (building : Building) :
    Adds catalog sourceFile building [prop] ((visit catalog sourceFile prop).run building).2 := by
  by_cases isChildren : prop.name = childrenProp
  · have hidden : isShown prop = false := by simp [isShown, isChildren]
    have step : (visit catalog sourceFile prop).run building =
        ((), { building with model.hasChildren := true }) := by
      rw [visit, if_pos isChildren]
      rfl
    rw [step]
    constructor <;> simp [hidden, isChildren]
  · have shown : isShown prop := by simp [isShown, isChildren]
    have step : (visit catalog sourceFile prop).run building =
        ((), { building with
          model.properties := building.model.properties ++ [testProp catalog sourceFile prop]
          model.fixtureImports :=
            (catalog.importLine? prop.raw?).toList.foldl addLine building.model.fixtureImports
          remarks := building.remarks ++
            propDiagnostics building.model.componentName building.model.sourcePath prop
          notices := building.notices ++ noticesOn catalog prop }) := by
      rw [visit, if_neg isChildren, StateT.run_bind, run_propertyOf]
      exact run_addImport _ _ _
    have asked : [prop].filterMap (fun prop => catalog.importLine? prop.raw?) =
        (catalog.importLine? prop.raw?).toList := by
      cases isLine : catalog.importLine? prop.raw? <;> simp [isLine]
    rw [step]
    refine ⟨rfl, rfl, rfl, rfl, ?_, ?_, ?_, ?_, ?_⟩ <;>
      simp only [List.filter_cons_of_pos shown, List.filter_nil, asked]
    · rfl
    · simp [isChildren]
    · simp
    · simp

theorem adds_forM (catalog : Catalog) (sourceFile : String) (props : List PropDecl)
    (building : Building) :
    Adds catalog sourceFile building props
      ((props.forM (visit catalog sourceFile)).run building).2 := by
  induction props generalizing building with
  | nil => exact .nil
  | cons prop props induction =>
      exact (adds_visit catalog sourceFile prop building).append (induction _)

variable (catalog : Catalog) (sourcePath relativePath : String) (component : Component)
  (remarks : List Diagnostic)

theorem ofComponent_of_no_props (noProps : component.props.getD [] = []) :
    ofComponent catalog sourcePath relativePath component remarks =
      { start sourcePath component remarks with
        remarks := remarks ++ [.missingProps (nameOf component sourcePath) sourcePath] } := by
  rw [ofComponent, noProps]
  rfl

theorem adds_ofComponent (hasProps : component.props.getD [] ≠ []) :
    Adds catalog relativePath (start sourcePath component remarks) (component.props.getD [])
      (ofComponent catalog sourcePath relativePath component remarks) := by
  rw [ofComponent, visitAll, if_neg (by simpa using hasProps)]
  exact adds_forM _ _ _ _

/-- A model that is built is the model of the component, whatever is remarked on the way. -/
theorem model_ofComponent :
    (ofComponent catalog sourcePath relativePath component remarks).model =
      TestModel.ofComponent catalog sourcePath relativePath component := by
  by_cases noProps : component.props.getD [] = []
  · rw [ofComponent_of_no_props _ _ _ _ _ noProps]
    simp only [TestModel.ofComponent, attributeProps, noProps]
    rfl
  · have adds := adds_ofComponent catalog sourcePath relativePath component remarks noProps
    rw [TestModel.mk.injEq]
    exact ⟨adds.componentName, adds.fileName, adds.sourcePath, adds.relativeImportPath,
      adds.properties, adds.hasChildren, adds.fixtureImports⟩

theorem remarks_ofComponent :
    (ofComponent catalog sourcePath relativePath component remarks).remarks =
      remarks ++ diagnostics sourcePath component := by
  by_cases noProps : component.props.getD [] = []
  · rw [ofComponent_of_no_props _ _ _ _ _ noProps, diagnostics, noProps]
    rfl
  · rw [(adds_ofComponent catalog sourcePath relativePath component remarks noProps).remarks,
      diagnostics, if_neg (by simpa using noProps)]
    rfl

theorem notices_ofComponent :
    (ofComponent catalog sourcePath relativePath component remarks).notices =
      (attributeProps component).flatMap (noticesOn catalog) := by
  by_cases noProps : component.props.getD [] = []
  · rw [ofComponent_of_no_props _ _ _ _ _ noProps, attributeProps, noProps]
    rfl
  · rw [(adds_ofComponent catalog sourcePath relativePath component remarks noProps).notices]
    rfl

end SnapshotGen.Building
