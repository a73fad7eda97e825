import SnapshotGen.Notice
import SnapshotGen.TestModel

/-!
Models are built prop by prop. What there is to remark goes to a collector, which may hold the
remarks on other components already.
-/

namespace SnapshotGen

/-- A model in the making, with the remarks that are held and the notices given so far. -/
structure Building where
  model : TestModel
  remarks : List Diagnostic
  notices : List Notice

namespace Building

def start (sourcePath : String) (component : Component) (remarks : List Diagnostic) : Building where
  model :=
    { componentName := TestModel.nameOf component sourcePath
      fileName := TestModel.fileNameOf sourcePath
      sourcePath
      relativeImportPath := "./" ++ TestModel.fileNameOf sourcePath
      properties := []
      hasChildren := false
      fixtureImports := [] }
  remarks
  notices := []

def remark (about : TestModel → Diagnostic) : StateM Building Unit :=
  modify fun building =>
    { building with remarks := building.remarks ++ [about building.model] }

def give (notice : Notice) : StateM Building Unit :=
  modify fun building => { building with notices := building.notices ++ [notice] }

/-- The kind that a prop is given its value as. Without one it counts as a string. -/
def kindOf (prop : PropDecl) : StateM Building PropKind :=
  match prop.kind? with
  | some kind => return kind
  | none => do
    remark fun model => .missingType prop.name model.componentName model.sourcePath
    return .string

/-- The text of a prop's value: its default, else that of a stand-in. -/
def textOf (catalog : Catalog) (prop : PropDecl) : StateM Building String :=
  match prop.declaredDefault with
  | some text => return text
  | none => do
    remark fun model => .missingDefault prop.name model.componentName model.sourcePath
    let literal := (TestModel.propText.standIn catalog prop).literal
    give (.standIn prop.name literal)
    return literal

def propertyOf (catalog : Catalog) (sourceFile : String) (prop : PropDecl) :
    StateM Building TestProp := do
  let kind ← kindOf prop
  let text ← textOf catalog prop
  return ⟨prop.name, kind, .ofText kind text, sourceFile⟩

def addProperty (property : TestProp) : StateM Building Unit :=
  modify fun building =>
    { building with model.properties := building.model.properties ++ [property] }

/-- The import of a type that has a fixture, unless it is there already. -/
def addImport (catalog : Catalog) (raw : Option String) : StateM Building Unit :=
  match catalog.importLine? raw with
  | some line => modify fun building =>
    if building.model.fixtureImports.contains line then building
    else { building with model.fixtureImports := building.model.fixtureImports ++ [line] }
  | none => return

def addChildren : StateM Building Unit :=
  modify fun building => { building with model.hasChildren := true }

/-- Children are no attribute, whatever they are declared as. -/
def visit (catalog : Catalog) (sourceFile : String) (prop : PropDecl) : StateM Building Unit := do
  if prop.name = TestModel.childrenProp then addChildren
  else
    addProperty (← propertyOf catalog sourceFile prop)
    addImport catalog prop.raw?

def visitAll (catalog : Catalog) (sourceFile : String) (props : List PropDecl) :
    StateM Building Unit :=
  if props.isEmpty then
    remark fun model => .missingProps model.componentName model.sourcePath
  else props.forM (visit catalog sourceFile)

def ofComponent (catalog : Catalog) (sourcePath relativePath : String) (component : Component)
    (remarks : List Diagnostic) : Building :=
  ((visitAll catalog relativePath (component.props.getD [])).run
    (start sourcePath component remarks)).2

/-- The model for a file in which a component was found or not, and the remarks held then. -/
def ofFound (catalog : Catalog) (sourcePath relativePath : String) {Failure : Type}
    (found : Except Failure Component) (remarks : List Diagnostic) :
    Except Failure TestModel × List Diagnostic :=
  match found with
  | .error failure => (.error failure, remarks)
  | .ok component =>
    let building := ofComponent catalog sourcePath relativePath component remarks
    (.ok building.model, building.remarks)

end Building

end SnapshotGen
