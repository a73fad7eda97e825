import SnapshotGen.Attribute
import SnapshotGen.Diagnostic
import SnapshotGen.Path
import SnapshotGen.Synthesis

/-!
The model of a test: the component to render, how to import it and its fixtures, and the value of
every prop.
-/

namespace SnapshotGen

structure TestProp where
  name : String
  kind : PropKind
  value : AttributeValue
  sourceFile : String
  deriving DecidableEq, Repr

structure TestModel where
  componentName : String
  fileName : String
  sourcePath : String
  relativeImportPath : String
  properties : List TestProp
  hasChildren : Bool
  fixtureImports : List String
  deriving DecidableEq, Repr

namespace TestModel

def childrenProp : String := "children"

/-- The text a prop is given: its default, or the literal of its stand-in value. A prop without
any type counts as a string. -/
def propText (catalog : Catalog) (prop : PropDecl) : String :=
  match prop.declaredDefault with
  | some text => text
  | none => (standIn prop).literal
where
  standIn (prop : PropDecl) : FakeValue :=
    match prop.type with
    | some _ => prop.synthesize catalog
    | none => { prop with type := some (PropType.ofKind .string) : PropDecl }.synthesize catalog

def testProp (catalog : Catalog) (sourceFile : String) (prop : PropDecl) : TestProp :=
  let kind := prop.kind?.getD .string
  ⟨prop.name, kind, .ofText kind (propText catalog prop), sourceFile⟩

def propDiagnostics (component path : String) (prop : PropDecl) : List Diagnostic :=
  (if prop.kind?.isNone then [.missingType prop.name component path] else []) ++
    (if prop.declaredDefault.isNone then [.missingDefault prop.name component path] else [])

/-- Every import once, in the order of first use. -/
def distinct (imports : List String) : List String :=
  imports.foldl (fun seen line => if seen.contains line then seen else seen ++ [line]) []

def attributeProps (component : Component) : List PropDecl :=
  (component.props.getD []).filter fun prop => prop.name != childrenProp

def fileNameOf (sourcePath : String) : String :=
  String.ofList ((Path.fileStem? sourcePath.toList).getD [])

/-- The name shown for a component: its own, else the name of its file. -/
def nameOf (component : Component) (sourcePath : String) : String :=
  (component.displayName.filter (· ≠ "")).getD (fileNameOf sourcePath)

def ofComponent (catalog : Catalog) (sourcePath relativePath : String) (component : Component) :
    TestModel :=
  let props := attributeProps component
  { componentName := nameOf component sourcePath
    fileName := fileNameOf sourcePath
    sourcePath
    relativeImportPath := "./" ++ fileNameOf sourcePath
    properties := props.map (testProp catalog relativePath)
    hasChildren := (component.props.getD []).any fun prop => prop.name == childrenProp
    fixtureImports := distinct (props.filterMap fun prop => catalog.importLine? prop.raw?) }

def diagnostics (sourcePath : String) (component : Component) : List Diagnostic :=
  let name := nameOf component sourcePath
  if (component.props.getD []).isEmpty then [.missingProps name sourcePath]
  else (attributeProps component).flatMap (propDiagnostics name sourcePath)

end TestModel

end SnapshotGen
