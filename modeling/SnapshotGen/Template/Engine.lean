import SnapshotGen.Disk.Tree
import SnapshotGen.Template.Render
import SnapshotGen.TestText

/-!
Engines write tests from their models by a template: the builtin one, or one of the user's.
-/

namespace SnapshotGen

structure Engine where
  name : String
  template : Template.Tree

namespace Engine

open Template (Value World)

inductive Failure
  | malformed (name : String)
  | missingParent (name parent : String)
  | circularParent (name : String)
  | missingLibrary (name library : String)
  | failed (name : String) (inMacro : Option (String × String))
  | inaccessible (path reason : String)
  deriving DecidableEq, Repr

namespace Failure

def cause : Failure → String
  | malformed name => "Failed to parse '" ++ name ++ "'"
  | missingParent name parent =>
    "Template '" ++ name ++ "' is inheriting from '" ++ parent ++
      "', which doesn't exist or isn't loaded."
  | circularParent name =>
    "Circular extend detected for template '" ++ name ++ "'. Inheritance chain: `[" ++
      Text.quoted name ++ "]`"
  | missingLibrary name library =>
    "Template `" ++ name ++ "` loads macros from `" ++ library ++ "` which isn't present in Tera"
  | failed name none => "Failed to render '" ++ name ++ "'"
  | failed name (some (space, inMacro)) =>
    "Failed to render '" ++ name ++ "': error while rendering macro `" ++ space ++ "::" ++ inMacro ++
      "`"
  | inaccessible _ reason => reason

def message : Failure → String
  | inaccessible path reason => "IO error at " ++ path ++ ": " ++ reason
  | failure => "Template error: " ++ failure.cause

end Failure

/-- The engine of a template under a name. A template continues no other one, for there is none. -/
def ofText (name text : String) : Except Failure Engine :=
  match Template.Tree.ofText? text with
  | none => .error (.malformed name)
  | some template =>
    match template.parent, template.libraries.find? (·.1 != name) with
    | some parent, _ =>
      .error (if parent = name then .circularParent name else .missingParent name parent)
    | none, some (library, _) => .error (.missingLibrary name library)
    | none, none => .ok ⟨name, template⟩

def ofFile (path : String) (content : Except FileProblem String) : Except Failure Engine :=
  match content with
  | .ok text => ofText path text
  | .error problem => .error (.inaccessible path problem.message)

def builtinName : String := "index.test.js"

def builtinLines : List String := [
  "import React from 'react';",
  "import \x7b shallow \x7d from 'enzyme';",
  "\x7b% for statement in fixture_imports %\x7d\x7b\x7b statement \x7d\x7d;",
  "\x7b% endfor %\x7dimport \x7b\x7b component_name \x7d\x7d from '\x7b\x7b relative_import_path \x7d\x7d';",
  "",
  "describe('<\x7b\x7b component_name \x7d\x7d />', () => \x7b",
  "  it('renders correctly', () => \x7b",
  "    const node = (",
  "      <\x7b\x7b component_name \x7d\x7d",
  "\x7b% for prop in properties %\x7d        \x7b\x7b prop.attribute \x7d\x7d",
  "\x7b% endfor %\x7d\x7b% if has_children %\x7d      >",
  "        <div>I am child node</div>",
  "      </\x7b\x7b component_name \x7d\x7d>",
  "\x7b% else %\x7d      />",
  "\x7b% endif %\x7d    );",
  "    const wrapper = shallow(node);",
  "",
  "    expect(wrapper).toMatchSnapshot();",
  "  \x7d);",
  "\x7d);"]

def builtinText : String :=
  Text.ofLines builtinLines

def builtin : Except Failure Engine :=
  ofText builtinName builtinText

def propValue (prop : TestProp) : Value :=
  .record [("attribute", .text (TestModel.attributeOf prop)), ("name", .text prop.name),
    ("prop_type", .text prop.kind.tag), ("source_file", .text prop.sourceFile),
    ("value", .text prop.value.text)]

def modelValues (model : TestModel) : List (String × Value) :=
  [("component_name", .text model.componentName),
    ("file_name", .text model.fileName),
    ("fixture_imports", .list (model.fixtureImports.map .text)),
    ("has_children", .flag model.hasChildren),
    ("properties", .list (model.properties.map propValue)),
    ("relative_import_path", .text model.relativeImportPath)]

/-- The text of a test, or why there is none. A template that calls itself without end gives
neither. -/
def render (engine : Engine) (environment : List (String × String)) (model : TestModel) :
    Option (Except Failure String) :=
  let world : World := ⟨engine.name, engine.template, modelValues model, environment⟩
  (world.renderAll engine.template.body [⟨.origin, [], none⟩]).run.map fun
    | .ok (text, _) => .ok text
    | .error fault => .error (.failed engine.name fault.inMacro)

end Engine

end SnapshotGen
