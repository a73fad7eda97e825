import SnapshotGen.TestModel

/-!
The text of a snapshot test, line by line.
-/

namespace SnapshotGen

namespace TestModel

def importLines (model : TestModel) : List String :=
  ["import React from 'react';", "import \x7b shallow \x7d from 'enzyme';"] ++
    model.fixtureImports.map (· ++ ";") ++
    ["import " ++ model.componentName ++ " from '" ++ model.relativeImportPath ++ "';"]

def attributeOf (prop : TestProp) : String :=
  prop.value.written prop.name

/-- The tag of the component, which has a child if the component takes children. -/
def tagLines (model : TestModel) : List String :=
  ["      <" ++ model.componentName] ++
    model.properties.map (fun prop => "        " ++ attributeOf prop) ++
    if model.hasChildren then
      ["      >", "        <div>I am child node</div>", "      </" ++ model.componentName ++ ">"]
    else ["      />"]

def testLines (model : TestModel) : List String :=
  model.importLines ++
    ["", "describe('<" ++ model.componentName ++ " />', () => \x7b",
      "  it('renders correctly', () => \x7b", "    const node = ("] ++
    model.tagLines ++
    ["    );", "    const wrapper = shallow(node);", "", "    expect(wrapper).toMatchSnapshot();",
      "  \x7d);", "\x7d);"]

def testText (model : TestModel) : String :=
  String.join (model.testLines.map (· ++ "\n"))

end TestModel

end SnapshotGen
