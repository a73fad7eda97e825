import SnapshotGen.Proofs.Template.Plain
import SnapshotGen.Template.Engine

/-!
The builtin template: it is read as a plain template, and what this writes for a model is the text
of the test, line by line.
-/

namespace SnapshotGen.Engine

open Template
open Template.Plain

def line (s : String) : String :=
  s ++ "\n"

def childPart : Plain :=
  .text (line "      >" ++ line "        <div>I am child node</div>" ++ "      </") <|
  .value ["component_name"] <| .text (line ">") .done

def closedPart : Plain :=
  .text (line "      />") .done

/-- The builtin template as it is read: the text between two tags is one part. -/
def builtinPlain : Plain :=
  .text (line "import React from 'react';" ++ line "import \x7b shallow \x7d from 'enzyme';") <|
  .loop "statement" ["fixture_imports"] (.value ["statement"] <| .text (line ";") .done) <|
  .text "import " <| .value ["component_name"] <|
  .text " from '" <| .value ["relative_import_path"] <|
  .text (line "';" ++ line "" ++ "describe('<") <| .value ["component_name"] <|
  .text (line " />', () => \x7b" ++ line "  it('renders correctly', () => \x7b" ++
    line "    const node = (" ++ "      <") <| .value ["component_name"] <|
  .text (line "") <|
  .loop "prop" ["properties"]
    (.text "        " <| .value ["prop", "attribute"] <| .text (line "") .done) <|
  .branch ["has_children"] childPart closedPart <|
  .text (line "    );" ++ line "    const wrapper = shallow(node);" ++ line "" ++
    line "    expect(wrapper).toMatchSnapshot();" ++ line "  \x7d);" ++ line "\x7d);") .done

theorem toList_builtinText :
    builtinText.toList = builtinLines.flatMap fun line => line.toList ++ ['\n'] := by
  simp only [builtinText, Text.ofLines, String.toList_join, List.flatMap_map, String.toList_append]
  rfl

theorem ofText?_builtinText : Tree.ofText? builtinText = some builtinPlain.template := by
  have read : (Tree.ofText? builtinText).any builtinPlain.isTemplate = true := by
    unfold Tree.ofText?
    rw [toList_builtinText]
    decide +kernel
  obtain ⟨template, found, same⟩ := (Option.any_eq_true _ _).mp read
  rw [found, eq_of_isTemplate same]

theorem ofText_of_plain {text : String} {plain : Plain}
    (read : Tree.ofText? text = some plain.template) (name : String) :
    ofText name text = .ok ⟨name, plain.template⟩ := by
  unfold ofText
  rw [read]
  rfl

theorem builtin_eq : builtin = .ok ⟨builtinName, builtinPlain.template⟩ :=
  ofText_of_plain ofText?_builtinText builtinName

section

variable {world : World} {model : TestModel}

def origin : Frames :=
  [⟨.origin, [], none⟩]

theorem seen_origin (values : world.values = modelValues model) {path : List String}
    (ordinary : path ≠ [everything]) {value : Value}
    (found : (Value.record (modelValues model)).at? path = some value) :
    seen world origin path = some value := by
  rw [seen_eq_value? _ ordinary, ← found, ← values]
  cases path <;> rfl

theorem written_statement (world : World) (statement : String) (index : Nat) (isLast : Bool) :
    (Plain.value ["statement"] (.text (line ";") .done)).written world
      (⟨.loop, [], some ⟨none, "statement", index, isLast, "", .text statement⟩⟩ :: origin) =
      some (line (statement ++ ";")) := by
  have found : seen world
      (⟨.loop, [], some ⟨none, "statement", index, isLast, "", .text statement⟩⟩ :: origin)
      ["statement"] = some (.text statement) :=
    seen_eq_value? _ (by decide)
  rw [written_value found, written_text]
  simp only [written, Option.map_some, Value.shown, line, String.append_assoc, String.append_empty]

theorem written_attribute (world : World) (prop : TestProp) (index : Nat) (isLast : Bool) :
    (Plain.text "        " (.value ["prop", "attribute"] (.text (line "") .done))).written world
      (⟨.loop, [], some ⟨none, "prop", index, isLast, "", propValue prop⟩⟩ :: origin) =
      some (line ("        " ++ TestModel.attributeOf prop)) := by
  have found : seen world
      (⟨.loop, [], some ⟨none, "prop", index, isLast, "", propValue prop⟩⟩ :: origin)
      ["prop", "attribute"] = some (.text (TestModel.attributeOf prop)) :=
    seen_eq_value? _ (by decide)
  rw [written_text, written_value found, written_text]
  simp only [written, Option.map_some, Value.shown, line, String.append_assoc, String.append_empty,
    String.empty_append]

theorem written_children {componentName : String}
    (component : seen world origin ["component_name"] = some (.text componentName))
    (hasChildren : Bool) :
    (if hasChildren then childPart else closedPart).written world origin =
      some (String.join ((if hasChildren then
        ["      >", "        <div>I am child node</div>", "      </" ++ componentName ++ ">"]
        else ["      />"]).map line)) := by
  cases hasChildren with
  | true =>
    change childPart.written world origin = some (String.join (List.map line [_, _, _]))
    unfold childPart
    rw [written_text, written_value component, written_text]
    simp only [written, Option.map_some, Value.shown, List.map_cons, List.map_nil,
      String.join_cons, String.join_nil, line, String.append_assoc, String.append_empty]
  | false =>
    exact written_text ..

theorem written_builtinPlain (values : world.values = modelValues model) :
    builtinPlain.written world origin = some model.testText := by
  have component : seen world origin ["component_name"] = some (.text model.componentName) :=
    seen_origin values (by decide) rfl
  have path : seen world origin ["relative_import_path"] = some (.text model.relativeImportPath) :=
    seen_origin values (by decide) rfl
  have children : seen world origin ["has_children"] = some (.flag model.hasChildren) :=
    seen_origin values (by decide) rfl
  have imports : seen world origin ["fixture_imports"] =
      some (.list (model.fixtureImports.map .text)) :=
    seen_origin values (by decide) rfl
  have properties : seen world origin ["properties"] =
      some (.list (model.properties.map propValue)) :=
    seen_origin values (by decide) rfl
  have statements := acrossRounds_map (written_statement world) model.fixtureImports 0
  have attributes := acrossRounds_map (written_attribute world) model.properties 0
  unfold builtinPlain
  rw [written_text, written_loop imports rfl statements, written_text, written_value component,
    written_text, written_value path, written_text, written_value component, written_text,
    written_value component, written_text, written_loop properties rfl attributes,
    written_branch children (written_children component _), written_text]
  simp only [written, Option.map_some, Value.shown, TestModel.testText, TestModel.testLines,
    TestModel.importLines, TestModel.tagLines, line, List.map_append, List.map_map, List.map_cons,
    List.map_nil, Function.comp_def, String.join_append, String.join_cons, String.join_nil,
    String.append_assoc, String.append_empty, String.empty_append]
  rfl

end

theorem render_builtinPlain (environment : List (String × String)) (model : TestModel) :
    (⟨builtinName, builtinPlain.template⟩ : Engine).render environment model =
      some (.ok model.testText) := by
  let world : World := ⟨builtinName, builtinPlain.template, modelValues model, environment⟩
  have writes : builtinPlain.written world origin = some model.testText :=
    written_builtinPlain rfl
  have rendered : world.renderAll builtinPlain.template.body origin =
      pure (model.testText, origin, .onward) :=
    renderAll_nodes writes
  unfold origin at rendered
  simp only [render, world] at rendered ⊢
  rw [rendered]
  rfl

/-- The builtin template refines the text of a test: it is read, and for every model it gives that
text. -/
theorem render_builtin :
    ∃ engine, builtin = .ok engine ∧
      ∀ environment model, engine.render environment model = some (.ok model.testText) :=
  ⟨_, builtin_eq, render_builtinPlain⟩

end SnapshotGen.Engine
