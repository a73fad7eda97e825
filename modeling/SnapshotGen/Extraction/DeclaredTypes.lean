import SnapshotGen.Component
import SnapshotGen.Extraction.Survey

/-!
The members of a `propTypes` object as props. A shape has an object of its own, which may be a
variable of the script, so reading is bounded by a number of objects inside one another.
-/

namespace SnapshotGen.Extraction

open Script

/-- A prop, or a spread that is passed over. -/
inductive Declared
  | prop (found : PropDecl)
  | spread (text : String)

namespace Declared

def prop? : Declared → Option PropDecl
  | prop found => some found
  | spread _ => none

def spread? : Declared → Option String
  | prop _ => none
  | spread text => some text

end Declared

def requiredMember : String := "isRequired"

/-- A type expression without `.isRequired`, and whether it had it. -/
def splitRequired (value : Node) : Node × Bool :=
  let value := value.unparenthesized
  if value.kind = .member && (value.child? .property).any (·.text == requiredMember) then
    match value.child? .object with
    | some object => (object, true)
    | none => (value, false)
  else (value, false)

def typeNamespaces : List String :=
  ["PropTypes", "React.PropTypes"]

def typeTag? (node : Node) : Option String := do
  if node.kind ≠ .member then none
  else
    let object ← node.child? .object
    if typeNamespaces.contains object.text then return (← node.child? .property).text else none

def calledKind? : String → Option PropKind
  | "shape" => some .shape
  | "exact" => some .exact
  | "arrayOf" => some .arrayOf
  | "objectOf" => some .objectOf
  | "oneOf" => some .enum
  | "oneOfType" => some .union
  | "instanceOf" => some .instanceOf
  | _ => none

def kindOf (expression : Node) : PropKind :=
  match expression.kind with
  | .member => ((typeTag? expression).bind PropKind.ofTag?).getD .custom
  | .call => (((expression.child? .callee).bind typeTag?).bind calledKind?).getD .custom
  | _ => .custom

def fieldsObject? (survey : Survey) (expression : Node) : Option Node :=
  if expression.kind = .call && (kindOf expression = .shape || kindOf expression = .exact) then
    expression.givenArguments.head?.bind survey.object?
  else none

def declaredProp (name : String) (value : Node) (fields : Option (List PropDecl)) : PropDecl :=
  let (expression, required) := splitRequired value
  ⟨name, some ⟨some (kindOf expression), some value.text, fields⟩, required, none⟩

def shorthandProp (name : String) : PropDecl :=
  ⟨name, some ⟨some .custom, some name, none⟩, false, none⟩

def pair? (member : Node) : Option (String × Node) := do
  return (← (← member.child? .key).key?, ← member.child? .value)

/-- What a member of a `propTypes` object declares, when `declared?` reads the objects of shapes. A
spread inside a shape comes in front of the prop that has the shape. -/
def memberDeclared? (survey : Survey) (declared? : Node → Option (List Declared)) (member : Node) :
    Option (List Declared) :=
  match member.kind with
  | .pair =>
    match pair? member with
    | none => some []
    | some (name, value) =>
      match fieldsObject? survey (splitRequired value).1 with
      | none => some [.prop (declaredProp name value none)]
      | some object => do
        let inner ← declared? object
        let spreads := (inner.filterMap Declared.spread?).map .spread
        return spreads ++ [.prop (declaredProp name value (some (inner.filterMap Declared.prop?)))]
  | .shorthand => some [.prop (shorthandProp member.text)]
  | .spread => some [.spread member.text]
  | _ => some []

/-- What the members of a `propTypes` object declare, in their order; `none` if more than a number
of objects would have to be read inside one another. -/
def declared? (survey : Survey) : Nat → Node → Option (List Declared)
  | 0, _ => none
  | n + 1, object =>
    (object.childNodes.mapM (memberDeclared? survey (declared? survey n))).map List.flatten

end SnapshotGen.Extraction
