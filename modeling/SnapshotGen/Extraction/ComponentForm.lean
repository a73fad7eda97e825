import SnapshotGen.Extraction.Comment
import SnapshotGen.Extraction.Expression

/-!
The forms in which a script defines a component: a class, a function, or a name that only an
assignment tells to be one.
-/

namespace SnapshotGen.Extraction

open Script

inductive Form
  | classLike
  | function
  | assigned
  deriving DecidableEq, Repr

def componentBases : List String :=
  ["Component", "PureComponent", "React.Component", "React.PureComponent"]

def baseName (heritage : String) : String :=
  let base := Text.trimStart (dropLeading "extends".toList (Text.trim heritage.toList))
  String.ofList (base.takeWhile fun c => c != '<' && c != '(' && !Text.isBlank c)

def extendsComponent (node : Node) : Bool :=
  (node.childNodes.find? (·.kind == .heritage)).any fun heritage =>
    componentBases.contains (baseName heritage.text)

def members (node : Node) : List Node :=
  ((node.child? .body).map Node.childNodes).getD []

def hasMethod (node : Node) (name : String) : Bool :=
  (members node).any fun member =>
    member.kind == .method && !member.hasKeyword "static" &&
      (member.child? .key).any (·.text == name)

def isComponentClass (node : Node) : Bool :=
  extendsComponent node || hasMethod node "render"

def returned? (body : Node) : Option Node := do
  let statement ← body.childNodes.find? (·.kind == .returned)
  let value ← statement.childNodes.find? Node.isPart
  return value.unparenthesized

/-- A member of a class that gives a static property, with the value it gives. -/
def staticValueOf? (name : String) (member : Node) : Option (Option Node) :=
  if !member.hasKeyword "static" then none
  else
    match member.kind with
    | .field =>
      if (member.child? .key).bind Node.key? = some name then some (member.child? .value) else none
    | .method =>
      if member.hasKeyword "get" && (member.child? .key).any (·.text == name) then
        some ((member.child? .body).bind returned?)
      else none
    | _ => none

def staticMember? (node : Node) (name : String) : Option Node :=
  ((members node).findSome? (staticValueOf? name)).join

def plainComponent? (node : Node) : Option (Node × Form) :=
  match node.kind with
  | .arrow | .functionExpression => if node.rendersElement then some (node, .function) else none
  | .classExpression => if isComponentClass node then some (node, .classLike) else none
  | _ => none

mutual

/-- The component that an expression defines, also inside parentheses or handed to a call. -/
def inlineComponent? : Node → Option (Node × Form)
  | .mk .parenthesized _ children => insideParentheses? children
  | .mk .call _ children => inCall? children
  | .mk kind text children => plainComponent? (.mk kind text children)

def insideParentheses? : List (Role × Node) → Option (Node × Form)
  | [] => none
  | (_, child) :: more => if child.isPart then inlineComponent? child else insideParentheses? more

def inCall? : List (Role × Node) → Option (Node × Form)
  | [] => none
  | (.arguments, .mk .arguments _ items) :: _ => firstInline? items
  | _ :: more => inCall? more

def firstInline? : List (Role × Node) → Option (Node × Form)
  | [] => none
  | (_, child) :: more => (inlineComponent? child).or (firstInline? more)

end

/-- What a default export stands for: a name, or a component of its own. -/
inductive Target
  | named (name : String)
  | inline (node : Node) (form : Form)

def plainTarget? (node : Node) : Option Target :=
  (inlineComponent? node).map fun found => .inline found.1 found.2

mutual

/-- What an exported expression stands for. A call stands for the first of its arguments that
stands for anything, else for what the call that it calls stands for. -/
def target? : Node → Option Target
  | .mk .parenthesized _ children => targetInside? children
  | .mk .identifier text _ => some (.named text)
  | .mk .call _ children => (targetInCall? children).or (targetOfCallee? children)
  | .mk kind text children => plainTarget? (.mk kind text children)

def targetInside? : List (Role × Node) → Option Target
  | [] => none
  | (_, child) :: more => if child.isPart then target? child else targetInside? more

def targetInCall? : List (Role × Node) → Option Target
  | [] => none
  | (.arguments, .mk .arguments _ items) :: _ => firstTarget? items
  | _ :: more => targetInCall? more

def targetOfCallee? : List (Role × Node) → Option Target
  | [] => none
  | (.callee, child) :: _ => if child.kind = .call then target? child else none
  | _ :: more => targetOfCallee? more

def firstTarget? : List (Role × Node) → Option Target
  | [] => none
  | (_, child) :: more => (target? child).or (firstTarget? more)

end

end SnapshotGen.Extraction
