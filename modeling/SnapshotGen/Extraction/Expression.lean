import SnapshotGen.Script.Node

/-!
What the nodes of a script mean where components are sought.
-/

namespace SnapshotGen.Script.Node

def unquoted (text : String) : String :=
  String.ofList (text.toList.drop 1).dropLast

def stringValue? (node : Node) : Option String :=
  if node.kind = .string then some (unquoted node.text) else none

def key? (node : Node) : Option String :=
  match node.kind with
  | .identifier | .shorthand | .privateName | .number => some node.text
  | .string => node.stringValue?
  | _ => none

def givenArguments (node : Node) : List Node :=
  match node.child? .arguments with
  | some given =>
    if given.kind = .arguments then given.childNodes.filter isPart else []
  | none => []

def elementMakers : List String :=
  ["React.createElement", "createElement"]

def makesElement (node : Node) : Bool :=
  node.kind == .element ||
    node.kind == .call && (node.child? .callee).any fun callee => elementMakers.contains callee.text

def rendersElement (node : Node) : Bool :=
  node.any makesElement

end SnapshotGen.Script.Node
