import SnapshotGen.Component
import SnapshotGen.Extraction.Survey

/-!
The defaults of props: those of a destructured first parameter, and those of `defaultProps`.
-/

namespace SnapshotGen.Extraction

open Script

abbrev Default := String × String

def firstParameter? (node : Node) : Option Node :=
  (node.child? .parameter).or
    ((node.child? .parameters).bind fun parameters => parameters.childNodes.find? Node.isPart)

/-- The object pattern of a parameter, behind a default of its own and a type. -/
def objectPattern? : Node → Option Node
  | .mk .objectPattern text children => some (.mk .objectPattern text children)
  | .mk .defaulted _ children => inRole? .left children
  | .mk .parameter _ children => inRole? .pattern children
  | .mk .parenthesized _ children => inside? children
  | _ => none
where
  inRole? (role : Role) : List (Role × Node) → Option Node
    | [] => none
    | (own, child) :: more => if own = role then objectPattern? child else inRole? role more
  inside? : List (Role × Node) → Option Node
    | [] => none
    | (_, child) :: more => if child.isPart then objectPattern? child else inside? more

def patternDefault? (member : Node) : Option Default :=
  match member.kind with
  | .shorthandDefault => do
    return (← (← member.child? .left).key?, (← member.child? .right).text)
  | .pairPattern => do
    let key ← member.child? .key
    let value ← member.child? .value
    if value.kind = .defaulted then return (← key.key?, (← value.child? .right).text) else none
  | _ => none

def parameterDefaults (node : Node) : List Default :=
  match (firstParameter? node).bind objectPattern? with
  | some pattern => pattern.childNodes.filterMap patternDefault?
  | none => []

def objectDefault? (member : Node) : Option Default :=
  if member.kind = .pair then do
    return (← (← member.child? .key).key?, (← member.child? .value).text)
  else none

def objectDefaults (object : Node) : List Default :=
  object.childNodes.filterMap objectDefault?

/-- All defaults of a component, the ones that count more behind the others. -/
def defaultsOf (survey : Survey) (candidate : Candidate) : List Default :=
  let own := if candidate.form = .classLike then [] else parameterDefaults candidate.node
  let given := (survey.staticValue? candidate "defaultProps").bind survey.object?
  own ++ (given.map objectDefaults).getD []

/-- Gives the first prop of the name its default; a name that is not declared becomes a prop
without a type. -/
def attachDefault (props : List PropDecl) (default : Default) : List PropDecl :=
  match props with
  | [] => [.untyped default.1 default.2]
  | prop :: more =>
    if prop.name = default.1 then { prop with declaredDefault := some default.2 } :: more
    else prop :: attachDefault more default

def attachDefaults (props : List PropDecl) (defaults : List Default) : List PropDecl :=
  defaults.foldl attachDefault props

end SnapshotGen.Extraction
