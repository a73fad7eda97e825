import SnapshotGen.Script.Object
import SnapshotGen.Script.TypeExpression

/-!
Classes: what they extend, and their members.
-/

namespace SnapshotGen.Script

/-- The words `static get` are one token when a line ends behind them. -/
def staticGetLength (cs : List Char) : Nat :=
  match "static".toList.isPrefixOf? cs with
  | none => 0
  | some rest =>
    let blanks := (rest.takeWhile isSpace).length
    match "get".toList.isPrefixOf? (rest.drop blanks) with
    | none => 0
    | some after =>
      if 0 < blanks && (after.takeWhile isSpace).contains '\n' then 9 + blanks else 0

namespace Grammar

def implemented (G : Grammar) : Reader Unit := do
  Reader.keyword "implements"
  discard <| Reader.separated1 "," G.type

def heritage (G : Grammar) : Reader Node := do
  let start ← Reader.mark
  if G.dialect.typed then
    (do
      Reader.keyword "extends"
      let bases ← Reader.separated1 "," do
        let base ← G.operation 15 false
        discard <| Reader.optional G.typeArguments
        return base
      discard <| Reader.optional G.implemented
      Reader.node .heritage start (bases.map (.part, ·))) <|>
    (do
      G.implemented
      Reader.node .heritage start [])
  else
    Reader.keyword "extends"
    let base ← G.expression false
    Reader.node .heritage start [(.part, base)]

/-- A word in front of a member says something about it unless a member may end behind it. -/
def goesOn (G : Grammar) : Reader Unit := do
  Reader.guard !G.endsHere false (← Reader.here)

def memberEnds (G : Grammar) : Reader Unit :=
  if G.dialect.typed then Reader.punct "," <|> G.statementEnd false else G.statementEnd false

def staticBlock (G : Grammar) : Reader Node := do
  let start ← Reader.mark
  Reader.keyword "static"
  let body ← G.block
  Reader.node .other start [(.body, body)]

def accessWords : List String :=
  ["public", "private", "protected"]

def classMethod (G : Grammar) : Reader Node := do
  let start ← Reader.mark
  let shared := [["static"], ["override"], ["readonly"], ["async"], ["get", "set"]]
  let special ← if G.dialect.typed then pure none else Reader.optional (Reader.lexeme staticGetLength)
  let groups :=
    if G.dialect.typed then accessWords :: shared
    else if special.isSome then [["async"], ["get", "set"]]
    else [["static"], ["async"], ["get", "set"]]
  let marks ← modifierGroups G.goesOn groups
  let method ← G.methodBody start marks
  discard <| Reader.optional (Reader.punct ";")
  return method

def methodSignature (G : Grammar) : Reader Node := do
  Reader.guard G.dialect.typed
  let start ← Reader.mark
  discard <| modifierGroups G.goesOn
    [accessWords, ["static", "abstract"], ["override"], ["readonly"], ["async"], ["get", "set"]]
  discard <| Reader.optional (Reader.punct "*")
  discard G.propertyName
  discard <| Reader.optional (Reader.punct "?")
  discard G.signature
  G.memberEnds
  Reader.node .other start []

def indexSignature (G : Grammar) : Reader Node := do
  Reader.guard G.dialect.typed
  let start ← Reader.mark
  discard <| modifierGroups G.goesOn [["static"], ["readonly"]]
  Reader.punct "["
  discard Reader.binding
  discard G.typeAnnotation
  Reader.punct "]"
  discard G.typeAnnotation
  G.memberEnds
  Reader.node .other start []

def fieldWords (G : Grammar) : Reader (List (Role × Node)) :=
  if G.dialect.typed then do
    let front ← modifierGroups G.goesOn [["declare"], accessWords, ["declare"]]
    let back ← modifierGroups G.goesOn
      [["static"], ["override"], ["abstract"], ["readonly"], ["abstract"]]
    if back.isEmpty then return front ++ (← modifierGroups G.goesOn [["accessor"]])
    else return front ++ back
  else modifierGroups G.goesOn [["static"]]

def field (G : Grammar) : Reader Node := do
  let start ← Reader.mark
  let marks ← G.fieldWords
  let key ← G.propertyName
  discard <| G.ifTyped (Reader.punct "?" <|> Reader.punct "!")
  discard <| G.ifTyped G.typeAnnotation
  let value ← Reader.optional do
    Reader.equals
    G.expression true
  let result ← Reader.node .field start
    (marks ++ (.key, key) :: value.toList.map (.value, ·))
  (do
    Reader.guard G.dialect.typed
    Reader.punct ",") <|> G.statementEnd value.isSome
  return result

def classMember (G : Grammar) : Reader (List Node) :=
  (do
    Reader.punct ";"
    return []) <|>
  (do
    return [← G.staticBlock]) <|>
  (do
    let decorators ← Reader.many G.decorator
    let member ← G.classMethod <|> G.methodSignature <|> G.indexSignature <|> G.field
    return decorators ++ [member])

def classBody (G : Grammar) : Reader Node := do
  let start ← Reader.mark
  Reader.punct "\x7b"
  let members ← Reader.many G.classMember
  Reader.punct "\x7d"
  Reader.node .classBody start (members.flatten.map (.part, ·))

def classFrom (G : Grammar) (named : Bool) (start : Cursor) (decorators : List Node) :
    Reader Node := do
  Reader.keyword "class"
  let name ← if named then some <$> Reader.binding else Reader.optional Reader.binding
  discard <| G.ifTyped G.typeParameters
  let heritage ← Reader.optional G.heritage
  let body ← G.classBody
  Reader.node (if named then .classDeclaration else .classExpression) start
    (decorators.map (.part, ·) ++ name.toList.map (.name, ·) ++ heritage.toList.map (.part, ·) ++
      [(.body, body)])

def classLiteral (G : Grammar) : Reader Node := do
  let start ← Reader.mark
  let decorators ← Reader.many G.decorator
  G.classFrom false start decorators

def classDeclaration (G : Grammar) : Reader Node := do
  let start ← Reader.mark
  let decorators ← Reader.many G.decorator
  discard <| G.ifTyped (Reader.keyword "abstract")
  G.classFrom true start decorators

end Grammar

end SnapshotGen.Script
