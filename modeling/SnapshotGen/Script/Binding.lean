import SnapshotGen.Script.Grammar

/-!
What stands for values that are still to come: patterns, parameters, and the signatures of
functions.
-/

namespace SnapshotGen.Script

namespace Grammar

def withDefault (G : Grammar) (kind : Kind) (start : Cursor) (pattern : Node) : Reader Node :=
  (do
    Reader.equals
    let value ← G.expression false
    Reader.node kind start [(.left, pattern), (.right, value)]) <|> pure pattern

def restPattern (G : Grammar) : Reader Node := do
  let start ← Reader.mark
  Reader.punct "..."
  let inner ← G.bindingPattern
  Reader.node .other start [(.part, inner)]

def patternMember (G : Grammar) : Reader Node :=
  G.restPattern <|>
  (do
    let start ← Reader.mark
    let key ← G.propertyName
    Reader.punct ":"
    let valueStart ← Reader.mark
    let target ← G.bindingPattern
    let value ← G.withDefault .defaulted valueStart target
    Reader.node .pairPattern start [(.key, key), (.value, value)]) <|>
  (do
    let start ← Reader.mark
    let name ← Reader.binding
    G.withDefault .shorthandDefault start (.mk .shorthand name.text [])) <|>
  (do
    let start ← Reader.mark
    let target ← G.bindingPattern
    Reader.equals
    let value ← G.expression false
    Reader.node .shorthandDefault start [(.left, target), (.right, value)])

def objectPattern (G : Grammar) : Reader Node := do
  let start ← Reader.mark
  Reader.punct "\x7b"
  let members ← Reader.separated "," G.patternMember
  Reader.punct "\x7d"
  Reader.node .objectPattern start (members.map (.part, ·))

def arrayPattern (G : Grammar) : Reader Node := do
  let start ← Reader.mark
  Reader.punct "["
  let items ← Reader.separated "," do
    let itemStart ← Reader.mark
    let target ← G.bindingPattern
    G.withDefault .defaulted itemStart target
  Reader.punct "]"
  Reader.node .arrayPattern start (items.map (.part, ·))

def destructuring (G : Grammar) : Reader Node :=
  G.objectPattern <|> G.arrayPattern

/-- A name, or a member of something. -/
def targetName (G : Grammar) : Reader Node := do
  let start ← Reader.mark
  let name ← Reader.binding <|> (do
    Reader.keyword "this"
    return .mk .other "this" []) <|> Reader.missingName
  let members ← Reader.many
    ((do
      Reader.punct "."
      Reader.anyName <|> Reader.privateName) <|>
    (do
      Reader.punct "["
      let index ← G.sequence false
      Reader.punct "]"
      return index))
  if members.isEmpty then return name
  else Reader.node .other start ((name :: members).map (.part, ·))

def bindingTarget (G : Grammar) : Reader Node :=
  G.restPattern <|> G.destructuring <|> G.targetName

/-- A name or a destructuring pattern, as a declaration has it. A name in front of a value or a type
cannot be missing. -/
def declaredTarget (G : Grammar) : Reader Node :=
  G.destructuring <|> Reader.binding <|> (do
    Reader.guard !(← Reader.ahead fun cs => "=:!".toList.any (cs.head? == some ·))
    Reader.missingName)

/-- A decorator is a name, or the call of what is named. -/
def decoratorFrom (start : Cursor) (name callee : Node) : Option Node → Reader Node
  | none => pure name
  | some given =>
    let text := (callee.text.toList.drop 1).dropWhile isSpace
    Reader.node .call start [(.callee, .mk .other (String.ofList text) []), (.arguments, given)]

def decorator (G : Grammar) : Reader Node := do
  let start ← Reader.mark
  Reader.punct "@"
  G.parenthesized <|> (do
    let first ← Reader.binding
    discard <| Reader.many do
      Reader.punct "."
      Reader.anyName <|> Reader.privateName
    let callee ← Reader.node .other start []
    discard <| G.ifTyped do
      Reader.punct "<"
      discard <| Reader.separated1 "," G.type
      Reader.punct ">"
    decoratorFrom start first callee (← Reader.optional G.arguments))

/-- A word that says something about what follows it, unless it is a name itself. -/
def modifier (text : String) : Reader (Role × Node) := do
  let node ← Reader.keywordNode text
  Reader.guard !(← Reader.ahead fun cs => cs.isEmpty || "(=;\x7d,?!:<)".toList.any (cs.head? == some ·))
  return node

def modifiers (texts : List String) : Reader (List (Role × Node)) :=
  Reader.many (Reader.oneOf (texts.map modifier))

def typedParameter (G : Grammar) : Reader Node := do
  let start ← Reader.mark
  let decorators ← Reader.many G.decorator
  discard <| modifiers ["public", "private", "protected", "override", "readonly"]
  let target ← (do
    Reader.keyword "this"
    return .mk .other "this" []) <|> G.bindingPattern
  discard <| Reader.optional (Reader.punct "?")
  discard <| Reader.optional G.typeAnnotation
  let value ← Reader.optional do
    Reader.equals
    G.expression false
  Reader.node .parameter start
    (decorators.map (.part, ·) ++ (.pattern, target) :: value.toList.map (.value, ·))

def plainParameter (G : Grammar) : Reader Node := do
  let start ← Reader.mark
  let target ← G.bindingPattern
  G.withDefault .defaulted start target

def parameters (G : Grammar) : Reader Node := do
  let start ← Reader.mark
  Reader.punct "("
  let item := if G.dialect.typed then G.typedParameter else G.plainParameter
  let items ← (do
    let items ← Reader.separated1 "," item
    discard <| Reader.optional (Reader.punct ",")
    return items) <|> pure []
  Reader.punct ")"
  Reader.node .parameters start (items.map (.part, ·))

def typeParameter (G : Grammar) : Reader Unit := do
  discard <| Reader.optional (modifier "const")
  discard <| Reader.optional (modifier "in")
  discard <| Reader.optional (modifier "out")
  discard Reader.binding
  discard <| Reader.optional do
    Reader.keyword "extends" <|> Reader.punct ":"
    discard G.type
  discard <| Reader.optional do
    Reader.equals
    discard G.type

def typeParameters (G : Grammar) : Reader Unit := do
  Reader.punct "<"
  discard <| Reader.separated1 "," G.typeParameter
  discard <| Reader.optional (Reader.punct ",")
  Reader.punct ">"

def returnType (G : Grammar) : Reader Unit := do
  let subject : Reader Unit := discard Reader.anyName
  (do
    Reader.keyword "asserts"
    subject
    discard <| Reader.optional do
      Reader.keyword "is"
      discard G.type) <|>
  (do
    subject
    Reader.keyword "is"
    discard G.type) <|>
  discard G.type

def signature (G : Grammar) : Reader Node := do
  discard <| G.ifTyped G.typeParameters
  let parameters ← G.parameters
  discard <| G.ifTyped do
    Reader.punct ":"
    G.returnType
  return parameters

end Grammar

end SnapshotGen.Script
