import SnapshotGen.Script.Binding

/-!
Functions, with a word or with an arrow.
-/

namespace SnapshotGen.Script

namespace Grammar

/-- The words in front of the name of a function; the answer tells whether it is a generator. -/
def functionHead : Reader Bool := do
  discard <| Reader.optional (Reader.keyword "async")
  Reader.keyword "function"
  return (← Reader.optional (Reader.punct "*")).isSome

def functionLiteral (G : Grammar) : Reader Node := do
  let start ← Reader.mark
  let generator ← functionHead
  let name ← Reader.optional Reader.binding
  let parameters ← G.signature
  let body ← G.block
  Reader.node (if generator then .other else .functionExpression) start
    (name.toList.map (.name, ·) ++ [(.parameters, parameters), (.body, body)])

/-- A body that nothing closes is, where types are read, a block of its own behind a signature. -/
def functionDeclaration (G : Grammar) : Reader Node := do
  let start ← Reader.mark
  let generator ← functionHead
  let name ← Reader.binding
  let parameters ← G.signature
  (do
    let body ← G.block
    let separate := G.dialect.typed && body.text.toList.getLast? != some '\x7d'
    Reader.node (if generator || separate then .other else .functionDeclaration) start
      [(.name, name), (.parameters, parameters), (.body, body)]) <|>
  (do
    Reader.guard G.dialect.typed
    G.statementEnd false
    Reader.node .other start [(.name, name), (.parameters, parameters)])

def arrowBody (G : Grammar) (tail : Bool) : Reader Node := do
  if ← Reader.aheadChar '\x7b' then G.block <|> G.expression tail
  else G.expression tail

def arrowFrom (G : Grammar) (tail : Bool) (start : Cursor) (head : Role × Node) : Reader Node := do
  Reader.punct "=>"
  let body ← G.arrowBody tail
  Reader.node .arrow start [head, (.body, body)]

def arrow (G : Grammar) (tail : Bool) : Reader Node := do
  let start ← Reader.mark
  (do
    discard <| Reader.optional (modifier "async" <|> asyncWord)
    let parameters ← G.signature
    G.arrowFrom tail start (.parameters, parameters)) <|>
  (do
    discard <| Reader.optional (modifier "async")
    let name ← Reader.binding
    G.arrowFrom tail start (.parameter, name))
where
  asyncWord : Reader (Role × Node) := do
    let word ← Reader.keywordNode "async"
    Reader.guard (← Reader.ahead fun cs => cs.head? == some '(' || cs.head? == some '<')
    return word

end Grammar

end SnapshotGen.Script
