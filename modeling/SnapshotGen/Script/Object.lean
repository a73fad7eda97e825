import SnapshotGen.Script.Binding

/-!
Object and array literals, and the methods that objects and classes have.
-/

namespace SnapshotGen.Script

namespace Grammar

def modifierGroups (usable : Reader Unit) : List (List String) → Reader (List (Role × Node))
  | [] => pure []
  | group :: more => do
    let found ← Reader.optional do
      let word ← Reader.oneOf (group.map modifier)
      usable
      return word
    return found.toList ++ (← modifierGroups usable more)

def methodBody (G : Grammar) (start : Cursor) (marks : List (Role × Node)) : Reader Node := do
  let star ← Reader.optional (Reader.punctNode "*")
  let key ← G.propertyName
  discard <| G.ifTyped (Reader.punct "?")
  let parameters ← G.signature
  let body ← G.block
  Reader.node .method start
    (marks ++ star.toList ++ [(.key, key), (.parameters, parameters), (.body, body)])

def objectMethod (G : Grammar) : Reader Node := do
  let start ← Reader.mark
  let shared := [["async"], ["get", "set"]]
  let groups :=
    if G.dialect.typed then
      [["public", "private", "protected"], ["static"], ["override"], ["readonly"]] ++ shared
    else ["static"] :: shared
  let marks ← modifierGroups (pure ()) groups
  G.methodBody start marks

def objectMember (G : Grammar) : Reader Node :=
  arguments.spread G <|>
  (do
    let start ← Reader.mark
    let key ← G.propertyName
    Reader.punct ":"
    let value ← G.expression false
    Reader.node .pair start [(.key, key), (.value, value)]) <|>
  G.objectMethod <|>
  (do
    let name ← Reader.binding
    let place ← Reader.mark
    Reader.guard (place.filled != some place.left)
    return .mk .shorthand name.text [])

def objectLiteral (G : Grammar) : Reader Node := do
  let start ← Reader.mark
  Reader.punct "\x7b"
  let members ← Reader.separated "," G.objectMember
  Reader.punct "\x7d"
  Reader.node .object start (members.map (.part, ·))

def arrayLiteral (G : Grammar) : Reader Node := do
  let start ← Reader.mark
  Reader.punct "["
  let items ← Reader.separated "," (arguments.spread G <|> G.expression false)
  Reader.punct "]"
  Reader.node .other start (items.map (.part, ·))

end Grammar

end SnapshotGen.Script
