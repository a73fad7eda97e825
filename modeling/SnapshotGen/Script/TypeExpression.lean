import SnapshotGen.Script.Binding

/-!
Types. Their trees keep nothing but their text: no question about components depends on more.
-/

namespace SnapshotGen.Script

namespace Grammar

def typeArguments (G : Grammar) : Reader Unit := do
  Reader.punct "<"
  discard <| Reader.separated1 "," G.type
  discard <| Reader.optional (Reader.punct ",")
  Reader.punct ">"

def qualifiedName (name : Reader Node) : Reader Unit := do
  discard name
  discard <| Reader.many do
    Reader.punct "."
    discard Reader.anyName

def memberEnd (G : Grammar) : Reader Unit :=
  Reader.punct "," <|> G.statementEnd false

def typeMember (G : Grammar) : Reader Unit := do
  discard <| modifiers ["public", "private", "protected", "static", "override", "readonly"]
  discard <| Reader.optional ((Reader.punct "-" <|> Reader.punct "+") *> Reader.keyword "readonly")
  (do
    Reader.punct "["
    discard Reader.binding
    (do
      Reader.punct ":"
      discard G.type) <|>
    (do
      Reader.keyword "in"
      discard G.type
      discard <| Reader.optional do
        Reader.keyword "as"
        discard G.type)
    Reader.punct "]"
    discard <| Reader.optional (Reader.punct "-?" <|> Reader.punct "+?" <|> Reader.punct "?")
    discard <| Reader.optional G.typeAnnotation) <|>
  (do
    discard <| Reader.optional (modifier "abstract")
    discard <| Reader.optional (modifier "new")
    discard G.signature) <|>
  (do
    Reader.keyword "new"
    discard G.signature) <|>
  (do
    discard <| modifiers ["async", "get", "set"]
    discard <| Reader.optional (Reader.punct "*")
    discard G.propertyName
    discard <| Reader.optional (Reader.punct "?")
    (discard G.signature) <|> (discard <| Reader.optional G.typeAnnotation))

/-- Members between braces, with commas, semicolons or line ends between them. -/
def objectType (G : Grammar) : Reader Unit := do
  Reader.punct "\x7b"
  discard <| Reader.optional (Reader.punct "," <|> Reader.punct ";")
  discard <| Reader.many do
    G.typeMember
    G.memberEnd
  discard <| Reader.optional G.typeMember
  Reader.punct "\x7d"

def tupleMember (G : Grammar) : Reader Unit :=
  (do
    discard <| Reader.optional (Reader.punct "...")
    discard Reader.binding
    discard <| Reader.optional (Reader.punct "?")
    discard G.typeAnnotation) <|>
  (do
    discard <| Reader.optional (Reader.punct "...")
    discard G.type
    discard <| Reader.optional (Reader.punct "?"))

def queried (G : Grammar) : Reader Unit := do
  (do
    Reader.keyword "import"
    discard G.arguments) <|> (discard Reader.anyName)
  discard <| Reader.many do
    Reader.punct "." <|> Reader.punct "?."
    discard (Reader.anyName <|> Reader.privateName)
  discard <| Reader.optional G.typeArguments

def primaryType (G : Grammar) : Reader Unit :=
  Reader.oneOf [
    (do
      Reader.punct "("
      discard G.type
      Reader.punct ")"),
    G.objectType,
    (do
      Reader.punct "["
      discard <| Reader.separated "," G.tupleMember
      Reader.punct "]"),
    (do
      Reader.keyword "typeof"
      G.queried),
    discard Reader.string,
    (do
      discard <| Reader.optional (Reader.punct "-" <|> Reader.punct "+")
      discard Reader.number),
    discard (template G.type),
    Reader.punct "*",
    (do
      Reader.keyword "import"
      discard G.arguments
      discard <| Reader.many do
        Reader.punct "."
        discard Reader.anyName
      discard <| Reader.optional G.typeArguments),
    Reader.oneOf (["this", "void", "null", "true", "false", "undefined", "const"].map
      Reader.keyword),
    (do
      Reader.keyword "unique"
      Reader.keyword "symbol"),
    (do
      qualifiedName (Reader.binding <|> Reader.missingName)
      discard <| Reader.optional G.typeArguments)]

def postfixType (G : Grammar) : Reader Unit := do
  primaryType G
  discard <| Reader.many do
    let c ← Reader.here
    Reader.guard !(c.rest.takeWhile isSpace).any (· == '\n')
    Reader.punct "["
    discard <| Reader.optional G.type
    Reader.punct "]"

def prefixedType (G : Grammar) : Reader Unit := do
  discard <| Reader.many (Reader.oneOf [modifier "keyof", modifier "readonly"])
  (do
    Reader.keyword "infer"
    discard Reader.binding
    discard <| Reader.optional do
      Reader.keyword "extends"
      prefixless G) <|>
  (do
    Reader.punct "?"
    postfixType G) <|>
  postfixType G
where
  prefixless (G : Grammar) : Reader Unit := postfixType G

def functionType (G : Grammar) : Reader Unit := do
  discard <| Reader.optional (Reader.keyword "abstract")
  discard <| Reader.optional (Reader.keyword "new")
  discard <| Reader.optional G.typeParameters
  discard G.parameters
  Reader.punct "=>"
  G.returnType

def typeBody (G : Grammar) : Reader Node := do
  let start ← Reader.mark
  G.functionType <|> (do
    discard <| Reader.optional (Reader.punct "|" <|> Reader.punct "&")
    let part := prefixedType G <|> G.functionType
    part
    discard <| Reader.many do
      Reader.punct "|" <|> Reader.punct "&"
      part
    discard <| Reader.optional do
      Reader.keyword "extends"
      discard G.type
      Reader.punct "?"
      discard G.type
      Reader.punct ":"
      discard G.type)
  Reader.node .other start []

end Grammar

end SnapshotGen.Script
