import SnapshotGen.Script.Expression

/-!
Statements and declarations.
-/

namespace SnapshotGen.Script

namespace Grammar

/-! ### Variables -/

def declarator (G : Grammar) (tail : Bool) : Reader Node := do
  let start ← Reader.mark
  let target ← G.declaredTarget
  discard <| G.ifTyped (Reader.optional (Reader.punct "!") *> G.typeAnnotation)
  let value ← Reader.optional do
    Reader.equals
    G.expression tail
  Reader.node .declarator start ((.name, target) :: value.toList.map (.value, ·))

def declarators (G : Grammar) (tail : Bool) : Reader (List Node) := do
  let first ← G.declarator tail
  let more ← Reader.many do
    G.behindOperand tail (Reader.sign "," [])
    G.declarator tail
  return first :: more

def declaringWord : Reader Unit :=
  Reader.keyword "const" <|> Reader.keyword "let" <|> Reader.keyword "var"

def variableStatement (G : Grammar) : Reader Node := do
  let start ← Reader.mark
  declaringWord
  let items ← G.declarators true
  G.statementEnd true
  Reader.node .variableDeclaration start (items.map (.part, ·))

/-! ### Plain statements -/

def expressionStatement (G : Grammar) : Reader Node := do
  let start ← Reader.mark
  let value ← G.sequence true
  G.statementEnd true
  Reader.node .expressionStatement start [(.part, value)]

def labeled (G : Grammar) : Reader Node := do
  let start ← Reader.mark
  discard Reader.binding
  Reader.punct ":"
  let body ← G.statement
  Reader.node .other start [(.body, body)]

/-- A statement of a word and, maybe, an expression behind it. -/
def wordStatement (G : Grammar) (kind : Kind) (word : String) (value : Reader (Option Node)) :
    Reader Node := do
  let start ← Reader.mark
  Reader.keyword word
  let value ← value
  G.statementEnd value.isSome
  Reader.node kind start (value.toList.map (.part, ·))

def valueOnLine (G : Grammar) : Reader (Option Node) := do
  let c ← Reader.here
  if G.endsHere false c then return none
  else Reader.optional (G.sequence true)

def labelOnLine (G : Grammar) : Reader (Option Node) := do
  let c ← Reader.here
  if G.endsHere false c then return none
  else Reader.optional Reader.binding

/-! ### Branches and loops -/

def branch (G : Grammar) : Reader Node := do
  let start ← Reader.mark
  Reader.keyword "if"
  let condition ← G.parenthesized
  let first ← G.statement
  let second ← Reader.optional do
    Reader.keyword "else"
    G.statement
  Reader.node .other start
    ((.part, condition) :: (.part, first) :: second.toList.map (.part, ·))

def forMembers (G : Grammar) : Reader (List Node) := do
  (do
    declaringWord
    discard G.declaredTarget
    discard <| Reader.optional do
      Reader.equals
      G.expression false) <|>
  (discard (G.destructuring <|> G.targetName <|> G.parenthesized))
  Reader.keyword "in" <|> Reader.keyword "of"
  return [← G.sequence false]

def forSteps (G : Grammar) : Reader (List Node) := do
  let first ← (do
    declaringWord
    let items ← G.declarators false
    Reader.punct ";"
    return items) <|> condition G
  let second ← condition G
  let third ← Reader.optional (G.sequence false)
  return first ++ second ++ third.toList
where
  condition (G : Grammar) : Reader (List Node) := do
    let value ← Reader.optional (G.sequence false)
    Reader.punct ";"
    return value.toList

def forLoop (G : Grammar) : Reader Node := do
  let start ← Reader.mark
  Reader.keyword "for"
  discard <| Reader.optional (Reader.keyword "await")
  Reader.punct "("
  let head ← G.forMembers <|> G.forSteps
  Reader.punct ")"
  let body ← G.statement
  Reader.node .other start ((head ++ [body]).map (.part, ·))

def guarded (G : Grammar) (word : String) : Reader Node := do
  let start ← Reader.mark
  Reader.keyword word
  let condition ← G.parenthesized
  let body ← G.statement
  Reader.node .other start [(.part, condition), (.part, body)]

def doLoop (G : Grammar) : Reader Node := do
  let start ← Reader.mark
  Reader.keyword "do"
  let body ← G.statement
  Reader.keyword "while"
  let condition ← G.parenthesized
  discard <| Reader.optional (Reader.punct ";")
  Reader.node .other start [(.part, body), (.part, condition)]

def switchCase (G : Grammar) : Reader (List Node) := do
  let value ← (do
    Reader.keyword "case"
    return [← G.sequence false]) <|> (do
    Reader.keyword "default"
    return [])
  Reader.punct ":"
  let body ← Reader.many G.statement
  return value ++ body

def switchStatement (G : Grammar) : Reader Node := do
  let start ← Reader.mark
  Reader.keyword "switch"
  let subject ← G.parenthesized
  Reader.punct "\x7b"
  let cases ← Reader.many G.switchCase
  Reader.punct "\x7d"
  Reader.node .other start ((subject :: cases.flatten).map (.part, ·))

def tryStatement (G : Grammar) : Reader Node := do
  let start ← Reader.mark
  Reader.keyword "try"
  let body ← G.block
  let caught ← Reader.optional do
    Reader.keyword "catch"
    discard <| Reader.optional do
      Reader.punct "("
      discard G.declaredTarget
      discard <| G.ifTyped G.typeAnnotation
      Reader.punct ")"
    G.block
  let last ← Reader.optional do
    Reader.keyword "finally"
    G.block
  Reader.node .other start ((body :: caught.toList ++ last.toList).map (.part, ·))

/-! ### Imports -/

def moduleName : Reader Unit :=
  discard Reader.anyName <|> discard Reader.string

def importSource (G : Grammar) : Reader Unit := do
  discard Reader.string
  discard <| Reader.optional do
    Reader.keyword "with" <|> Reader.keyword "assert"
    G.objectLiteral

/-- A name in braces of an import or an export, with another one behind `as`. -/
def specifier (G : Grammar) : Reader Unit :=
  (do
    discard <| G.ifTyped (modifier "type" <|> modifier "typeof")
    renamed) <|> renamed
where
  renamed : Reader Unit := do
    moduleName
    discard <| Reader.optional do
      Reader.keyword "as"
      moduleName

def specifiers (G : Grammar) : Reader Unit := do
  Reader.punct "\x7b"
  discard <| Reader.separated "," G.specifier
  Reader.punct "\x7d"

def namespaceImport : Reader Unit := do
  Reader.punct "*"
  Reader.keyword "as"
  discard Reader.binding

def importClause (G : Grammar) : Reader Unit :=
  namespaceImport <|> G.specifiers <|> (do
    discard Reader.binding
    discard <| Reader.optional do
      Reader.punct ","
      namespaceImport <|> G.specifiers)

def importFrom (G : Grammar) : Reader Unit := do
  G.importClause
  Reader.keyword "from"
  G.importSource

def requiredImport : Reader Unit := do
  discard Reader.binding
  Reader.punct "="
  (do
    Reader.keyword "require"
    Reader.punct "("
    discard Reader.string
    Reader.punct ")") <|> qualifiedName Reader.binding

def importStatement (G : Grammar) : Reader Node := do
  let start ← Reader.mark
  Reader.keyword "import"
  G.importSource <|>
    (do
      discard <| G.ifTyped (Reader.keyword "type" <|> Reader.keyword "typeof")
      G.importFrom <|> typedOnly G) <|>
    G.importFrom <|> typedOnly G
  G.statementEnd false
  Reader.node .other start []
where
  typedOnly (G : Grammar) : Reader Unit := do
    Reader.guard G.dialect.typed
    requiredImport

/-! ### Declarations of types -/

def interface (G : Grammar) : Reader Node := do
  let start ← Reader.mark
  Reader.keyword "interface"
  discard Reader.binding
  discard <| Reader.optional G.typeParameters
  discard <| Reader.optional do
    Reader.keyword "extends"
    Reader.separated1 "," G.type
  G.objectType
  Reader.node .other start []

def typeAlias (G : Grammar) : Reader Node := do
  let start ← Reader.mark
  Reader.keyword "type"
  discard Reader.binding
  discard <| Reader.optional G.typeParameters
  Reader.equals
  discard G.type
  G.statementEnd false
  Reader.node .other start []

def enumeration (G : Grammar) : Reader Node := do
  let start ← Reader.mark
  discard <| Reader.optional (Reader.keyword "const")
  Reader.keyword "enum"
  discard Reader.binding
  Reader.punct "\x7b"
  discard <| Reader.separated "," do
    discard G.propertyName
    discard <| Reader.optional do
      Reader.equals
      G.expression false
  Reader.punct "\x7d"
  Reader.node .other start []

def namespaceBody (G : Grammar) : Reader Node := do
  let start ← Reader.mark
  Reader.keyword "namespace" <|> Reader.keyword "module"
  discard Reader.string <|> qualifiedName Reader.binding
  let body ← Reader.optional G.block
  if body.isNone then G.statementEnd false
  Reader.node .other start (body.toList.map (.body, ·))

def ambient (G : Grammar) (declaration : Reader Node) : Reader Node := do
  let start ← Reader.mark
  Reader.keyword "declare"
  let inner ← (do
    Reader.keyword "global"
    G.block) <|> declaration
  Reader.node .other start [(.part, inner)]

def importAlias (G : Grammar) : Reader Node := do
  let start ← Reader.mark
  Reader.keyword "import"
  discard Reader.binding
  Reader.equals
  qualifiedName Reader.binding
  G.statementEnd false
  Reader.node .other start []

/-! ### Declarations -/

def plainDeclaration (G : Grammar) (word : String) : Reader Node :=
  match word with
  | "function" => G.functionDeclaration
  | "async" => G.functionDeclaration
  | "class" => G.classDeclaration
  | "var" | "let" => G.variableStatement
  | "const" => if G.dialect.typed then G.enumeration <|> G.variableStatement else G.variableStatement
  | _ =>
    if G.dialect.typed then
      match word with
      | "abstract" => G.classDeclaration
      | "interface" => G.interface
      | "type" => G.typeAlias
      | "enum" => G.enumeration
      | "namespace" | "module" => G.namespaceBody
      | "import" => G.importAlias
      | _ => Reader.refuse
    else Reader.refuse

def aheadWord : Reader String :=
  fun c =>
    let cs := c.skip.rest
    .done (String.ofList (cs.take (nameLength cs))) c

def declaration (G : Grammar) : Reader Node := do
  if ← Reader.aheadChar '@' then G.classDeclaration
  else
    let word ← aheadWord
    if word == "declare" && G.dialect.typed then
      G.ambient (do G.plainDeclaration (← aheadWord))
    else G.plainDeclaration word

/-! ### Exports -/

def exportedNames (G : Grammar) : Reader Unit :=
  (do
    Reader.punct "*"
    discard <| Reader.optional do
      Reader.keyword "as"
      moduleName
    Reader.keyword "from"
    G.importSource) <|>
  (do
    discard <| G.ifTyped (Reader.keyword "type")
    G.specifiers
    discard <| Reader.optional do
      Reader.keyword "from"
      G.importSource)

def exportDefault (G : Grammar) : Reader (List (Role × Node)) := do
  let word ← Reader.keywordNode "default"
  (do
    let inner ← G.declaration
    return [word, (.declaration, inner)]) <|>
  (do
    let value ← G.expression true
    G.statementEnd true
    return [word, (.value, value)])

def exportTyped (G : Grammar) : Reader (List (Role × Node)) := do
  Reader.guard G.dialect.typed
  (do
    Reader.equals
    let value ← G.expression true
    G.statementEnd true
    return [(.part, value)]) <|>
  (do
    Reader.keyword "as"
    Reader.keyword "namespace"
    discard Reader.binding
    G.statementEnd false
    return [])

def exportStatement (G : Grammar) : Reader Node := do
  let start ← Reader.mark
  let decorators ← Reader.many G.decorator
  Reader.keyword "export"
  let parts ← (do
    G.exportedNames
    G.statementEnd false
    return []) <|> G.exportDefault <|> (do
    return [(.declaration, ← G.declaration)]) <|> G.exportTyped
  Reader.node .export start (decorators.map (.part, ·) ++ parts)

/-! ### All statements -/

def markedStatement (G : Grammar) (word : String) : Reader Node :=
  match word with
  | "if" => G.branch
  | "for" => G.forLoop
  | "while" => G.guarded "while"
  | "with" => G.guarded "with"
  | "do" => G.doLoop
  | "switch" => G.switchStatement
  | "try" => G.tryStatement
  | "return" => G.wordStatement .returned "return" G.valueOnLine
  | "throw" => G.wordStatement .other "throw" (some <$> G.sequence true)
  | "break" => G.wordStatement .other "break" G.labelOnLine
  | "continue" => G.wordStatement .other "continue" G.labelOnLine
  | "debugger" => G.wordStatement .other "debugger" (pure none)
  | "export" => G.exportStatement
  | "import" => G.importStatement
  | _ => Reader.refuse

def statementBody (G : Grammar) : Reader Node := do
  let expression := G.labeled <|> G.expressionStatement
  match (← Reader.mark).rest with
  | '\x7b' :: _ => G.block <|> G.expressionStatement
  | ';' :: _ =>
    Reader.punct ";"
    return .mk .other ";" []
  | '@' :: _ => G.exportStatement <|> G.classDeclaration <|> G.expressionStatement
  | _ =>
    let word ← aheadWord
    if word.isEmpty then G.expressionStatement
    else G.markedStatement word <|> G.declaration <|> expression

end Grammar

end SnapshotGen.Script
