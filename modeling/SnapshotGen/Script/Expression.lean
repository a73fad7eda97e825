import SnapshotGen.Script.Class
import SnapshotGen.Script.Function

/-!
Expressions. Operators bind by levels: a higher one binds tighter.
-/

namespace SnapshotGen.Script

/-! ### Operators -/

/-- Operators between two operands, the longer ones first, each with its level. Signs of
assignments have none. -/
def operators : List (String × Option Nat) :=
  [(">>>=", none),
    ("===", some 8), ("!==", some 8), (">>>", some 10), ("<<=", none), (">>=", none),
    ("**=", none), ("&&=", none), ("||=", none), ("??=", none),
    ("=>", none), ("==", some 8), ("!=", some 8), ("<=", some 9), (">=", some 9), ("<<", some 10),
    (">>", some 10), ("&&", some 4), ("||", some 3), ("??", some 2), ("**", some 13),
    ("+=", none), ("-=", none), ("*=", none), ("/=", none), ("%=", none), ("&=", none),
    ("|=", none), ("^=", none), ("++", none), ("--", none),
    ("=", none), ("<", some 9), (">", some 9), ("+", some 11), ("-", some 11), ("*", some 12),
    ("/", some 12), ("%", some 12), ("&", some 7), ("|", some 5), ("^", some 6)]

def wordOperators : List String :=
  ["in", "instanceof"]

def operatorAt? (cs : List Char) : Option (Nat × Nat) :=
  let word := String.ofList (cs.take (nameLength cs))
  if wordOperators.contains word then some (word.length, 9)
  else do
    let (text, level) ← operators.find? fun entry => entry.1.toList.isPrefixOf cs
    return (text.length, ← level)

/-- A question mark that asks, and is no part of another token. -/
def asks (typed : Bool) : List Char → Bool
  | '?' :: rest =>
    if typed then
      match rest.dropWhile isSpace with
      | '?' :: _ => rest.head? != some '?'
      | ':' :: _ | ')' :: _ | ',' :: _ => false
      | '.' :: c :: _ => c.isDigit
      | ['.'] => false
      | _ => true
    else
      match rest with
      | '?' :: _ => false
      | '.' :: c :: _ => c.isDigit
      | ['.'] => false
      | _ => true
  | _ => false

namespace Grammar

def behindOperand (G : Grammar) (tail : Bool) (p : Reader α) : Reader α :=
  fun c =>
    match G.operatorPlace? tail c with
    | some place => p place
    | none => .stuck (min c.far c.left)

/-! ### Members and calls -/

def memberName : Reader Node :=
  Reader.anyName <|> Reader.privateName <|> Reader.missingName

def indexed (G : Grammar) (start : Cursor) (base : Node) : Reader Node := do
  Reader.punct "["
  let index ← G.sequence false
  Reader.punct "]"
  Reader.node .subscript start [(.object, base), (.part, index)]

def called (G : Grammar) (start : Cursor) (base : Node) : Reader Node := do
  let given ← G.arguments <|> template (G.sequence false)
  Reader.node .call start [(.callee, base), (.arguments, given)]

def postfixStep (G : Grammar) (calls : Bool) (start : Cursor) (base : Node) : Reader Node :=
  fun c =>
    match c.rest with
    | '.' :: _ =>
      (do
        Reader.sign "." ['.']
        let name ← memberName
        Reader.node .member start [(.object, base), (.property, name)]) c
    | '?' :: '.' :: d :: _ =>
      if d.isDigit || !calls then .stuck (min c.far c.left)
      else
        (do
          Reader.sign "?." []
          discard <| G.ifTyped G.typeArguments
          G.called start base <|> G.indexed start base <|> (do
            let name ← memberName
            Reader.node .member start [(.object, base), (.property, name)])) c
    | '[' :: _ => G.indexed start base c
    | '(' :: _ | '`' :: _ => if calls then G.called start base c else .stuck (min c.far c.left)
    | '<' :: _ =>
      if calls && G.dialect.typed then
        (do
          G.typeArguments
          G.called start base <|> (do
            Reader.guard (← Reader.ahead endsInstantiation)
            Reader.node .other start [(.part, base)])) c
      else .stuck (min c.far c.left)
    | '!' :: d :: _ =>
      if d != '=' && G.dialect.typed then
        (do
          Reader.sign "!" []
          Reader.node .asserted start [(.part, base)]) c
      else .stuck (min c.far c.left)
    | ['!'] =>
      if G.dialect.typed then
        (do
          Reader.sign "!" []
          Reader.node .asserted start [(.part, base)]) c
      else .stuck (min c.far c.left)
    | _ => .stuck (min c.far c.left)
where
  /-- Nothing that an operand may begin with follows type arguments that no call follows. -/
  endsInstantiation : List Char → Bool
    | [] => true
    | c :: _ => ";,)]\x7d.?:=&|".toList.contains c

def postfixes (G : Grammar) (calls tail : Bool) (start : Cursor) : Nat → Node → Reader Node
  | 0, base => pure base
  | n + 1, base =>
    (do
      let next ← G.behindOperand tail (G.postfixStep calls start base)
      postfixes G calls tail start n next) <|> pure base

/-! ### Operands -/

def keywordNode (text : String) : Reader Node := do
  Reader.keyword text
  return .mk .other text []

def importWord : Reader Node := do
  let start ← Reader.mark
  Reader.keyword "import"
  (do
    Reader.punct "."
    Reader.keyword "meta"
    Reader.node .other start []) <|> (do
    Reader.guard (← Reader.ahead fun cs => cs.head? == some '(' || cs.head? == some '.')
    Reader.node .other start [])

def newExpression (G : Grammar) (operand : Reader Node) : Reader Node := do
  let start ← Reader.mark
  Reader.keyword "new"
  (do
    Reader.punct "."
    Reader.keyword "target"
    Reader.node .other start []) <|>
  (do
    let baseStart ← Reader.mark
    let operand ← operand
    let base ← G.postfixes false false baseStart baseStart.left operand
    discard <| G.ifTyped G.typeArguments
    let given ← Reader.optional (newArguments G)
    Reader.node .other start ((.part, base) :: given.toList.map (.part, ·)))
where
  newArguments (G : Grammar) : Reader Node := do
    Reader.guard (← Reader.aheadChar '(')
    G.arguments

def yieldExpression (G : Grammar) (tail : Bool) : Reader Node := do
  let start ← Reader.mark
  Reader.keyword "yield"
  (do
    Reader.punct "*"
    let value ← G.expression tail
    Reader.node .other start [(.part, value)]) <|>
  (do
    let c ← Reader.here
    Reader.guard !(tail && G.endsHere false c)
    let value ← G.expression tail
    Reader.node .other start [(.part, value)]) <|>
  Reader.node .other start []

/-- A reader that takes no more than a given number of `new`s in front of a class. -/
def newUpTo (G : Grammar) (primary : Reader Node) : Nat → Reader Node
  | 0 => primary
  | n + 1 => fun c =>
    match String.ofList ((c.skip.rest).take (nameLength c.skip.rest)) with
    | "new" => G.newExpression (newUpTo G primary n) c
    | _ => primary c

def namedOperand (G : Grammar) (tail : Bool) (name : String) : Reader Node :=
  match name with
  | "function" => G.functionLiteral
  | "async" => G.functionLiteral <|> G.arrow tail <|> Reader.binding
  | "class" => G.classLiteral
  | "this" | "super" | "null" | "true" | "false" | "undefined" => keywordNode name
  | "import" => importWord
  | _ => G.arrow tail <|> Reader.binding <|> Reader.missingName

def primary (G : Grammar) (tail : Bool) : Reader Node := fun c =>
  let place := c.skip
  match place.rest with
  | '(' :: _ => (G.arrow tail <|> G.parenthesized) c
  | '\x7b' :: _ => G.objectLiteral c
  | '[' :: _ => G.arrayLiteral c
  | '"' :: _ | '\'' :: _ => Reader.string c
  | '`' :: _ => template (G.sequence false) c
  | '/' :: _ => Reader.regex c
  | '@' :: _ => G.classLiteral c
  | '#' :: _ => Reader.privateName c
  | '<' :: _ =>
    ((do
      Reader.guard G.dialect.typed
      G.arrow tail) <|>
    (do
      Reader.guard G.dialect.elements
      G.element) <|>
    (do
      Reader.guard !G.dialect.elements
      let start ← Reader.mark
      G.typeArguments
      let value ← G.operation 14 tail
      Reader.node .other start [(.part, value)])) c
  | '.' :: _ => Reader.number c
  | d :: _ =>
    if d.isDigit then Reader.number c
    else G.namedOperand tail (String.ofList (place.rest.take (nameLength place.rest))) c
  | [] => Reader.missingName c

/-! ### Assignments -/

def assignable (node : Node) : Bool :=
  [.identifier, .member, .subscript, .parenthesized, .asserted].contains node.kind

def assignmentSigns : List String :=
  [">>>=", "<<=", ">>=", "**=", "&&=", "||=", "??=", "+=", "-=", "*=", "/=", "%=", "&=", "|=",
    "^="]

def assignmentTo (G : Grammar) (tail : Bool) (start : Cursor) (target : Node) : Reader Node := do
  let plain ← G.behindOperand tail
    ((do
      Reader.sign "=" ['=', '>']
      return true) <|>
    (do
      Reader.oneOf (assignmentSigns.map (Reader.sign · []))
      return false))
  let value ← G.expression tail
  if plain then Reader.node .assignment start [(.left, target), (.right, value)]
  else Reader.node .other start [(.part, target), (.part, value)]

/-- An object or an array that is assigned to is a pattern. -/
def patternAssignment (G : Grammar) (tail : Bool) : Reader Node := do
  let start ← Reader.mark
  Reader.guard (← Reader.ahead fun cs => cs.head? == some '\x7b' || cs.head? == some '[')
  let target ← G.destructuring
  G.assignmentTo tail start target

def operand (G : Grammar) (tail : Bool) : Reader Node :=
  G.patternAssignment tail <|> (do
    let start ← Reader.mark
    let first ← G.newUpTo (G.primary tail) start.left
    let whole ← G.postfixes true tail start start.left first
    if assignable whole then
      G.assignmentTo tail start whole <|> updated G tail start whole
    else updated G tail start whole)
where
  updated (G : Grammar) (tail : Bool) (start : Cursor) (whole : Node) : Reader Node :=
    (do
      G.behindOperand tail (Reader.sign "++" [] <|> Reader.sign "--" [])
      Reader.node .other start [(.part, whole)]) <|> pure whole

/-! ### Operations -/

def unaryWords : List String :=
  ["typeof", "void", "delete", "await"]

def unary (G : Grammar) (tail : Bool) : Reader Node := fun c =>
  let place := c.skip
  let applied (p : Reader Unit) (level : Nat) : Reader Node := do
    let start ← Reader.mark
    p
    let value ← G.operation level tail
    Reader.node .other start [(.part, value)]
  match place.rest with
  | '+' :: '+' :: _ => applied (Reader.punct "++") 15 c
  | '-' :: '-' :: _ => applied (Reader.punct "--") 15 c
  | d :: _ =>
    if "!~+-".toList.contains d then applied (Reader.punct (String.ofList [d])) 14 c
    else
      let word := String.ofList (place.rest.take (nameLength place.rest))
      if word == "yield" then G.yieldExpression tail c
      else if unaryWords.contains word then
        if word == "await" then (applied (Reader.keyword word) 14 <|> G.operand tail) c
        else applied (Reader.keyword word) 14 c
      else G.operand tail c
  | [] => G.operand tail c

def operationStep (G : Grammar) (level : Nat) (tail : Bool) (start : Cursor) (left : Node) :
    Reader Node :=
  fun c =>
    if asks G.dialect.typed c.rest then
      (do
        Reader.guard (level ≤ 1)
        Reader.sign "?" []
        let consequence ← G.expression false
        Reader.punct ":"
        let alternative ← G.operation 1 tail
        Reader.node .other start [(.part, left), (.part, consequence), (.part, alternative)]) c
    else
      match operatorAt? c.rest with
      | none =>
        (do
          Reader.guard (G.dialect.typed && level ≤ 9)
          Reader.keyword "as" <|> Reader.keyword "satisfies"
          discard G.type
          Reader.node .other start [(.part, left)]) c
      | some (length, own) =>
        if own < level then .stuck (min c.far c.left)
        else
          (do
            let right ← G.operation (if own = 13 then own else own + 1) tail
            Reader.node .other start [(.part, left), (.part, right)]) (c.drop length)

def operationsFrom (G : Grammar) (level : Nat) (tail : Bool) (start : Cursor) :
    Nat → Node → Reader Node
  | 0, left => pure left
  | n + 1, left =>
    (do
      let next ← G.behindOperand tail (G.operationStep level tail start left)
      operationsFrom G level tail start n next) <|> pure left

def operationBody (G : Grammar) (level : Nat) (tail : Bool) : Reader Node := do
  let start ← Reader.mark
  let first ← G.unary tail
  G.operationsFrom level tail start start.left first

end Grammar

end SnapshotGen.Script
