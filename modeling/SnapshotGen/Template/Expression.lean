import SnapshotGen.Text.Reading
import SnapshotGen.Text.Blank

/-!
Expressions of templates and how they are read. An expression is a core with filters behind it and
maybe `not` in front of it.
-/

namespace SnapshotGen.Template

/-- A step of a path: a key, or the value of another path. -/
inductive Step
  | key (key : String)
  | valueOf (path : List Step)
  deriving Repr, Inhabited

abbrev Path := List Step

inductive Arithmetic
  | add
  | sub
  | mul
  | div
  | mod
  deriving DecidableEq, Repr

inductive Comparison
  | lt
  | le
  | gt
  | ge
  | eq
  | ne
  deriving DecidableEq, Repr

mutual

inductive Expr
  | mk (core : Core) (filters : List Call) (isNegated : Bool)

inductive Core
  | text (s : String)
  | whole (n : Int)
  | fraction (x : Float)
  | flag (holds : Bool)
  | path (path : Path)
  | concat (parts : List Core)
  | list (items : List Expr)
  | call (call : Call)
  | macroCall (space : String) (call : Call)
  | tested (path : Path) (isNot : Bool) (name : String) (args : List Expr)
  | within (item container : Expr) (isNot : Bool)
  | arithmetic (sign : Arithmetic) (left right : Expr)
  | comparison (sign : Comparison) (left right : Expr)
  | both (left right : Expr)
  | either (left right : Expr)

inductive Call
  | mk (name : String) (args : List (String × Expr))

end

instance : Inhabited Core := ⟨.flag false⟩

instance : Inhabited Expr := ⟨.mk default [] false⟩

namespace Expr

def ofCore (core : Core) : Expr :=
  mk core [] false

def core : Expr → Core
  | mk core _ _ => core

def filters : Expr → List Call
  | mk _ filters _ => filters

def isNegated : Expr → Bool
  | mk _ _ isNegated => isNegated

end Expr

/-! ### Words and literals -/

namespace Phrase

open Text (Reading)
open Text.Reading

def isSpace (c : Char) : Bool :=
  c == ' ' || c == '\t' || c == '\r' || c == '\n'

def space : Reading Unit := do
  discard <| takeWhile isSpace

def space1 : Reading Unit := do
  discard <| takeWhile1 isSpace

def lexeme (p : Reading α) : Reading α := do
  space
  p

def mark (text : String) : Reading Unit :=
  lexeme (token text)

def operatorWord (text : String) : Reading Unit := do
  mark text
  discard <| character isSpace

def inWord (c : Char) : Bool :=
  c.isAlpha || c.isDigit || c == '_'

def name : Reading String := do
  let first ← character fun c => c.isAlpha || c == '_'
  return String.ofList (first :: (← takeWhile inWord))

def digits : Reading (List Char) :=
  (do
    let first ← character fun c => '1' ≤ c && c ≤ '9'
    return first :: (← takeWhile Char.isDigit)) <|>
  (do
    char '0'
    return ['0'])

def natOf (cs : List Char) : Nat :=
  cs.foldl (fun n c => 10 * n + (c.toNat - '0'.toNat)) 0

def wholeNumber : Reading Int := do
  let sign ← optional (char '-')
  let size := natOf (← digits)
  let n : Int := if sign.isSome then -size else size
  guard (-0x8000000000000000 ≤ n && n < 0x8000000000000000)
  return n

def fraction : Reading Float := do
  let sign ← optional (char '-')
  let front ← digits
  char '.'
  let back ← takeWhile1 Char.isDigit
  let x := Float.ofScientific (natOf (front ++ back)) true back.length
  return if sign.isSome then -x else x

def quotedBy (quote : Char) : Reading String := do
  char quote
  let inner ← takeWhile (· != quote)
  char quote
  return String.ofList inner

def literal : Reading String :=
  quotedBy '"' <|> quotedBy '\'' <|> quotedBy '`'

def flag : Reading Bool :=
  (do
    token "true" <|> token "True"
    return true) <|>
  (do
    token "false" <|> token "False"
    return false)

/-! ### Paths -/

def dotted : Reading (List Step) := do
  many (do
    char '.'
    return .key (String.ofList (← takeWhile1 inWord)))

def pathWith (bracket : Reading Path) : Reading Path := do
  let first ← name
  let keys ← dotted
  let more ← many ((do
    char '['
    let step ← (do return Step.key (toString (← wholeNumber))) <|> (do return Step.key (← literal)) <|>
      (do return Step.valueOf (← bracket))
    char ']'
    return step) <|> (do
    char '.'
    return .key (String.ofList (← takeWhile1 inWord))))
  return .key first :: keys ++ more

def path : Reading Path := fun cs =>
  go (cs.length + 1) cs
where
  go : Nat → Reading Path
    | 0 => fail
    | n + 1 => pathWith (go n)

/-! ### Operations -/

def leftmost (join : α → β → β → β) : β → List (α × β) → β
  | first, [] => first
  | first, (sign, second) :: more => leftmost join (join sign first second) more

def bindsTight : Arithmetic → Bool
  | .add | .sub => false
  | .mul | .div | .mod => true

def products (first : Expr) : List (Arithmetic × Expr) → Expr × List (Arithmetic × Expr)
  | [] => (first, [])
  | (sign, operand) :: more =>
    if bindsTight sign then
      products (.ofCore (.arithmetic sign first operand)) more
    else
      let (product, others) := products operand more
      (first, (sign, product) :: others)

def arithmetic (first : Expr) (more : List (Arithmetic × Expr)) : Expr :=
  let (product, sums) := products first more
  leftmost (fun sign left right => .ofCore (.arithmetic sign left right)) product sums

def sign : Reading Arithmetic :=
  oneOf [
    (do
      mark "+"
      return .add),
    (do
      mark "-"
      return .sub),
    (do
      mark "*"
      return .mul),
    (do
      mark "/"
      return .div),
    (do
      mark "%"
      return .mod)]

def comparisonSign : Reading Comparison :=
  oneOf [
    (do
      mark "<="
      return .le),
    (do
      mark ">="
      return .ge),
    (do
      mark ">"
      return .gt),
    (do
      mark "<"
      return .lt),
    (do
      mark "=="
      return .eq),
    (do
      mark "!="
      return .ne)]

/-! ### Expressions over smaller expressions -/

/-- Readings of the expressions inside an expression: any, and those of arithmetic alone. -/
structure Inner where
  logic : Reading Expr
  basic : Reading Expr

namespace Inner

def commaSeparated (p : Reading α) : Reading (List α) := do
  let first ← p
  let more ← many (do
    mark ","
    p)
  return first :: more

def array (inner : Inner) : Reading Core := do
  mark "["
  let items ← (commaSeparated inner.logic) <|> pure []
  discard <| optional (mark ",")
  mark "]"
  return .list items

def arguments (inner : Inner) : Reading (List (String × Expr)) := do
  mark "("
  let args ← (do
    let args ← commaSeparated do
      let key ← lexeme name
      mark "="
      let value ← inner.logic <|> (do return .ofCore (← array inner))
      return (key, value)
    discard <| optional (mark ",")
    return args) <|> pure []
  mark ")"
  return args

def call (inner : Inner) : Reading Call := do
  let name ← lexeme name
  return .mk name (← inner.arguments)

def filter (inner : Inner) : Reading Call := do
  mark "|"
  inner.call <|> (do return .mk (← lexeme name) [])

def filtered (inner : Inner) (core : Reading Core) : Reading Expr := do
  let core ← core
  let filters ← many inner.filter
  return .mk core filters false

/-- An expression with filters behind it, all of which belong to its core. -/
def withFilters (inner : Inner) (expr : Reading Expr) : Reading Expr := do
  let expr ← expr
  let filters ← many inner.filter
  return .mk expr.core (expr.filters ++ filters) expr.isNegated

def arrayFiltered (inner : Inner) : Reading Expr :=
  inner.filtered inner.array

def testCall (inner : Inner) : Reading (String × List Expr) := do
  let name ← lexeme name
  let args ← (do
    mark "("
    let args ← commaSeparated (inner.logic <|> inner.arrayFiltered)
    discard <| optional (mark ",")
    mark ")"
    return args) <|> pure []
  return (name, args)

def tested (inner : Inner) : Reading Core := do
  let path ← lexeme path
  mark "is"
  (do
    mark "not"
    space1
    let (name, args) ← inner.testCall
    return .tested path true name args) <|>
  (do
    let (name, args) ← inner.testCall
    return .tested path false name args)

def macroCall (inner : Inner) : Reading Core := do
  let space ← lexeme name
  mark "::"
  return .macroCall space (← inner.call)

def basicValue (inner : Inner) : Reading Expr :=
  Expr.ofCore <$> oneOf [
    Core.flag <$> lexeme flag,
    inner.tested,
    inner.macroCall,
    Core.call <$> inner.call,
    Core.path <$> lexeme path,
    Core.fraction <$> lexeme fraction,
    Core.whole <$> lexeme wholeNumber]

def basicOperand (inner : Inner) : Reading Expr :=
  (do
    mark "("
    let expr ← inner.basic
    mark ")"
    return expr) <|> inner.basicValue

def basicBody (inner : Inner) : Reading Expr := do
  let first ← inner.basicOperand
  let more ← many do
    let sign ← sign
    return (sign, ← inner.basicOperand)
  return arithmetic first more

def basicFiltered (inner : Inner) : Reading Expr :=
  inner.withFilters inner.basicBody

def concatPart (inner : Inner) : Reading Core :=
  oneOf [
    Core.call <$> inner.call,
    Core.fraction <$> lexeme fraction,
    Core.whole <$> lexeme wholeNumber,
    Core.text <$> lexeme literal,
    Core.path <$> lexeme path]

def concat (inner : Inner) : Reading Core := do
  let first ← inner.concatPart
  let more ← many1 do
    mark "~"
    inner.concatPart
  return .concat (first :: more)

def textFiltered (inner : Inner) : Reading Expr :=
  inner.filtered (inner.concat <|> (do return .text (← lexeme literal)))

def comparisonOperand (inner : Inner) : Reading Expr :=
  inner.textFiltered <|> (do
    let first ← inner.basicFiltered
    let more ← many do
      let sign ← sign
      return (sign, ← inner.basicFiltered)
    return arithmetic first more)

def comparison (inner : Inner) : Reading Expr := do
  let left ← inner.comparisonOperand
  (do
    let sign ← comparisonSign
    let right ← inner.comparisonOperand
    return .ofCore (.comparison sign left right)) <|> pure left

def within (inner : Inner) : Reading Expr := do
  let item ← inner.textFiltered <|> inner.basicFiltered
  let isNot ← optional (operatorWord "not")
  mark "in"
  let container ← inner.textFiltered <|> inner.arrayFiltered <|>
    (do return .ofCore (.path (← lexeme path)))
  return .ofCore (.within item container isNot.isSome)

def negated : Expr → Expr
  | .mk core filters _ => .mk core filters true

def logicValue (inner : Inner) : Reading Expr :=
  (do
    let isNot ← optional (operatorWord "not")
    let expr ← inner.within <|> inner.comparison
    return if isNot.isSome then negated expr else expr) <|>
  (do
    mark "("
    let expr ← inner.logic
    mark ")"
    return expr)

/-- Joins by `and` before joining by `or`. -/
def conjunctions (first : Expr) : List (Bool × Expr) → Expr × List (Bool × Expr)
  | [] => (first, [])
  | (isAnd, operand) :: more =>
    if isAnd then conjunctions (.ofCore (.both first operand)) more
    else
      let (conjunction, others) := conjunctions operand more
      (first, (false, conjunction) :: others)

def logicBody (inner : Inner) : Reading Expr := do
  let first ← inner.logicValue
  let more ← many do
    let isAnd ← (do
      operatorWord "or"
      return false) <|> (do
      operatorWord "and"
      return true)
    return (isAnd, ← inner.logicValue)
  let (conjunction, others) := conjunctions first more
  return leftmost (fun _ left right => .ofCore (.either left right)) conjunction others

def upTo : Nat → Inner
  | 0 => { logic := fail, basic := fail }
  | n + 1 =>
    { logic := fun cs => (upTo n).logicBody cs
      basic := fun cs => (upTo n).basicBody cs }

end Inner

def inner (cs : List Char) : Inner :=
  .upTo (cs.length + 2)

def expression : Reading Expr := fun cs =>
  (inner cs).logic cs

def expressionOrArray : Reading Expr := fun cs =>
  ((inner cs).logic <|> (inner cs).arrayFiltered) cs

def container : Reading Expr := fun cs =>
  ((inner cs).basicFiltered <|> (inner cs).arrayFiltered) cs

def call : Reading Call := fun cs =>
  ((inner cs).call <|> (do return .mk (← lexeme name) [])) cs

end Phrase

end SnapshotGen.Template
