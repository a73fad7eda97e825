/-!
Concrete trees of scripts. A node has a kind, the text it covers, and children by role. Kinds that
no question about components depends on are not told apart.
-/

namespace SnapshotGen.Script

inductive Kind
  | program
  | comment
  | markupComment
  | export
  | expressionStatement
  | variableDeclaration
  | declarator
  | functionDeclaration
  | classDeclaration
  | block
  | returned
  | identifier
  | privateName
  | number
  | string
  | parenthesized
  | member
  | subscript
  | asserted
  | call
  | arguments
  | assignment
  | arrow
  | functionExpression
  | classExpression
  | heritage
  | classBody
  | field
  | method
  | parameters
  | parameter
  | object
  | pair
  | shorthand
  | spread
  | objectPattern
  | arrayPattern
  | shorthandDefault
  | pairPattern
  | defaulted
  | element
  | keyword
  | other
  deriving DecidableEq, Repr

inductive Role
  | name
  | value
  | object
  | property
  | callee
  | arguments
  | parameters
  | parameter
  | body
  | left
  | right
  | key
  | pattern
  | declaration
  | keyword
  | part
  deriving DecidableEq, Repr

inductive Node
  | mk (kind : Kind) (text : String) (children : List (Role × Node))
  deriving Repr

namespace Node

def kind : Node → Kind
  | mk kind _ _ => kind

def text : Node → String
  | mk _ text _ => text

def children : Node → List (Role × Node)
  | mk _ _ children => children

def child? (node : Node) (role : Role) : Option Node :=
  (node.children.find? fun child => child.1 == role).map (·.2)

def childNodes (node : Node) : List Node :=
  node.children.map (·.2)

def hasKeyword (node : Node) (word : String) : Bool :=
  node.childNodes.any fun child => child.kind == .keyword && child.text == word

/-- Nodes that are more than a mark in the text. -/
def isPart (node : Node) : Bool :=
  node.kind != .keyword && node.kind != .comment

mutual

def any (p : Node → Bool) : Node → Bool
  | mk kind text children => p (mk kind text children) || anyChild p children

def anyChild (p : Node → Bool) : List (Role × Node) → Bool
  | [] => false
  | (_, child) :: more => child.any p || anyChild p more

end

mutual

def count (kind : Kind) : Node → Nat
  | mk own _ children => (if own = kind then 1 else 0) + countChildren kind children

def countChildren (kind : Kind) : List (Role × Node) → Nat
  | [] => 0
  | (_, child) :: more => child.count kind + countChildren kind more

end

/-- The expression inside any number of parentheses. -/
def unparenthesized : Node → Node
  | mk .parenthesized text children => inside children (mk .parenthesized text children)
  | node => node
where
  inside : List (Role × Node) → Node → Node
    | [], whole => whole
    | (_, child) :: more, whole => if child.isPart then child.unparenthesized else inside more whole

end Node

end SnapshotGen.Script
