import SnapshotGen.Template.Piece

/-!
Templates as trees: what stands between the tags of a pair is the body of a node.
-/

namespace SnapshotGen.Template

inductive Node
  | text (s : String)
  | value (expr : Expr)
  | set (name : String) (expr : Expr) (isGlobal : Bool)
  | loop (key : Option String) (item : String) (container : Expr) (body empty : List Node)
  | branch (condition : Expr) (body otherwise : List Node)
  | block (name : String) (body : List Node)
  | passage (filter : Call) (body : List Node)
  | inclusion (names : List String) (ignoreMissing : Bool)
  | stop
  | next
  deriving Inhabited

structure Macro where
  name : String
  parameters : List Parameter
  body : List Node

/-- A template: what it continues, where its macros come from, its own macros and its body. -/
structure Tree where
  parent : Option String
  libraries : List (String × String)
  macros : List Macro
  body : List Node

namespace Node

/-- What nests: the nodes up to a tag that closes them, and the pieces from that tag on. -/
abbrev Nested := Option (List Node × List Piece)

/-- The alternative of a branch, behind `elif` or `else`; what is nested is read by `body`. -/
def otherwise (body : List Piece → Nested) : Nat → List Piece → Nested
  | 0, _ => none
  | n + 1, pieces =>
    match pieces with
    | .tagged .endBranch _ _ :: rest => some ([], rest)
    | .tagged .otherwise _ _ :: rest =>
      match body rest with
      | some (nodes, .tagged .endBranch _ _ :: rest) => some (nodes, rest)
      | _ => none
    | .tagged (.otherwiseIf condition) _ _ :: rest => do
      let (nodes, rest) ← body rest
      let (alternative, rest) ← otherwise body n rest
      return ([.branch condition nodes alternative], rest)
    | _ => none

def ofTag (body : List Piece → Nested) (tag : Tag) (rest : List Piece) :
    Option (List Node × List Piece) :=
  match tag with
  | .value expr => some ([.value expr], rest)
  | .comment => some ([], rest)
  | .raw cs => some ([.text (String.ofList cs)], rest)
  | .set name expr isGlobal => some ([.set name expr isGlobal], rest)
  | .inclusion names ignoreMissing => some ([.inclusion names ignoreMissing], rest)
  | .stop => some ([.stop], rest)
  | .next => some ([.next], rest)
  | .loop key item container =>
    match body rest with
    | some (nodes, .tagged .endLoop _ _ :: rest) => some ([.loop key item container nodes []], rest)
    | some (nodes, .tagged .otherwise _ _ :: rest) =>
      match body rest with
      | some (empty, .tagged .endLoop _ _ :: rest) =>
        some ([.loop key item container nodes empty], rest)
      | _ => none
    | _ => none
  | .branch condition => do
    let (nodes, rest) ← body rest
    let (alternative, rest) ← otherwise body (rest.length + 1) rest
    return ([.branch condition nodes alternative], rest)
  | .block name =>
    match body rest with
    | some (nodes, .tagged .endBlock _ _ :: rest) => some ([.block name nodes], rest)
    | _ => none
  | .passage filter =>
    match body rest with
    | some (nodes, .tagged .endPassage _ _ :: rest) => some ([.passage filter nodes], rest)
    | _ => none
  | _ => none

def closes : Tag → Bool
  | .endLoop | .otherwiseIf _ | .otherwise | .endBranch | .endBlock | .endMacro | .endPassage => true
  | _ => false

def upToClosing : Nat → List Piece → Nested
  | 0, _ => none
  | _ + 1, [] => some ([], [])
  | n + 1, .words cs :: more => do
    let (nodes, rest) ← upToClosing n more
    return (.text (String.ofList cs) :: nodes, rest)
  | n + 1, .tagged tag before behind :: more =>
    if closes tag then some ([], .tagged tag before behind :: more)
    else do
      let (node, rest) ← ofTag (upToClosing n) tag more
      let (nodes, rest) ← upToClosing n rest
      return (node ++ nodes, rest)

mutual

def blocks : Node → List String
  | block name body => name :: blocksOf body
  | _ => []

def blocksOf : List Node → List String
  | [] => []
  | node :: more => node.blocks ++ blocksOf more

end

end Node

namespace Tree

def ofPieces : Nat → Tree → List Piece → Option Tree
  | 0, _, _ => none
  | _ + 1, template, [] => some template
  | n + 1, template, pieces =>
    match pieces with
    | .tagged (.library name space) _ _ :: more =>
      ofPieces n { template with libraries := template.libraries ++ [(name, space)] } more
    | .tagged (.macroOf name parameters) _ _ :: more =>
      match Node.upToClosing (more.length + 1) more with
      | some (body, .tagged .endMacro _ _ :: rest) =>
        if template.macros.any (·.name == name) then none
        else ofPieces n { template with macros := template.macros ++ [⟨name, parameters, body⟩] } rest
      | _ => none
    | .tagged tag _ _ :: more => do
      let (nodes, rest) ← Node.ofTag (Node.upToClosing (more.length + 1)) tag more
      ofPieces n { template with body := template.body ++ nodes } rest
    | .words cs :: more =>
      ofPieces n { template with body := template.body ++ [.text (String.ofList cs)] } more
    | [] => some template

def empty : Tree :=
  ⟨none, [], [], []⟩

def ofAll (pieces : List Piece) : Option Tree :=
  match pieces with
  | .tagged (.inherit name) _ _ :: more =>
    ofPieces (more.length + 1) { empty with parent := some name } more
  | pieces => ofPieces (pieces.length + 1) empty pieces

def ofText? (text : String) : Option Tree := do
  let template ← ofAll (Piece.tidy false (← Piece.ofText? text.toList))
  if (Node.blocksOf template.body).Nodup then some template else none

end Tree

end SnapshotGen.Template
