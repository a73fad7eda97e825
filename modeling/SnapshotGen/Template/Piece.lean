import SnapshotGen.Template.Expression

/-!
The pieces of a template text: plain text, and tags between braces. A tag with a dash at one of its
ends takes the blanks next to it away.
-/

namespace SnapshotGen.Template

abbrev Parameter := String × Option Core

inductive Tag
  | value (expr : Expr)
  | comment
  | raw (text : List Char)
  | set (name : String) (expr : Expr) (isGlobal : Bool)
  | loop (key : Option String) (item : String) (container : Expr)
  | endLoop
  | branch (condition : Expr)
  | otherwiseIf (condition : Expr)
  | otherwise
  | endBranch
  | block (name : String)
  | endBlock
  | macroOf (name : String) (parameters : List Parameter)
  | endMacro
  | passage (filter : Call)
  | endPassage
  | inclusion (names : List String) (ignoreMissing : Bool)
  | stop
  | next
  | inherit (name : String)
  | library (template space : String)

inductive Piece
  | words (cs : List Char)
  | tagged (tag : Tag) (trimsBefore trimsBehind : Bool)

namespace Piece

open Text (Reading)
open Text.Reading
open Phrase

def opening (text : String) : Reading Bool := do
  token text
  return (← optional (char '-')).isSome

def closing (text : String) : Reading Bool :=
  (do
    token ("-" ++ text)
    return true) <|>
  (do
    token text
    return false)

def delimited (front back : String) (p : Reading Tag) : Reading Piece := do
  let before ← opening front
  let tag ← lexeme p
  let behind ← lexeme (closing back)
  return .tagged tag before behind

def keyword (text : String) : Reading Unit := do
  token text
  space1

def lone (text : String) (tag : Tag) : Reading Tag := do
  token text
  return tag

def maybeNamed (text : String) (tag : Tag) : Reading Tag := do
  token text
  discard <| optional (lexeme name)
  return tag

def setting (word : String) (isGlobal : Bool) : Reading Tag := do
  keyword word
  let name ← name
  mark "="
  return .set name (← expressionOrArray) isGlobal

def loop : Reading Tag := do
  keyword "for"
  let first ← name
  let second ← optional do
    char ','
    lexeme name
  space1
  keyword "in"
  let container ← container
  match second with
  | some item => return .loop (some first) item container
  | none => return .loop none first container

def parameter : Reading Parameter := do
  let name ← lexeme name
  let value ← optional do
    mark "="
    oneOf [Core.flag <$> lexeme flag, Core.text <$> lexeme literal, Core.fraction <$> lexeme fraction,
      Core.whole <$> lexeme wholeNumber]
  return (name, value)

def macroOf : Reading Tag := do
  keyword "macro"
  let name ← name
  mark "("
  let parameters ← Inner.commaSeparated parameter <|> pure []
  discard <| optional (mark ",")
  mark ")"
  return .macroOf name parameters

def inclusion : Reading Tag := do
  keyword "include"
  let names ← (do return [← literal]) <|> (do
    char '['
    let names ← Inner.commaSeparated (lexeme literal) <|> pure []
    discard <| optional (mark ",")
    mark "]"
    return names)
  let ignore ← optional do
    space
    keyword "ignore"
    token "missing"
  return .inclusion names ignore.isSome

def library : Reading Tag := do
  keyword "import"
  let template ← literal
  space1
  keyword "as"
  return .library template (← name)

def blockTag : Reading Tag :=
  oneOf [
    inclusion,
    library,
    (do
      keyword "extends"
      return .inherit (← literal)),
    (do
      keyword "block"
      return .block (← name)),
    macroOf,
    (do
      keyword "if"
      return .branch (← expression)),
    (do
      keyword "elif"
      return .otherwiseIf (← expression)),
    loop,
    (do
      keyword "filter"
      return .passage (← call)),
    setting "set_global" true,
    setting "set" false,
    lone "else" .otherwise,
    lone "endif" .endBranch,
    lone "endfor" .endLoop,
    maybeNamed "endblock" .endBlock,
    maybeNamed "endmacro" .endMacro,
    lone "endfilter" .endPassage,
    lone "break" .stop,
    lone "continue" .next]

def raw : Reading Piece := do
  let before ← opening "\x7b%"
  mark "raw"
  let trimsStart ← lexeme (closing "%\x7d")
  let (text, (trimsEnd, behind)) ← upTo do
    let trimsEnd ← opening "\x7b%"
    mark "endraw"
    return (trimsEnd, ← lexeme (closing "%\x7d"))
  let text := if trimsStart then Text.trimStart text else text
  let text := if trimsEnd then Text.trimEnd text else text
  return .tagged (.raw text) before behind

def comment : Reading Piece := do
  let before ← opening "\x7b#"
  let (_, behind) ← upTo (closing "#\x7d")
  return .tagged .comment before behind

def anyTag : Reading Piece :=
  oneOf [comment, raw, delimited "\x7b%" "%\x7d" blockTag,
    delimited "\x7b\x7b" "\x7d\x7d" (.value <$> expressionOrArray)]

def startsTag : List Char → Bool
  | '\x7b' :: c :: _ => c == '\x7b' || c == '%' || c == '#'
  | _ => false

def plain : Nat → Reading (List Char)
  | 0 => pure []
  | n + 1 => fun cs =>
    match cs with
    | [] => some ([], [])
    | c :: rest =>
      if startsTag (c :: rest) then some ([], c :: rest)
      else (plain n rest).map fun (text, rest) => (c :: text, rest)

def plainText : Reading Piece := fun cs =>
  match plain cs.length cs with
  | some ([], _) => none
  | some (text, rest) => some (.words text, rest)
  | none => none

def ofText? (cs : List Char) : Option (List Piece) :=
  whole? (do
    discard <| many comment
    many (plainText <|> anyTag)) cs

def trimsBefore : Piece → Bool
  | tagged _ before _ => before
  | words _ => false

/-- Takes blanks away next to tags that say so; a text of which nothing is left goes with them. -/
def tidy (trimsStart : Bool) : List Piece → List Piece
  | [] => []
  | words cs :: more =>
    let cs := if trimsStart then Text.trimStart cs else cs
    let cs := if (more.head?.map trimsBefore).getD false then Text.trimEnd cs else cs
    if cs.isEmpty then tidy false more else words cs :: tidy false more
  | tagged tag before behind :: more => tagged tag before behind :: tidy behind more

end Piece

end SnapshotGen.Template
