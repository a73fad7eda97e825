import SnapshotGen.Script.Token

/-!
The grammar of scripts is a set of readers that need one another. A production is written over a
`Grammar` that reads the parts it contains; the grammar of depth `n + 1` reads its parts by the
grammar of depth `n`.
-/

namespace SnapshotGen.Script

/-- Readers for the parts that contain one another. An operation is an expression whose operators
bind at least as tight as a level; `tail` says that a statement may end behind it. -/
structure Grammar where
  dialect : Dialect
  operation : (level : Nat) → (tail : Bool) → Reader Node
  statement : Reader Node
  bindingPattern : Reader Node
  element : Reader Node
  type : Reader Node

namespace Grammar

def expression (G : Grammar) (tail : Bool) : Reader Node :=
  G.operation 0 tail

/-- A statement may end here without a semicolon. None ends where a missing token was filled in. -/
def endsHere (G : Grammar) (afterOperand : Bool) (c : Cursor) : Bool :=
  lineEnds G.dialect afterOperand c.rest && c.filled != some c.skip.left

def sequence (G : Grammar) (tail : Bool) : Reader Node := do
  let start ← Reader.mark
  let first ← G.expression tail
  let more ← Reader.many do
    let c ← Reader.here
    Reader.guard !(tail && G.endsHere true c)
    Reader.punct ","
    G.expression tail
  if more.isEmpty then return first
  else Reader.node .other start ((first :: more).map (.part, ·))

def ifTyped (G : Grammar) (p : Reader α) : Reader (Option α) :=
  if G.dialect.typed then Reader.optional p else pure none

def typeAnnotation (G : Grammar) : Reader Node := do
  Reader.punct ":"
  G.type

/-- The end of a statement: a semicolon, or a line end that stands for one. -/
def statementEnd (G : Grammar) (afterOperand : Bool) : Reader Unit :=
  fun c => go (c.left + 1) c
where
  go : Nat → Cursor → Outcome Unit
    | 0, c => .stuck (min c.far c.left)
    | n + 1, c =>
      if G.endsHere afterOperand c then .done () c
      else
        let place := c.drop (c.rest.takeWhile isSpace).length
        match commentLength? place.rest with
        | some k => go n (place.drop k)
        | none => Reader.punct ";" c

/-- The place of an operator behind an operand, unless the statement ends in front of it. -/
def operatorPlace? (G : Grammar) (tail : Bool) (c : Cursor) : Option Cursor :=
  go (c.left + 1) c
where
  go : Nat → Cursor → Option Cursor
    | 0, _ => none
    | n + 1, c =>
      if tail && G.endsHere true c then none
      else
        let place := c.drop (c.rest.takeWhile isSpace).length
        match commentLength? place.rest with
        | some k => go n (place.drop k)
        | none => some place

def arguments (G : Grammar) : Reader Node := do
  let start ← Reader.mark
  Reader.punct "("
  let items ← Reader.separated "," (spread G <|> G.expression false)
  Reader.punct ")"
  Reader.node .arguments start (items.map (.part, ·))
where
  spread (G : Grammar) : Reader Node := do
    let start ← Reader.mark
    Reader.punct "..."
    let value ← G.expression false
    Reader.node .spread start [(.part, value)]

def parenthesized (G : Grammar) : Reader Node := do
  let start ← Reader.mark
  Reader.punct "("
  let inner ← G.sequence false
  discard <| G.ifTyped G.typeAnnotation
  Reader.punct ")"
  Reader.node .parenthesized start [(.part, inner)]

def propertyName (G : Grammar) : Reader Node :=
  Reader.anyName <|> Reader.string <|> Reader.number <|> Reader.privateName <|> (do
    let start ← Reader.mark
    Reader.punct "["
    let inner ← G.expression false
    Reader.punct "]"
    Reader.node .other start [(.part, inner)]) <|> Reader.missingName

def block (G : Grammar) : Reader Node := do
  let start ← Reader.mark
  Reader.punct "\x7b"
  let statements ← Reader.many G.statement
  Reader.punct "\x7d"
  Reader.node .block start (statements.map (.part, ·))

/-- A character, an escape or a substitution in template text. -/
def templatePiece (substitution : Reader Node) : Reader (Option Node) := fun c =>
  match c.rest with
  | '$' :: '\x7b' :: _ =>
    (do
      let inner ← substitution
      Reader.punct "\x7d"
      return some inner) (c.drop 2)
  | '`' :: _ | [] => .stuck (min c.far c.left)
  | '\\' :: rest =>
    match escapeLength rest with
    | 0 => .stuck (min c.far c.left)
    | n => .done none (c.drop (n + 1))
  | _ => .done none (c.drop 1)

def template (substitution : Reader Node) : Reader Node := do
  let start ← Reader.mark
  Reader.punct "`"
  let pieces ← Reader.many (templatePiece substitution)
  Reader.sign "`" []
  Reader.node .other start ((pieces.filterMap id).map (.part, ·))

end Grammar

end SnapshotGen.Script
