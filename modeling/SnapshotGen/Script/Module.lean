import SnapshotGen.Script.Element
import SnapshotGen.Script.Statement

/-!
Whole scripts. The grammar of a depth reads parts by the grammar of the next smaller depth; no text
needs a depth much beyond its length.
-/

namespace SnapshotGen.Script

def grammar (dialect : Dialect) : Nat → Grammar
  | 0 =>
    { dialect
      operation := fun _ _ => Reader.refuse
      statement := Reader.refuse
      bindingPattern := Reader.refuse
      element := Reader.refuse
      type := Reader.refuse }
  | n + 1 =>
    { dialect
      operation := fun level tail c => (grammar dialect n).operationBody level tail c
      statement := fun c => (grammar dialect n).statementBody c
      bindingPattern := fun c => (grammar dialect n).bindingTarget c
      element := fun c => (grammar dialect n).elementBody c
      type := fun c => (grammar dialect n).typeBody c }

namespace Module

def hashBang : Reader (Option Node) := fun c =>
  match c.rest with
  | '#' :: '!' :: rest => .done (some (.mk .other "" [])) (c.drop (2 + lineLength rest))
  | _ => .done none c

/-- The next comment, or the next statement; stuck where there is neither. -/
def item (G : Grammar) : Reader Node := fun c =>
  let place := c.drop (c.rest.takeWhile isSpace).length
  match commentLength? place.rest with
  | some n => .done (.mk .comment (place.textTo (place.drop n)) []) (place.drop n)
  | none =>
    match markupCommentLength? place.rest with
    | some n => .done (.mk .markupComment (place.textTo (place.drop n)) []) (place.drop n)
    | none => G.statement place

def ending : Reader Unit := fun c =>
  if c.skip.rest.isEmpty then .done () c.skip else .stuck (min c.far c.skip.left)

def whole (G : Grammar) : Reader Node := do
  let start ← Reader.here
  discard hashBang
  let items ← Reader.many (item G)
  ending
  Reader.node .program start (items.map (.part, ·))

def readFrom (dialect : Dialect) (start : Cursor) : Outcome Node :=
  whole (grammar dialect (4 * start.left + 16)) start

/-! ### Malformed scripts

A script is malformed where a token is refused. It still counts as a script if one token is missing
in front of the refused one, and leaving out a token or an expression there would be no better
explanation. -/

/-- Tokens that may be taken to stand where they are missing, in the order in which they are
tried. -/
def fillers : List String :=
  ["name", "\x7d", ")", "]", ">", "/>", ";"]

/-- The script with one missing token filled in. -/
def filled? (dialect : Dialect) (text : List Char) (far : Nat) : Option Node :=
  fillers.findSome? fun token =>
    (readFrom dialect (.start text (some ⟨far, token⟩))).value?

/-- The most bytes that are left out rather than to fill in a token. -/
def shortest : Nat := 9

def tokenLength (cs : List Char) : Nat :=
  [nameLength cs, numberLength cs, stringLength cs, patternLength cs,
    ((operators.find? fun entry => entry.1.toList.isPrefixOf cs).map (·.1.length)).getD 0,
    min 1 cs.length].find? (0 < ·) |>.getD 0

def byteLength (cs : List Char) : Nat :=
  (String.ofList cs).utf8ByteSize

def isPiece (dialect : Dialect) (cs : List Char) : Bool :=
  tokenLength cs = cs.length ||
    match (grammar dialect (4 * cs.length + 16)).expression false (.start cs none) with
    | .done _ next => next.left = 0
    | .stuck _ => false

/-- The script reads well if the refused token is left out. -/
def readsWithout (dialect : Dialect) (front back : List Char) : Bool :=
  let length := tokenLength back
  0 < length && byteLength (back.take length) ≤ shortest &&
    (readFrom dialect (.start (front ++ back.drop length) none)).value?.isSome

/-- The script reads well if the last few characters in front of the refused token are left out:
`piece` holds them, `before` what is in front of them, backwards. -/
def readsBehind (dialect : Dialect) (back : List Char) : List Char → List Char → Bool
  | _, [] => false
  | piece, c :: before =>
    let piece := c :: piece
    if shortest < byteLength piece then false
    else
      let splitsName := inName c && before.head?.any inName
      let front := before.reverse
      !isSpace c && !splitsName && isPiece dialect piece &&
        (readFrom dialect
          { Cursor.start (front ++ back) none with filled := some back.length }).value?.isSome ||
      readsBehind dialect back piece before

/-- Leaving something out explains the refused token better than a missing one. -/
def betterLeftOut (dialect : Dialect) (text : List Char) (far : Nat) : Bool :=
  let front := text.take (text.length - far)
  let back := text.drop (text.length - far)
  readsWithout dialect front back ||
    readsBehind dialect back [] (front.reverse.dropWhile isSpace)

def repaired? (dialect : Dialect) (text : List Char) (far : Nat) : Option Node := do
  let node ← filled? dialect text far
  if betterLeftOut dialect text far then none else some node

def read? (dialect : Dialect) (text : List Char) : Option Node :=
  match readFrom dialect (.start text none) with
  | .done node _ => some node
  | .stuck far => repaired? dialect text far

end Module

end SnapshotGen.Script
