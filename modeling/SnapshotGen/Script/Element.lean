import SnapshotGen.Script.Grammar

/-!
Elements: tags with attributes and children. The name of a closing tag need not be that of the
opening one.
-/

namespace SnapshotGen.Script

def referenceLength : List Char → Nat
  | '&' :: '#' :: x :: rest =>
    if x == 'x' || x == 'X' then closed 6 3 (rest.takeWhile isHex).length rest
    else closed 5 2 ((x :: rest).takeWhile Char.isDigit).length (x :: rest)
  | '&' :: rest => closed 30 1 (rest.takeWhile Char.isAlpha).length rest
  | _ => 0
where
  closed (most before digits : Nat) (rest : List Char) : Nat :=
    if 0 < digits && digits ≤ most && (rest.drop digits).head? == some ';' then before + digits + 1
    else 0

/-- A character, or a reference, in the text of an attribute. An ampersand that no letter and no
number sign follows stands for itself. -/
def attributeUnit (quote : Char) : List Char → Nat
  | '&' :: d :: rest =>
    match referenceLength ('&' :: d :: rest) with
    | 0 => if d == '#' || d.isAlpha then 0 else if d == quote then 1 else 2
    | n => n
  | ['&'] => 0
  | _ => 1

def attributeTail? (quote : Char) (cs : List Char) : Option Nat :=
  match cs with
  | [] => none
  | c :: rest =>
    if c == quote then some 1
    else
      match attributeUnit quote (c :: rest) with
      | 0 => none
      | n + 1 => (attributeTail? quote (rest.drop n)).map (· + n + 1)
termination_by cs.length
decreasing_by
  simp only [List.length_cons, List.length_drop]
  omega

def attributeTextLength : List Char → Nat
  | c :: rest =>
    if c == '"' || c == '\'' then ((attributeTail? c rest).map (· + 1)).getD 0 else 0
  | [] => 0

/-- Text between tags that is more than an indented line end. -/
def childTextLength (cs : List Char) : Nat :=
  (cs.takeWhile fun c => !("<>&\x7b\x7d".toList.contains c)).length

namespace Grammar

def tagName (G : Grammar) : Reader Unit := do
  let part := Reader.lexeme tagNameLength
  discard part
  (do
    Reader.punct ":"
    discard part) <|>
  (do
    discard <| Reader.many do
      Reader.punct "."
      discard part
    discard <| G.ifTyped do
      Reader.punct "<"
      discard <| Reader.separated1 "," G.type
      discard <| Reader.optional (Reader.punct ",")
      Reader.punct ">")

def embedded (G : Grammar) : Reader Node := do
  let start ← Reader.mark
  Reader.punct "\x7b"
  let inner ← Reader.optional (arguments.spread G <|> G.sequence false)
  Reader.punct "\x7d"
  Reader.node .other start (inner.toList.map (.part, ·))

def tagAttribute (G : Grammar) : Reader Node :=
  G.embedded <|> (do
    let start ← Reader.mark
    let part := Reader.lexeme tagNameLength
    discard part
    discard <| Reader.optional (do
      Reader.punct ":"
      discard part)
    let value ← Reader.optional do
      Reader.punct "="
      (do
        let text ← Reader.lexeme attributeTextLength
        return Node.mk .string text []) <|> G.embedded <|> G.element
    Reader.node .other start (value.toList.map (.part, ·)))

def tagChild (G : Grammar) : Reader (Option Node) :=
  fun c =>
    match c.rest with
    | '<' :: '/' :: _ | '}' :: _ | '>' :: _ | [] => .stuck (min c.far c.left)
    | '<' :: _ => (do return some (← G.element)) c
    | '\x7b' :: _ => (do return some (← G.embedded)) c
    | '&' :: _ =>
      match referenceLength c.rest with
      | 0 => .stuck (min c.far c.left)
      | n => .done none (c.drop n)
    | _ => .done none (c.drop (childTextLength c.rest))

def closingTag (G : Grammar) : Reader Unit := do
  Reader.punct "</"
  discard <| Reader.optional G.tagName
  Reader.punct ">"

def elementBody (G : Grammar) : Reader Node := do
  let start ← Reader.mark
  Reader.punct "<"
  let named ← Reader.optional G.tagName
  let attributes ← if named.isSome then Reader.many G.tagAttribute else pure []
  (do
    Reader.guard named.isSome
    Reader.punct "/>"
    Reader.node .element start (attributes.map (.part, ·))) <|>
  (do
    Reader.punct ">"
    let children ← Reader.many G.tagChild
    G.closingTag
    Reader.node .element start ((attributes ++ children.filterMap id).map (.part, ·)))

end Grammar

end SnapshotGen.Script
