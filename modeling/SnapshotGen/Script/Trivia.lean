import SnapshotGen.Script.Cursor
import SnapshotGen.Script.Dialect

/-!
What stands between tokens: blanks and comments; and where a line end stands for a semicolon.
-/

namespace SnapshotGen.Script

def isSpace (c : Char) : Bool :=
  let n := c.toNat
  (9 ≤ n && n ≤ 13) || n == 0x20 || n == 0xA0 || n == 0x1680 || (0x2000 ≤ n && n ≤ 0x200B) ||
    n == 0x2028 || n == 0x2029 || n == 0x202F || n == 0x205F || n == 0x2060 || n == 0x3000 ||
    n == 0xFEFF

/-- Blanks where the end of a statement is sought. -/
def isAsciiSpace (c : Char) : Bool :=
  (9 ≤ c.toNat && c.toNat ≤ 13) || c == ' '

def endsLine (c : Char) : Bool :=
  c == '\n' || c == '\u2028' || c == '\u2029'

def lineLength (cs : List Char) : Nat :=
  (cs.takeWhile fun c => !endsLine c && c != '\r').length

def blockTail? : List Char → Option Nat
  | '*' :: '/' :: _ => some 2
  | _ :: rest => (blockTail? rest).map (· + 1)
  | [] => none

def commentLength? : List Char → Option Nat
  | '/' :: '/' :: rest => some (2 + lineLength rest)
  | '/' :: '*' :: rest => (blockTail? rest).map (· + 2)
  | _ => none

/-- Comments of a page that a script is embedded in. -/
def markupCommentLength? : List Char → Option Nat
  | '<' :: '!' :: '-' :: '-' :: rest => some (4 + (rest.takeWhile (!endsLine ·)).length)
  | '-' :: '-' :: '>' :: rest => some (3 + (rest.takeWhile (!endsLine ·)).length)
  | _ => none

def triviaUnit (markup : Bool) (cs : List Char) : Nat :=
  match cs with
  | [] => 0
  | c :: _ =>
    if isSpace c then 1
    else
      match commentLength? cs with
      | some n => n
      | none => if markup then (markupCommentLength? cs).getD 0 else 0

def triviaLength (markup : Bool) (cs : List Char) : Nat :=
  match cs with
  | [] => 0
  | c :: rest =>
    match triviaUnit markup (c :: rest) with
    | 0 => 0
    | n + 1 => (n + 1) + triviaLength markup (rest.drop n)
termination_by cs.length
decreasing_by
  simp only [List.length_cons, List.length_drop]
  omega

namespace Cursor

def skip (c : Cursor) : Cursor :=
  c.drop (triviaLength true c.rest)

end Cursor

/-- What a look over blanks and comments finds: something that is no comment, or a place; and
whether a line ended inside a block comment or behind it. -/
inductive Glance
  | blocked
  | sameLine (rest : List Char)
  | passed (rest : List Char)

/-- Looks over blanks and comments. Unless all are to be passed, the look ends behind the first
block comment that no slash follows. -/
def glance (all : Bool) (newline : Bool) (cs : List Char) : Glance :=
  match cs with
  | [] => .passed []
  | '/' :: '/' :: rest => glance all newline (rest.dropWhile (!endsLine ·))
  | '/' :: '*' :: rest =>
    match blockTail? rest with
    | none => .passed []
    | some n =>
      let newline := newline || (rest.take n).any endsLine
      let after := rest.drop n
      if after.head? != some '/' && !all then
        if newline then .passed after else .sameLine after
      else glance all newline after
  | '/' :: _ => .blocked
  | c :: rest => if isAsciiSpace c then glance all newline rest else .passed (c :: rest)
termination_by cs.length
decreasing_by
  all_goals simp only [List.length_cons, List.length_drop]
  · have := (List.dropWhile_suffix (l := rest) (!endsLine ·)).length_le
    omega
  · omega
  · omega

def wordIsOver : List Char → Bool
  | c :: _ => !c.isAlpha
  | [] => true

/-- The token behind a line end cannot continue what stands in front of it. -/
def startsStatement (dialect : Dialect) (afterOperand : Bool) : List Char → Bool
  | [] => true
  | c :: rest =>
    if c == '(' || c == '[' then dialect.typed && !afterOperand
    else if c == '.' then !dialect.typed && rest.head?.any Char.isDigit
    else if "`,:;*%><=?^|&/".toList.contains c then false
    else if c == '+' || c == '-' then rest.head? == some c
    else if c == '!' then rest.head? != some '='
    else if c == 'i' then
      match rest with
      | 'n' :: more =>
        if wordIsOver more then false
        else
          match "stanceof".toList.isPrefixOf? more with
          | some after => !wordIsOver after
          | none => true
      | _ => true
    else true

/-- No token continues a statement here, though no semicolon stands here either: the text or the
block ends, or a line does and what follows starts a statement. -/
def lineEnds (dialect : Dialect) (afterOperand : Bool) (cs : List Char) : Bool :=
  look cs.length cs
where
  look : Nat → List Char → Bool
    | _, [] => true
    | 0, _ => false
    | n + 1, c :: rest =>
      if c == '}' then
        !dialect.typed || afterOperand || (rest.dropWhile isAsciiSpace).head? != some ':'
      else if endsLine c && (!dialect.typed || c == '\n') then behindLine rest
      else if c == '/' && !dialect.typed then
        match glance false false (c :: rest) with
        | .blocked => false
        | .passed after =>
          !afterOperand && after.head? != some ',' && after.head? != some '=' ||
            behindComment (look n) after
        | .sameLine after => behindComment (look n) after
      else if isAsciiSpace c then look n rest
      else false
  behindLine (rest : List Char) : Bool :=
    match glance true false rest with
    | .passed after => startsStatement dialect afterOperand after
    | _ => false
  behindComment (look : List Char → Bool) : List Char → Bool
    | [] => false
    | c :: rest =>
      if c == '}' then true
      else if endsLine c then behindLine rest
      else if isAsciiSpace c then look rest
      else false

end SnapshotGen.Script
