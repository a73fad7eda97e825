/-!
Reading a text from left to right. A reader either is done, with a value and the place behind what
it read, or is stuck; it then reports the farthest place at which any token was refused.
-/

namespace SnapshotGen.Script

/-- A token that is taken to stand where the text has none. -/
structure Gap where
  left : Nat
  token : String
  deriving DecidableEq, Repr

/-- A place in a text: what is still to be read and how many characters that is, the fewest
characters left where a token was refused so far, the gap that may still be used, and how many
characters were left where one was. -/
structure Cursor where
  rest : List Char
  left : Nat
  far : Nat
  gap : Option Gap
  filled : Option Nat

namespace Cursor

def start (text : List Char) (gap : Option Gap) : Cursor :=
  ⟨text, text.length, text.length, gap, none⟩

def drop (n : Nat) (c : Cursor) : Cursor :=
  { c with rest := c.rest.drop n, left := c.left - n }

def textTo (c next : Cursor) : String :=
  String.ofList (c.rest.take (c.left - next.left))

end Cursor

inductive Outcome (α : Type)
  | done (value : α) (next : Cursor)
  | stuck (far : Nat)

def Outcome.value? : Outcome α → Option α
  | .done value _ => some value
  | .stuck _ => none

def Reader (α : Type) := Cursor → Outcome α

namespace Reader

protected def pure (a : α) : Reader α :=
  fun c => .done a c

protected def bind (p : Reader α) (f : α → Reader β) : Reader β :=
  fun c =>
    match p c with
    | .done a next => f a next
    | .stuck far => .stuck far

instance : Monad Reader where
  pure := Reader.pure
  bind := Reader.bind

def refuse : Reader α :=
  fun c => .stuck (min c.far c.left)

protected def orElse (p : Reader α) (q : Unit → Reader α) : Reader α :=
  fun c =>
    match p c with
    | .done a next => .done a next
    | .stuck far => q () { c with far := min c.far far }

instance : OrElse (Reader α) where
  orElse := Reader.orElse

def here : Reader Cursor :=
  fun c => .done c c

def moveTo (next : Cursor) : Reader Unit :=
  fun c => .done () { next with far := min c.far next.far }

def guard (holds : Bool) : Reader Unit :=
  if holds then pure () else refuse

def optional (p : Reader α) : Reader (Option α) :=
  (do return some (← p)) <|> pure none

def repeatUpTo : Nat → Reader α → Reader (List α)
  | 0, _ => pure []
  | n + 1, p => (do
      let first ← p
      let more ← repeatUpTo n p
      return first :: more) <|> pure []

/-- As many as possible; every one but the last has to read something. -/
def many (p : Reader α) : Reader (List α) := do
  repeatUpTo ((← here).left + 1) p

def oneOf : List (Reader α) → Reader α
  | [] => refuse
  | [p] => p
  | p :: ps => p <|> oneOf ps

end Reader

end SnapshotGen.Script
