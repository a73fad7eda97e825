/-!
Reading a text from its front: a reading gives a value and what is left of the text, or nothing.
-/

namespace SnapshotGen.Text

def Reading (α : Type) := List Char → Option (α × List Char)

namespace Reading

protected def pure (a : α) : Reading α :=
  fun cs => some (a, cs)

protected def bind (p : Reading α) (f : α → Reading β) : Reading β :=
  fun cs => (p cs).bind fun (a, rest) => f a rest

instance : Monad Reading where
  pure := Reading.pure
  bind := Reading.bind

def fail : Reading α :=
  fun _ => none

protected def orElse (p : Reading α) (q : Unit → Reading α) : Reading α :=
  fun cs => (p cs).or (q () cs)

instance : OrElse (Reading α) where
  orElse := Reading.orElse

def whole? (p : Reading α) (cs : List Char) : Option α :=
  match p cs with
  | some (a, []) => some a
  | _ => none

def guard (holds : Bool) : Reading Unit :=
  if holds then pure () else fail

def optional (p : Reading α) : Reading (Option α) :=
  (do return some (← p)) <|> pure none

def absent (p : Reading α) : Reading Unit :=
  fun cs => if (p cs).isSome then none else some ((), cs)

def character (p : Char → Bool) : Reading Char
  | c :: rest => if p c then some (c, rest) else none
  | [] => none

def char (c : Char) : Reading Unit := do
  discard <| character (· == c)

def token (text : String) : Reading Unit :=
  fun cs => (text.toList.isPrefixOf? cs).map fun rest => ((), rest)

def takeWhile (p : Char → Bool) : Reading (List Char) :=
  fun cs => some (cs.takeWhile p, cs.dropWhile p)

def takeWhile1 (p : Char → Bool) : Reading (List Char) := do
  let first ← character p
  return first :: (← takeWhile p)

def repeatUpTo : Nat → Reading α → Reading (List α)
  | 0, _ => pure []
  | n + 1, p => (do
      let first ← p
      return first :: (← repeatUpTo n p)) <|> pure []

def many (p : Reading α) : Reading (List α) :=
  fun cs => repeatUpTo (cs.length + 1) p cs

def many1 (p : Reading α) : Reading (List α) := do
  let first ← p
  return first :: (← many p)

def oneOf : List (Reading α) → Reading α
  | [] => fail
  | [p] => p
  | p :: ps => p <|> oneOf ps

/-- What stands in front of the first place where a reading succeeds; the text must have one. -/
def upTo (p : Reading α) : Reading (List Char × α)
  | [] => (p []).map fun (a, rest) => (([], a), rest)
  | c :: cs =>
    match p (c :: cs) with
    | some (a, rest) => some (([], a), rest)
    | none => (upTo p cs).map fun ((front, a), rest) => ((c :: front, a), rest)

end Reading

end SnapshotGen.Text
