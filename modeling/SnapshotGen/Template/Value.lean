import SnapshotGen.Number.Shortest
import SnapshotGen.Text.Quoted

/-!
The values that templates work on, their text, and the parts they have.
-/

namespace SnapshotGen.Template

/-- The entries of a record are in the order of their keys. -/
inductive Value
  | null
  | flag (holds : Bool)
  | whole (n : Int)
  | fraction (x : Float)
  | text (s : String)
  | list (items : List Value)
  | record (entries : List (String × Value))
  deriving Inhabited

namespace Value

def flagText (holds : Bool) : String :=
  if holds then "true" else "false"

mutual

def shown : Value → String
  | null => ""
  | flag holds => flagText holds
  | whole n => toString n
  | fraction x => Number.shown x
  | text s => s
  | list items => "[" ++ shownItems items ++ "]"
  | record _ => "[object]"

def shownItems : List Value → String
  | [] => ""
  | [item] => item.shown
  | item :: more => item.shown ++ ", " ++ shownItems more

end

def fractionText (x : Float) : String :=
  let text := Number.shown x
  if text.toList.contains '.' then text else text ++ ".0"

def escapedChar (c : Char) : List Char :=
  if c = '"' || c = '\\' then ['\\', c]
  else if c = '\n' then ['\\', 'n']
  else if c = '\r' then ['\\', 'r']
  else if c = '\t' then ['\\', 't']
  else if c = '\x08' then ['\\', 'b']
  else if c = '\x0c' then ['\\', 'f']
  else if c.toNat < 0x20 then
    let digits := Text.hexDigits c.toNat
    ['\\', 'u'] ++ List.replicate (4 - digits.length) '0' ++ digits
  else [c]

def quotedText (s : String) : String :=
  String.ofList ('"' :: (s.toList.flatMap escapedChar ++ ['"']))

def lineBreak : Option Nat → String
  | some indent => "\n" ++ "".pushn ' ' (2 * indent)
  | none => ""

mutual

/-- The notation of data: on one line, or on many with an indent. -/
def notated (indent : Option Nat) : Value → String
  | null => "null"
  | flag holds => flagText holds
  | whole n => toString n
  | fraction x => fractionText x
  | text s => quotedText s
  | list [] => "[]"
  | list (item :: more) =>
    let inner := indent.map (· + 1)
    "[" ++ lineBreak inner ++ notatedItems inner (item :: more) ++ lineBreak indent ++ "]"
  | record [] => "\x7b\x7d"
  | record (entry :: more) =>
    let inner := indent.map (· + 1)
    "\x7b" ++ lineBreak inner ++ notatedEntries inner (entry :: more) ++ lineBreak indent ++ "\x7d"

def notatedItems (indent : Option Nat) : List Value → String
  | [] => ""
  | [item] => item.notated indent
  | item :: more => item.notated indent ++ "," ++ lineBreak indent ++ notatedItems indent more

def notatedEntries (indent : Option Nat) : List (String × Value) → String
  | [] => ""
  | [(key, value)] => notatedEntry indent key (value.notated indent)
  | (key, value) :: more =>
    notatedEntry indent key (value.notated indent) ++ "," ++ lineBreak indent ++
      notatedEntries indent more

def notatedEntry (indent : Option Nat) (key value : String) : String :=
  quotedText key ++ (if indent.isSome then ": " else ":") ++ value

end

def place? (key : String) : Option Nat :=
  let cs := key.toList
  if cs.isEmpty || !cs.all Char.isDigit || cs.head? = some '0' && cs.length ≠ 1 then none
  else key.toNat?

def entry? (key : String) (entries : List (String × Value)) : Option Value :=
  (entries.find? (·.1 == key)).map (·.2)

def part? (value : Value) (key : String) : Option Value :=
  match value with
  | record entries => entry? key entries
  | list items => (place? key).bind fun place => items[place]?
  | _ => none

def at? (value : Value) (keys : List String) : Option Value :=
  keys.foldlM part? value

def putEntry (key : String) (value : Value) : List (String × Value) → List (String × Value)
  | [] => [(key, value)]
  | (other, kept) :: more =>
    if key = other then (key, value) :: more
    else if key < other then (key, value) :: (other, kept) :: more
    else (other, kept) :: putEntry key value more

def holds : Value → Bool
  | null => false
  | flag holds => holds
  | whole n => n ≠ 0
  | fraction x => x != 0 && !x.isNaN
  | text s => s ≠ ""
  | list items => !items.isEmpty
  | record entries => !entries.isEmpty

def number? : Value → Option Float
  | whole n => some (Float.ofInt n)
  | fraction x => some x
  | _ => none

mutual

/-- Equality of values; whole numbers and others are never the same. -/
def same : Value → Value → Bool
  | null, null => true
  | flag a, flag b => a == b
  | whole a, whole b => a == b
  | fraction a, fraction b => a == b
  | text a, text b => a == b
  | list as, list bs => sameItems as bs
  | record as, record bs => sameEntries as bs
  | _, _ => false

def sameItems : List Value → List Value → Bool
  | [], [] => true
  | a :: as, b :: bs => a.same b && sameItems as bs
  | _, _ => false

def sameEntries : List (String × Value) → List (String × Value) → Bool
  | [], [] => true
  | (k, a) :: as, (l, b) :: bs => k == l && a.same b && sameEntries as bs
  | _, _ => false

end

end Value

end SnapshotGen.Template
