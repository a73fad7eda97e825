import SnapshotGen.Text.Blank
import SnapshotGen.Toml.Value

/-!
The values of environment variables, read as data: flags, numbers, characters, texts, lists in
brackets and records in braces. A value that cannot be read as one of these is a text.
-/

namespace SnapshotGen.Settings.VariableValue

open Text (Reading)
open Text.Reading

def isBlankChar (c : Char) : Bool :=
  [' ', '\t', '\n', '\x0c', '\r'].contains c

def blanks : Reading Unit := do
  discard <| takeWhile isBlankChar

def quotedText : Reading String := do
  char '"'
  let cs ← many (Toml.escape <|> character fun c => c != '"' && c != '\\')
  char '"'
  return String.ofList cs

def letter : Reading Datum := do
  char '\''
  let c ← character fun _ => true
  char '\''
  return .letter c

def natural : Reading Nat := do
  discard <| optional (char '+')
  return Toml.radixValue 10 (← takeWhile1 Char.isDigit)

def integer : Reading Int :=
  (do
    char '-'
    return -(Toml.radixValue 10 (← takeWhile1 Char.isDigit))) <|>
  (do return ← natural)

def power : Reading Int := do
  discard <| character fun c => c == 'e' || c == 'E'
  integer

/-- Digits with a point among them or at one of their ends. -/
def fraction : Reading Datum := do
  let negative ← Toml.sign
  let front ← takeWhile Char.isDigit
  char '.'
  let back ← takeWhile Char.isDigit
  guard (!(front ++ back).isEmpty)
  let power := (← optional power).getD 0
  return Toml.fractionDatum negative
    (Toml.scientific (Toml.radixValue 10 (front ++ back)) (power - back.length))

def fraction? (cs : List Char) : Option Datum :=
  whole? fraction cs

def unsigned? (cs : List Char) : Option Datum :=
  (whole? natural cs).bind fun n => if n < 0x10000000000000000 then some (.whole false n) else none

def signed? (cs : List Char) : Option Datum :=
  (whole? integer cs).bind fun n =>
    if -0x8000000000000000 ≤ n && n < 0x8000000000000000 then some (.whole true n) else none

def plain (cs : List Char) : Datum :=
  ((fraction? cs).or ((unsigned? cs).or (signed? cs))).getD (.text (String.ofList cs))

def isSeparator (c : Char) : Bool :=
  [',', '\x7b', '\x7d', '[', ']'].contains c

def plainText : Reading Datum := do
  return plain (Text.trim (← takeWhile (!isSeparator ·)))

def flag : Reading Datum :=
  (do
    token "true"
    return .flag true) <|>
  (do
    token "false"
    return .flag false)

/-- Items with commas between them up to a closing character; a comma may stand in front of it. -/
def itemsBefore (back : Char) (item : Reading α) : Nat → Reading (List α)
  | 0 => fail
  | n + 1 =>
    (do
      char back
      return []) <|>
    (do
      let first ← item
      (do
        char ','
        return first :: (← itemsBefore back item n)) <|>
      (do
        char back
        return [first]))

def enclosed (front back : Char) (item : Reading α) : Reading (List α) := do
  char front
  fun cs => itemsBefore back item (cs.length + 1) cs

def isKeyChar (c : Char) : Bool :=
  c.isAlphanum || c == '_' || c == '-'

def key : Reading String := fun cs =>
  match cs with
  | '"' :: _ => quotedText cs
  | _ => (String.ofList <$> takeWhile1 isKeyChar) cs

def entry (value : Reading Datum) : Reading (String × Datum) := do
  blanks
  let key ← key
  blanks
  char '='
  return (key, ← value)

def recordOf (entries : List (String × Datum)) : Datum :=
  .record (entries.foldl (fun record entry => Datum.putEntry entry.1 entry.2 record) [])

/-- Its first character decides what a value is. -/
def unspaced (value : Reading Datum) : Reading Datum := fun cs =>
  match cs with
  | '\x7b' :: _ => (recordOf <$> enclosed '\x7b' '\x7d' (entry value)) cs
  | '[' :: _ => (Datum.list <$> enclosed '[' ']' value) cs
  | '"' :: _ => (Datum.text <$> quotedText) cs
  | '\'' :: _ => letter cs
  | _ => (flag <|> plainText) cs

def valueUpTo : Nat → Reading Datum
  | 0 => fail
  | n + 1 => do
    blanks
    let datum ← unspaced (valueUpTo n)
    blanks
    return datum

def datum (text : String) : Datum :=
  let cs := text.toList
  (whole? (valueUpTo (cs.length + 1)) cs).getD (.text text)

end SnapshotGen.Settings.VariableValue
