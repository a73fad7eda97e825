import SnapshotGen.Datum.Basic
import SnapshotGen.Number.Shortest
import SnapshotGen.Text.Reading
import SnapshotGen.Toml.Table

/-!
Values and keys of TOML documents.
-/

namespace SnapshotGen.Toml

open Text (Reading)
open Text.Reading

/-! ### Blanks, comments and line ends -/

def isBlankChar (c : Char) : Bool :=
  c == ' ' || c == '\t'

def blanks : Reading Unit := do
  discard <| takeWhile isBlankChar

def isPlain (c : Char) : Bool :=
  c == '\t' || (0x20 ≤ c.toNat && c.toNat ≠ 0x7F)

def lineEnd : Reading Unit :=
  token "\r\n" <|> token "\n"

def comment : Reading Unit := do
  char '#'
  discard <| takeWhile isPlain

def gaps : Reading Unit := do
  discard <| many <|
    (do discard <| takeWhile1 isBlankChar) <|> lineEnd <|> comment

/-! ### Texts -/

def hexValue (c : Char) : Nat :=
  if c.isDigit then c.toNat - '0'.toNat
  else if c.isLower then c.toNat - 'a'.toNat + 10
  else c.toNat - 'A'.toNat + 10

def isHexDigit (c : Char) : Bool :=
  c.isDigit || ('a' ≤ c && c ≤ 'f') || ('A' ≤ c && c ≤ 'F')

def radixValue (radix : Nat) (cs : List Char) : Nat :=
  cs.foldl (fun n c => n * radix + hexValue c) 0

def codePoint : Nat → Reading Char
  | count => do
    let digits ← (List.replicate count (character isHexDigit)).mapM id
    let n := radixValue 16 digits
    guard (n.isValidChar : Bool)
    return Char.ofNat n

def escape : Reading Char := do
  char '\\'
  let c ← character fun _ => true
  match c with
  | 'b' => return '\x08'
  | 't' => return '\t'
  | 'n' => return '\n'
  | 'f' => return '\x0c'
  | 'r' => return '\r'
  | '"' => return '"'
  | '\\' => return '\\'
  | 'u' => codePoint 4
  | 'U' => codePoint 8
  | _ => fail

def basicChar : Reading Char :=
  escape <|> character fun c => isPlain c && c != '"' && c != '\\'

def basicText : Reading String := do
  char '"'
  let cs ← many basicChar
  char '"'
  return String.ofList cs

def literalText : Reading String := do
  char '\''
  let cs ← takeWhile fun c => isPlain c && c != '\''
  char '\''
  return String.ofList cs

def continuation : Reading (List Char) := do
  char '\\'
  blanks
  lineEnd
  discard <| takeWhile fun c => isBlankChar c || c == '\n' || c == '\r'
  return []

def lineEndText : Reading (List Char) := do
  lineEnd
  return ['\n']

/-- One or two quotes that do not close a text of several lines. -/
def loneQuotes (quote : Char) : Reading (List Char) := do
  let three := do
    char quote
    char quote
    char quote
  absent three
  char quote
  return [quote]

def closing (quote : Char) : Reading (List Char) := do
  char quote
  char quote
  char quote
  let first ← optional (char quote)
  let second ← optional (char quote)
  return (first.toList ++ second.toList).map fun _ => quote

def manyLines (quote : Char) (piece : Reading (List Char)) : Reading String := do
  char quote
  char quote
  char quote
  discard <| optional lineEnd
  let pieces ← many (piece <|> lineEndText <|> loneQuotes quote)
  let last ← closing quote
  return String.ofList (pieces.flatten ++ last)

def text : Reading String :=
  manyLines '"' (continuation <|> (do return [← basicChar])) <|>
  manyLines '\'' (do return [← character fun c => isPlain c && c != '\'']) <|>
  basicText <|> literalText

/-! ### Keys -/

def isBare (c : Char) : Bool :=
  c.isAlphanum || c == '_' || c == '-'

def simpleKey : Reading String :=
  (do return String.ofList (← takeWhile1 isBare)) <|> basicText <|> literalText

def keyPath : Reading (List String) := do
  let first ← simpleKey
  let more ← many do
    blanks
    char '.'
    blanks
    simpleKey
  return first :: more

/-! ### Numbers -/

def digits (isDigit : Char → Bool) : Reading (List Char) := do
  let first ← character isDigit
  let more ← many do
    discard <| optional (char '_')
    character isDigit
  return first :: more

def decimalDigits : Reading (List Char) := do
  let cs ← digits Char.isDigit
  guard (cs.length = 1 || cs.head? ≠ some '0')
  return cs

def sign : Reading Bool :=
  (do
    char '-'
    return true) <|>
  (do
    discard <| optional (char '+')
    return false)

def inRange (n : Int) : Reading Datum := do
  guard (-0x8000000000000000 ≤ n && n < 0x8000000000000000)
  return .whole true n

def radixNumber (mark : String) (radix : Nat) : Reading Datum := do
  token mark
  let cs ← digits fun c => isHexDigit c && hexValue c < radix
  inRange (radixValue radix cs)

def decimalNumber : Reading Datum := do
  let negative ← sign
  let n := radixValue 10 (← decimalDigits)
  inRange (if negative then -n else n)

def fractionDatum (negative : Bool) (x : Float) : Datum :=
  .fraction (Number.shown (if negative then -x else x))

def exponent : Reading Int := do
  discard <| character fun c => c == 'e' || c == 'E'
  let negative ← sign
  let n := radixValue 10 (← digits Char.isDigit)
  return if negative then -n else n

/-- A mantissa times a power of ten. Powers beyond the bounds make no difference to the result. -/
def scientific (mantissa : Nat) (exponent : Int) : Float :=
  let bound := (toString mantissa).length + 400
  let exponent := max (-(bound : Int)) (min 400 exponent)
  Float.ofScientific mantissa (exponent < 0) exponent.natAbs

def fractionNumber : Reading Datum := do
  let negative ← sign
  let front ← decimalDigits
  let back ← optional do
    char '.'
    digits Char.isDigit
  let power ← optional exponent
  guard (back.isSome || power.isSome)
  let back := back.getD []
  let x := scientific (radixValue 10 (front ++ back)) (power.getD 0 - back.length)
  guard (negative || !x.isInf)
  return fractionDatum negative x

def specialNumber : Reading Datum := do
  let negative ← sign
  (do
    token "inf"
    return fractionDatum negative (1.0 / 0.0)) <|>
  (do
    token "nan"
    return .fraction "NaN")

/-! ### Dates and times -/

def twoDigits (low high : Nat) : Reading (List Char) := do
  let cs ← [character Char.isDigit, character Char.isDigit].mapM id
  guard (low ≤ radixValue 10 cs && radixValue 10 cs ≤ high)
  return cs

def daysIn (year month : Nat) : Nat :=
  if month = 2 then
    if year % 4 = 0 && (year % 100 ≠ 0 || year % 400 = 0) then 29 else 28
  else if [4, 6, 9, 11].contains month then 30
  else 31

def date : Reading Unit := do
  let year ← (List.replicate 4 (character Char.isDigit)).mapM id
  char '-'
  let month ← twoDigits 1 12
  char '-'
  discard <| twoDigits 1 (daysIn (radixValue 10 year) (radixValue 10 month))

def time : Reading Unit := do
  discard <| twoDigits 0 23
  char ':'
  discard <| twoDigits 0 59
  char ':'
  discard <| twoDigits 0 60
  discard <| optional do
    char '.'
    takeWhile1 Char.isDigit

def offset : Reading Unit :=
  (do discard <| character fun c => c == 'Z' || c == 'z') <|>
  (do
    discard <| character fun c => c == '+' || c == '-'
    discard <| twoDigits 0 24
    char ':'
    discard <| twoDigits 0 59)

/-- A date or a time is a record with one entry. -/
def moment : Reading Datum := do
  (do
    date
    discard <| optional do
      discard <| character fun c => c == 'T' || c == 't' || c == ' '
      time
      discard <| optional offset) <|> time
  return .record [("$__toml_private_datetime", .text "")]

/-! ### Values -/

def flag : Reading Datum :=
  (do
    token "true"
    return .flag true) <|>
  (do
    token "false"
    return .flag false)

def array (value : Reading Datum) : Reading Datum := do
  char '['
  gaps
  let items ← (do
    let first ← value
    let more ← many do
      gaps
      char ','
      gaps
      value
    discard <| optional do
      gaps
      char ','
    return first :: more) <|> pure []
  gaps
  char ']'
  return .list items

def keyValue (value : Reading Datum) : Reading (List String × Datum) := do
  let path ← keyPath
  blanks
  char '='
  blanks
  return (path, ← value)

def inlineTable (value : Reading Datum) : Reading Datum := do
  char '\x7b'
  blanks
  let entries ← (do
    let first ← keyValue value
    let more ← many do
      blanks
      char ','
      blanks
      keyValue value
    return first :: more) <|> pure []
  blanks
  char '\x7d'
  match entries.foldlM (fun table entry => table.put [] entry.1 entry.2) Table.top with
  | some table => return table.datum
  | none => fail

def valueUpTo : Nat → Reading Datum
  | 0 => fail
  | n + 1 =>
    oneOf [Datum.text <$> text, array (valueUpTo n), inlineTable (valueUpTo n), flag, moment,
      fractionNumber, specialNumber, radixNumber "0x" 16, radixNumber "0o" 8, radixNumber "0b" 2,
      decimalNumber]

def value : Reading Datum := fun cs =>
  valueUpTo (cs.length + 1) cs

end SnapshotGen.Toml
