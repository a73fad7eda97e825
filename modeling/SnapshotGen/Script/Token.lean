import SnapshotGen.Script.Node
import SnapshotGen.Script.Trivia

/-!
Tokens of scripts. How far a token reaches is a function on the characters in front of the reader;
a length of zero means that no such token stands there.
-/

namespace SnapshotGen.Script

/-! ### Names -/

def isPunctuation (c : Char) : Bool :=
  ":;`\"'@#.,|^&<=>+-*/\\%?!~()[]\x7b\x7d".toList.contains c

def startsName (c : Char) : Bool :=
  0x20 ≤ c.toNat && !isSpace c && !c.isDigit && !isPunctuation c

def inName (c : Char) : Bool :=
  startsName c || c.isDigit

def isHex (c : Char) : Bool :=
  c.isDigit || ('a' ≤ c && c ≤ 'f') || ('A' ≤ c && c ≤ 'F')

def codePointLength : List Char → Nat
  | '\x7b' :: rest =>
    let digits := (rest.takeWhile isHex).length
    if 0 < digits && (rest.drop digits).head? == some '\x7d' then digits + 2 else 0
  | a :: b :: c :: d :: _ => if isHex a && isHex b && isHex c && isHex d then 4 else 0
  | _ => 0

def nameUnit (first : Bool) : List Char → Nat
  | '\\' :: 'u' :: rest => if codePointLength rest = 0 then 0 else codePointLength rest + 2
  | c :: _ => if (if first then startsName c else inName c) then 1 else 0
  | [] => 0

def nameTail (cs : List Char) : Nat :=
  match cs with
  | [] => 0
  | c :: rest =>
    match nameUnit false (c :: rest) with
    | 0 => 0
    | n + 1 => (n + 1) + nameTail (rest.drop n)
termination_by cs.length
decreasing_by
  simp only [List.length_cons, List.length_drop]
  omega

def nameLength (cs : List Char) : Nat :=
  match nameUnit true cs with
  | 0 => 0
  | n => n + nameTail (cs.drop n)

def tagNameLength (cs : List Char) : Nat :=
  let isPart (c : Char) : Bool := c.isAlpha || c.isDigit || c == '_' || c == '$'
  let first := (cs.takeWhile isPart).length
  if 0 < first && !cs.head?.any Char.isDigit && (cs.drop first).head? == some '-' then
    first + ((cs.drop first).takeWhile fun c => isPart c || c == '-').length
  else nameLength cs

def privateNameLength : List Char → Nat
  | '#' :: rest => if nameLength rest = 0 then 0 else nameLength rest + 1
  | _ => 0

def reservedWords : List String :=
  ["break", "case", "catch", "class", "const", "continue", "debugger", "default", "delete", "do",
    "else", "extends", "false", "finally", "for", "function", "if", "import", "in", "instanceof",
    "new", "null", "return", "super", "switch", "this", "throw", "true", "try", "typeof", "var",
    "void", "while", "with"]

/-! ### Numbers -/

def digitsLength (isDigit : Char → Bool) : List Char → Nat
  | c :: rest =>
    if isDigit c then
      match rest with
      | '_' :: d :: more =>
        if isDigit d then 2 + digitsLength isDigit (d :: more) else 1
      | rest => 1 + digitsLength isDigit rest
    else 0
  | [] => 0

def exponentLength : List Char → Nat
  | e :: rest =>
    if e == 'e' || e == 'E' then
      let sign := if rest.head? == some '-' || rest.head? == some '+' then 1 else 0
      let digits := digitsLength Char.isDigit (rest.drop sign)
      if digits = 0 then 0 else 1 + sign + digits
    else 0
  | [] => 0

def fractionLength (cs : List Char) : Nat :=
  let digits := digitsLength Char.isDigit cs
  digits + exponentLength (cs.drop digits)

def numberLength : List Char → Nat
  | '.' :: rest => if digitsLength Char.isDigit rest = 0 then 0 else 1 + fractionLength rest
  | '0' :: x :: rest =>
    let radix : Option (Char → Bool) :=
      if x == 'x' || x == 'X' then some isHex
      else if x == 'b' || x == 'B' then some fun c => c == '0' || c == '1'
      else if x == 'o' || x == 'O' then some fun c => '0' ≤ c && c ≤ '7'
      else none
    match radix with
    | some isDigit =>
      let digits := digitsLength isDigit rest
      if digits = 0 then 1
      else 2 + digits + if (rest.drop digits).head? == some 'n' then 1 else 0
    | none => decimal ('0' :: x :: rest)
  | cs => decimal cs
where
  decimal (cs : List Char) : Nat :=
    let digits := digitsLength Char.isDigit cs
    if digits = 0 then 0
    else
      match cs.drop digits with
      | 'n' :: _ => digits + 1
      | '.' :: rest => digits + 1 + fractionLength rest
      | rest => digits + exponentLength rest

/-! ### Strings and patterns -/

def escapeLength : List Char → Nat
  | 'x' :: a :: b :: _ => if isHex a && isHex b then 3 else 0
  | 'x' :: _ => 0
  | 'u' :: rest => if codePointLength rest = 0 then 0 else codePointLength rest + 1
  | '\r' :: '\n' :: _ => 2
  | c :: rest =>
    if '0' ≤ c && c ≤ '7' then
      1 + ((rest.take 2).takeWhile fun d => '0' ≤ d && d ≤ '7').length
    else 1
  | [] => 0

def quotedTail? (quote : Char) (cs : List Char) : Option Nat :=
  match cs with
  | [] => none
  | c :: rest =>
    if c == quote then some 1
    else if c == '\n' || c == '\r' then none
    else if c == '\\' then
      match escapeLength rest with
      | 0 => none
      | n => (quotedTail? quote (rest.drop n)).map (· + n + 1)
    else (quotedTail? quote rest).map (· + 1)
termination_by cs.length
decreasing_by all_goals simp only [List.length_cons, List.length_drop]; omega

def stringLength : List Char → Nat
  | c :: rest => if c == '"' || c == '\'' then ((quotedTail? c rest).map (· + 1)).getD 0 else 0
  | [] => 0

/-- A pattern up to the slash that closes it; a slash in brackets or behind a backslash does
not. -/
def patternTail? (inClass escaped : Bool) : List Char → Option Nat
  | [] => none
  | c :: rest =>
    if c == '\n' then none
    else if escaped then (patternTail? inClass false rest).map (· + 1)
    else if c == '\\' then (patternTail? inClass true rest).map (· + 1)
    else if inClass then (patternTail? (c != ']') false rest).map (· + 1)
    else if c == '[' then (patternTail? true false rest).map (· + 1)
    else if c == '/' then some 1
    else (patternTail? false false rest).map (· + 1)

def patternLength : List Char → Nat
  | '/' :: c :: rest =>
    if c == '/' || c == '*' then 0
    else
      match patternTail? false false (c :: rest) with
      | none => 0
      | some n =>
        1 + n + (((c :: rest).drop n).takeWhile fun d => 'a' ≤ d && d ≤ 'z').length
  | _ => 0

/-! ### Reading tokens -/

namespace Reader

def mark : Reader Cursor :=
  fun c => .done c.skip c

def node (kind : Kind) (start : Cursor) (children : List (Role × Node)) : Reader Node :=
  fun c => .done (.mk kind (start.textTo c) children) c

def lexeme (length : List Char → Nat) : Reader String :=
  fun c =>
    let place := c.skip
    match length place.rest with
    | 0 => .stuck (min c.far place.left)
    | n => .done (place.textTo (place.drop n)) (place.drop n)

/-- The gap stands at the next token and is of this kind. -/
def useGap (token : String) : Reader Unit :=
  fun c =>
    let place := c.skip
    match c.gap with
    | some gap =>
      if gap.left = place.left && gap.token == token then
        .done () { c with gap := none, filled := some gap.left }
      else .stuck (min c.far place.left)
    | none => .stuck (min c.far place.left)

/-- A mark that stands in the text and that none of the given characters follows. -/
def writtenMark (text : String) (barred : List Char) : Reader Unit :=
  fun c =>
    let place := c.skip
    match text.toList.isPrefixOf? place.rest with
    | some after =>
      if after.head?.any barred.contains then .stuck (min c.far place.left)
      else .done () (place.drop text.length)
    | none => .stuck (min c.far place.left)

def sign (text : String) (barred : List Char) : Reader Unit :=
  fun c =>
    match text.toList.isPrefixOf? c.rest with
    | some after =>
      if after.head?.any barred.contains then .stuck (min c.far c.left)
      else .done () (c.drop text.length)
    | none => .stuck (min c.far c.left)

def markUnless (text : String) (barred : List Char) : Reader Unit :=
  writtenMark text barred <|> useGap text

def punct (text : String) : Reader Unit :=
  markUnless text []

def equals : Reader Unit :=
  markUnless "=" ['=', '>']

def word : Reader String :=
  lexeme nameLength

def keyword (text : String) : Reader Unit := do
  let start ← here
  if (← word) != text then
    moveTo start
    (fun c => .stuck (min c.far c.skip.left))

def keywordNode (text : String) : Reader (Role × Node) := do
  keyword text
  return (.keyword, .mk .keyword text [])

def punctNode (text : String) : Reader (Role × Node) := do
  punct text
  return (.keyword, .mk .keyword text [])

def binding : Reader Node := do
  let start ← mark
  let name ← word
  if reservedWords.contains name then
    moveTo start
    refuse
  else return .mk .identifier name []

def missingName : Reader Node := do
  useGap "name"
  return .mk .identifier "" []

def anyName : Reader Node := do
  return .mk .identifier (← word) []

def privateName : Reader Node := do
  return .mk .privateName (← lexeme privateNameLength) []

def number : Reader Node := do
  return .mk .number (← lexeme numberLength) []

def string : Reader Node := do
  return .mk .string (← lexeme stringLength) []

def regex : Reader Node := do
  return .mk .other (← lexeme patternLength) []

def ahead (p : List Char → Bool) : Reader Bool :=
  fun c => .done (p c.skip.rest) c

def aheadChar (x : Char) : Reader Bool :=
  ahead fun cs => cs.head? == some x

def separated (mark : String) (p : Reader α) : Reader (List α) := do
  let first ← optional p
  let more ← many (do punct mark; optional p)
  return (first :: more).filterMap id

def separated1 (mark : String) (p : Reader α) : Reader (List α) := do
  let first ← p
  let more ← many (do punct mark; p)
  return first :: more

end Reader

end SnapshotGen.Script
