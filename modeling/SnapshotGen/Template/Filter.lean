import SnapshotGen.Template.Value
import SnapshotGen.Text.Blank
import SnapshotGen.Text.Casing
import SnapshotGen.Text.Letter

/-!
The filters, tests and functions that templates may use. A filter gives nothing for a value or an
argument that it cannot work with.
-/

namespace SnapshotGen.Template

abbrev Arguments := List (String × Value)

namespace Arguments

def text (args : Arguments) (name : String) (default : Option String) : Option String :=
  match Value.entry? name args with
  | some (.text s) => some s
  | some _ => none
  | none => default

def size (args : Arguments) (name : String) (default : Option Nat) : Option Nat :=
  match Value.entry? name args with
  | some (.whole n) => if 0 ≤ n then some n.toNat else none
  | some _ => none
  | none => default

def number (args : Arguments) (name : String) (default : Option Float) : Option Float :=
  match Value.entry? name args with
  | some value => value.number?
  | none => default

def flag (args : Arguments) (name : String) (default : Bool) : Option Bool :=
  match Value.entry? name args with
  | some (.flag holds) => some holds
  | some _ => none
  | none => some default

end Arguments

/-! ### Texts -/

namespace TextFilter

open Text

def capitalize : List Char → List Char
  | [] => []
  | c :: rest => upper [c] ++ lowerWords rest

/-- Every word with its first letter in upper case and the others in lower case. -/
def title : Nat → List Char → List Char
  | 0, cs => cs
  | _ + 1, [] => []
  | n + 1, c :: rest =>
    if isWordChar c then
      let run := rest.takeWhile fun d => isWordChar d || d == '\''
      let word := (run.reverse.dropWhile (· == '\'')).reverse
      capitalize (c :: word) ++ title n (rest.drop word.length)
    else c :: title n rest

def wordCount (cs : List Char) : Nat :=
  match cs with
  | [] => 0
  | c :: rest =>
    if isBlank c then wordCount rest
    else if (rest.head?.map isBlank).getD true then wordCount rest + 1
    else wordCount rest

def truncated (length : Nat) (ending cs : List Char) : List Char :=
  if cs.length ≤ length then cs else cs.take length ++ ending

def trimStartMatches (piece : List Char) : Nat → List Char → List Char
  | 0, cs => cs
  | n + 1, cs =>
    match piece.isPrefixOf? cs with
    | some rest => trimStartMatches piece n rest
    | none => cs

def trimEndMatches (piece cs : List Char) : List Char :=
  (trimStartMatches piece.reverse cs.length cs.reverse).reverse

def splitBy (separator : List Char) (piece : List Char) : Nat → List Char → List (List Char)
  | 0, cs => [piece.reverse ++ cs]
  | _ + 1, [] => [piece.reverse]
  | n + 1, c :: rest =>
    match separator.isPrefixOf? (c :: rest) with
    | some after => piece.reverse :: splitBy separator [] n after
    | none => splitBy separator (c :: piece) n rest

def split (separator cs : List Char) : List (List Char) :=
  if separator.isEmpty then [] :: cs.map (fun c => [c]) ++ [[]]
  else splitBy separator [] (cs.length + 1) cs

def replaced (table : List (Char × String)) (cs : List Char) : List Char :=
  cs.flatMap fun c =>
    match table.find? (·.1 == c) with
    | some (_, text) => text.toList
    | none => [c]

def pageEscapes : List (Char × String) :=
  [('&', "&amp;"), ('<', "&lt;"), ('>', "&gt;"), ('"', "&quot;"), ('\'', "&#x27;"), ('/', "&#x2F;")]

def dataEscapes : List (Char × String) :=
  [('&', "&amp;"), ('<', "&lt;"), ('>', "&gt;"), ('"', "&quot;"), ('\'', "&apos;")]

def slashes : List (Char × String) :=
  [('\\', "\\\\"), ('"', "\\\""), ('\'', "\\'")]

def indented (start : List Char) (first blank : Bool) (cs : List Char) : List Char :=
  match lines cs with
  | [] => []
  | line :: more =>
    (if first then start else []) ++ line ++ more.flatMap fun line =>
      '\n' :: ((if blank || !(trimStart line).isEmpty then start else []) ++ line)

def withoutTags : Nat → List Char → List Char
  | 0, cs => cs
  | _ + 1, [] => []
  | n + 1, c :: rest =>
    if c == '<' then
      let inside := rest.takeWhile (· != '>')
      if inside.isEmpty || inside.length = rest.length then c :: withoutTags n rest
      else withoutTags n (rest.drop (inside.length + 1))
    else c :: withoutTags n rest

def withoutGaps : Nat → List Char → List Char
  | 0, cs => cs
  | _ + 1, [] => []
  | n + 1, c :: rest =>
    let after := rest.dropWhile isBlank
    if c == '>' && after.head? == some '<' then c :: withoutGaps n after
    else c :: withoutGaps n rest

def wholeOf (radix : Nat) (cs : List Char) : Option Int :=
  let (sign, digits) : Int × List Char :=
    match cs with
    | '-' :: digits => (-1, digits)
    | '+' :: digits => (1, digits)
    | digits => (1, digits)
  let value (c : Char) : Nat :=
    if c.isDigit then c.toNat - '0'.toNat
    else if c.isLower then c.toNat - 'a'.toNat + 10
    else if c.isUpper then c.toNat - 'A'.toNat + 10
    else radix
  if digits.isEmpty || digits.any (radix ≤ value ·) then none
  else some (sign * (digits.foldl (fun n c => n * radix + value c) 0 : Nat))

def plain? : String → Option (List Char → List Char)
  | "upper" => some upper
  | "lower" => some lowerWords
  | "trim" => some trim
  | "trim_start" => some trimStart
  | "trim_end" => some trimEnd
  | "capitalize" => some capitalize
  | "title" => some fun cs => title (cs.length + 1) cs
  | "linebreaksbr" => some fun cs => replaced [('\n', "<br>")] (replaceAll "\r\n".toList ['\n'] cs)
  | "striptags" => some fun cs => withoutTags cs.length cs
  | "spaceless" => some fun cs => withoutGaps cs.length cs
  | "escape" => some (replaced pageEscapes)
  | "escape_xml" => some (replaced dataEscapes)
  | "addslashes" => some (replaced slashes)
  | _ => none

def applied? (name : String) (args : Arguments) (cs : List Char) : Option Value := do
  let text (cs : List Char) : Value := .text (String.ofList cs)
  match name with
  | "wordcount" => return .whole (wordCount cs)
  | "truncate" =>
    let length ← args.size "length" (some 255)
    let ending ← args.text "end" (some "…")
    return text (truncated length ending.toList cs)
  | "replace" =>
    let old ← args.text "from" none
    let new ← args.text "to" none
    if old.isEmpty then
      return text (new.toList ++ cs.flatMap fun c => c :: new.toList)
    else return text (replaceAll old.toList new.toList cs)
  | "trim_start_matches" =>
    let piece ← args.text "pat" none
    return text (if piece.isEmpty then cs else trimStartMatches piece.toList cs.length cs)
  | "trim_end_matches" =>
    let piece ← args.text "pat" none
    return text (if piece.isEmpty then cs else trimEndMatches piece.toList cs)
  | "split" =>
    let separator ← args.text "pat" none
    return .list ((split separator.toList cs).map text)
  | "indent" =>
    let start ← args.text "prefix" (some "    ")
    let first ← args.flag "first" false
    let blank ← args.flag "blank" false
    return text (indented start.toList first blank cs)
  | "int" =>
    let radix ← args.size "base" (some 10)
    let default := (Value.entry? "default" args).getD (.whole 0)
    return ((wholeOf radix (trim cs)).map Value.whole).getD default
  | _ =>
    let filter ← plain? name
    return text (filter cs)

end TextFilter

/-! ### Lists -/

namespace ListFilter

def keysOf (path : String) : List String :=
  if path.isEmpty then [] else (Text.splitAt '.' path.toList).map String.ofList

def atMost : Value → Value → Bool
  | .flag a, .flag b => !a || b
  | .text a, .text b => a ≤ b
  | .list a, .list b => a.length ≤ b.length
  | a, b =>
    match a.number?, b.number? with
    | some a, some b => a ≤ b
    | _, _ => true

def sameSort : Value → Value → Bool
  | .flag _, .flag _ | .text _, .text _ | .list _, .list _ => true
  | a, b => a.number?.isSome && b.number?.isSome

def sorted (keys : List String) (items : List Value) : Option (List Value) := do
  let pairs ← items.mapM fun item => do return (← item.at? keys, item)
  match pairs with
  | [] => return []
  | (first, _) :: _ =>
    if pairs.all fun pair => sameSort first pair.1 then
      return (pairs.mergeSort fun a b => atMost a.1 b.1).map (·.2)
    else none

def distinct (keys : List String) (items : List Value) : List Value :=
  items.foldl (fun kept item =>
    match item.at? keys with
    | none => kept
    | some key => if kept.any (fun other => (other.at? keys).any (·.same key)) then kept
      else kept ++ [item]) []

def place (length : Nat) (x : Float) : Nat :=
  if 0 ≤ x then x.toUInt64.toNat else (Float.ofNat length + x).toUInt64.toNat

def slice (start finish : Nat) (items : List Value) : List Value :=
  (items.take finish).drop start

def grouped (keys : List String) (items : List Value) : Value :=
  .record <| items.foldl (fun groups item =>
    match item.at? keys with
    | none | some .null => groups
    | some key =>
      let own :=
        match Value.entry? key.shown groups with
        | some (.list own) => own
        | _ => []
      Value.putEntry key.shown (.list (own ++ [item])) groups) []

def applied? (name : String) (args : Arguments) (items : List Value) : Option Value := do
  match name with
  | "first" => return items.head?.getD (.text "")
  | "last" => return items.getLast?.getD (.text "")
  | "nth" => return items[← args.size "n" none]?.getD (.text "")
  | "join" =>
    let separator ← args.text "sep" (some "")
    return .text (separator.intercalate (items.map Value.shown))
  | "sort" => return .list (← sorted (keysOf (← args.text "attribute" (some ""))) items)
  | "unique" => return .list (distinct (keysOf (← args.text "attribute" (some ""))) items)
  | "slice" =>
    let start ← args.number "start" (some 0)
    let finish ← args.number "end" (some (Float.ofNat items.length))
    return .list (slice (place items.length start) (place items.length finish) items)
  | "group_by" => return grouped (keysOf (← args.text "attribute" none)) items
  | "filter" =>
    let keys := keysOf (← args.text "attribute" none)
    let wanted := (Value.entry? "value" args).getD .null
    return .list <| items.filter fun item =>
      let found := (item.at? keys).getD .null
      match wanted with
      | .null => !found.same .null
      | wanted => found.same wanted
  | "map" =>
    let keys := keysOf (← args.text "attribute" none)
    return .list <| items.filterMap fun item => (item.at? keys).filter fun part => !part.same .null
  | "concat" =>
    match ← Value.entry? "with" args with
    | .list more => return .list (items ++ more)
    | item => return .list (items ++ [item])
  | _ => none

end ListFilter

/-! ### Numbers -/

namespace NumberFilter

def power (n : Nat) : Float :=
  Float.ofNat (Nat.pow 10 n)

def rounded (method : String) (x : Float) : Option Float :=
  match method with
  | "common" => some x.round
  | "ceil" => some x.ceil
  | "floor" => some x.floor
  | _ => none

def applied? (name : String) (args : Arguments) (value : Value) : Option Value := do
  let x ← value.number?
  match name with
  | "abs" =>
    match value with
    | .whole n => return .whole n.natAbs
    | _ => return .fraction x.abs
  | "pluralize" =>
    let singular ← args.text "singular" (some "")
    let plural ← args.text "plural" (some "s")
    return .text (if (x.abs - 1).abs > 2.220446049250313e-16 then plural else singular)
  | "round" =>
    let method ← args.text "method" (some "common")
    let places ← args.size "precision" (some 0)
    return .fraction ((← rounded method (x * power places)) / power places)
  | "int" =>
    match value with
    | .whole n => return .whole n
    | _ => return .whole (if x < 0 then -((-x).toUInt64.toNat : Int) else x.toUInt64.toNat)
  | "float" => return .fraction x
  | _ => none

end NumberFilter

/-! ### All filters -/

def applyFilter? (name : String) (args : Arguments) (value : Value) : Option Value :=
  match name, value with
  | "length", .text s => some (.whole s.length)
  | "length", .list items => some (.whole items.length)
  | "length", .record entries => some (.whole entries.length)
  | "reverse", .text s => some (.text (String.ofList s.toList.reverse))
  | "reverse", .list items => some (.list items.reverse)
  | "json_encode", value => do
    let pretty ← args.flag "pretty" false
    return .text (value.notated (if pretty then some 0 else none))
  | "as_str", value => some (.text value.shown)
  | "get", .record entries => do
    let key ← args.text "key" none
    (Value.entry? key entries).or (Value.entry? "default" args)
  | name, .text s => TextFilter.applied? name args s.toList
  | name, .list items => ListFilter.applied? name args items
  | name, value => NumberFilter.applied? name args value

/-! ### Tests -/

def passes? (name : String) (value : Option Value) (args : List Value) : Option Bool := do
  match name, value, args with
  | "defined", value, [] => return value.isSome
  | "undefined", value, [] => return value.isNone
  | "string", some value, [] =>
    match value with
    | .text _ => return true
    | _ => return false
  | "number", some value, [] => return value.number?.isSome
  | "iterable", some value, [] =>
    match value with
    | .list _ | .record _ => return true
    | _ => return false
  | "object", some value, [] =>
    match value with
    | .record _ => return true
    | _ => return false
  | "odd", some (.whole n), [] => return n % 2 ≠ 0
  | "even", some (.whole n), [] => return n % 2 = 0
  | "divisibleby", some (.whole n), [.whole d] => return d ≠ 0 && n % d = 0
  | "starting_with", some (.text s), [.text piece] => return piece.toList.isPrefixOf s.toList
  | "ending_with", some (.text s), [.text piece] => return piece.toList.isSuffixOf s.toList
  | "containing", some value, [wanted] =>
    match value, wanted with
    | .text s, .text piece => return Text.contains piece.toList s.toList
    | .list items, wanted => return items.any (·.same wanted)
    | .record entries, .text key => return (Value.entry? key entries).isSome
    | _, _ => none
  | _, _, _ => none

/-! ### Functions -/

def rangeFrom (start step : Nat) : Nat → List Value
  | 0 => []
  | n + 1 => .whole start :: rangeFrom (start + step) step n

/-- Whether a function goes on without end: it counts by nothing towards a number that is greater. -/
def isEndless (name : String) (args : Arguments) : Bool :=
  name = "range" && args.size "step_by" (some 1) = some 0 &&
    match args.size "start" (some 0), args.size "end" none with
    | some start, some finish => start < finish
    | _, _ => false

def callFunction? (environment : List (String × String)) (name : String) (args : Arguments) :
    Option Value := do
  match name with
  | "range" =>
    let start ← args.size "start" (some 0)
    let step ← args.size "step_by" (some 1)
    let finish ← args.size "end" none
    if finish < start then none
    else return .list (rangeFrom start step ((finish - start + step - 1) / step))
  | "get_env" =>
    let name ← args.text "name" none
    match environment.find? (·.1 == name) with
    | some (_, text) => return .text text
    | none => Value.entry? "default" args
  | _ => none

end SnapshotGen.Template
