import SnapshotGen.Environment
import SnapshotGen.Text.Blank
import SnapshotGen.Text.Letter
import SnapshotGen.Text.Reading

/-!
Files of environment variables: a name and a value to a line. A value in quotes may run over
several lines. What a file assigns does not replace what is set already.
-/

namespace SnapshotGen.Settings.VariableFile

open Text (Reading)
open Text.Reading

/-- Where in a line the reader is: only in plain text does a line end with its line feed. -/
inductive LineMode
  | plain
  | gap
  | escaped
  | quoted (quote : Char)
  | quotedEscaped (quote : Char)
  deriving DecidableEq

namespace LineMode

/-- The mode in plain text after a character that does not continue a gap. -/
def afterPlain : Char → LineMode
  | '\\' => escaped
  | '"' => quoted '"'
  | '\'' => quoted '\''
  | _ => plain

def next : LineMode → Char → LineMode
  | plain, c => if Text.isBlank c && c != '\n' && c != '\r' then gap else afterPlain c
  | gap, c => afterPlain c
  | escaped, _ => plain
  | quoted quote, c => if c = '\\' then quotedEscaped quote else if c = quote then plain else quoted quote
  | quotedEscaped quote, _ => quoted quote

end LineMode

/-- What stands in front of a comment, or all of the text with the mode at its end. -/
def scan (mode : LineMode) : List Char → List Char × Option LineMode
  | [] => ([], some mode)
  | c :: cs =>
    if mode = .gap && c == '#' then ([], none)
    else
      let (front, final) := scan (mode.next c) cs
      (c :: front, final)

def withoutEnd (cs : List Char) : List Char :=
  let cs := if cs.getLast? = some '\n' then cs.dropLast else cs
  if cs.getLast? = some '\r' then cs.dropLast else cs

def physicalLines (cs : List Char) : List (List Char) :=
  let pieces := Text.splitAt '\n' cs
  pieces.dropLast.map (· ++ ['\n']) ++ (pieces.getLast?.filter (!·.isEmpty)).toList

/-- Lines with those that continue them. A last line that is not finished does not count. -/
def joined (held : List Char) (mode : LineMode) : List (List Char) → List (List Char)
  | [] => []
  | line :: more =>
    if (Text.trimStart (held ++ line)).head? = some '#' then joined [] .plain more
    else
      match scan mode line with
      | (front, none) => (held ++ front) :: joined [] .plain more
      | (_, some .plain) => withoutEnd (held ++ line) :: joined [] .plain more
      | (_, some mode) => joined (held ++ line) mode more

inductive ValueMode
  | plain (isQuoted : Bool)
  | escaped (isQuoted : Bool)
  | verbatim
  | reference (isQuoted : Bool) (name : List Char)
  | bracedReference (isQuoted : Bool) (name : List Char)
  | ended

def referred (environment : Environment) (name : List Char) : List Char :=
  ((environment.value? (String.ofList name)).getD "").toList

def isAlphanumeric (c : Char) : Bool :=
  Text.isWordChar c && c != '_'

def unescaped? : Char → Option Char
  | 'n' => some '\n'
  | c => if "\\'\"$ ".toList.contains c then some c else none

/-- The value that a text stands for: quotes are dropped, and names after a dollar sign give the
values of variables. -/
def value? (environment : Environment) : ValueMode → List Char → Option (List Char)
  | .plain false, [] | .escaped false, [] | .ended, [] => some []
  | .reference false name, [] => some (referred environment name)
  | _, [] => none
  | .ended, c :: cs =>
    if c == ' ' || c == '\t' then value? environment .ended cs
    else if c == '#' then some []
    else none
  | .escaped isQuoted, c :: cs => do
    return (← unescaped? c) :: (← value? environment (.plain isQuoted) cs)
  | .verbatim, c :: cs =>
    if c == '\'' then value? environment (.plain false) cs
    else (value? environment .verbatim cs).map (c :: ·)
  | .reference isQuoted name, c :: cs =>
    if isAlphanumeric c then value? environment (.reference isQuoted (name ++ [c])) cs
    else if c == '\x7b' && name.isEmpty then value? environment (.bracedReference isQuoted []) cs
    else if c == '$' then
      (value? environment (.reference isQuoted []) cs).map (referred environment name ++ ·)
    else
      (value? environment (.plain isQuoted) cs).map (referred environment name ++ c :: ·)
  | .bracedReference isQuoted name, c :: cs =>
    if c == '\x7d' then
      (value? environment (.plain isQuoted) cs).map (referred environment name ++ ·)
    else value? environment (.bracedReference isQuoted (name ++ [c])) cs
  | .plain isQuoted, c :: cs =>
    if c == '$' then value? environment (.reference isQuoted []) cs
    else if c == '\\' then value? environment (.escaped isQuoted) cs
    else if c == '"' then value? environment (.plain (!isQuoted)) cs
    else if isQuoted then (value? environment (.plain isQuoted) cs).map (c :: ·)
    else if c == '\'' then value? environment .verbatim cs
    else if c == ' ' || c == '\t' then value? environment .ended cs
    else (value? environment (.plain isQuoted) cs).map (c :: ·)

def name : Reading String := do
  let first ← character fun c => c.isAlpha || c == '_'
  let more ← takeWhile fun c => c.isAlphanum || c == '_' || c == '.'
  return String.ofList (first :: more)

def blanks : Reading Unit := do
  discard <| takeWhile Text.isBlank

def target : Reading String := do
  let name ← VariableFile.name
  blanks
  (do
    char '='
    return name) <|>
  (do
    guard (name = "export")
    let name ← VariableFile.name
    blanks
    char '='
    return name)

/-- A line that assigns nothing gives no name. -/
inductive Assignment
  | none
  | variable (name value : String)

def valueAfterBlanks (environment : Environment) (cs : List Char) : Option String :=
  match Text.trimStart cs with
  | [] | '#' :: _ => some ""
  | cs => (value? environment (.plain false) cs).map String.ofList

def assignment? (environment : Environment) (line : List Char) : Option Assignment :=
  match Text.trim line with
  | [] | '#' :: _ => some .none
  | cs => do
    let (name, rest) ← target cs
    return .variable name (← valueAfterBlanks environment rest)

/-- Assigns line by line, up to the first malformed one. -/
def assign (environment : Environment) : List (List Char) → Environment
  | [] => environment
  | line :: more =>
    match assignment? environment line with
    | none => environment
    | some .none => assign environment more
    | some (.variable name value) => assign (environment.setNew name value) more

def extend (environment : Environment) (text : String) : Environment :=
  let cs := text.toList
  let cs := if cs.head? = some '\ufeff' then cs.drop 1 else cs
  assign environment (joined [] .plain (physicalLines cs))

end SnapshotGen.Settings.VariableFile
