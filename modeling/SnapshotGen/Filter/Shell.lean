import SnapshotGen.Filter.LineEditor
import SnapshotGen.Filter.Translation

/-!
The filter `sh`: scripts of simple commands, with pipes, sequences, conditions and redirections.
-/

namespace SnapshotGen.Filter.Shell

inductive Piece
  | text (s : String)
  | parameter (name : String)

abbrev Word := List Piece

inductive Token
  | word (word : Word)
  | operator (symbol : String)

def operators : List String :=
  ["&&", "||", "2>&1", "1>&2", ">&2", ">>", "2>>", "2>", "1>", ">", "<", "|", ";", "\n"]

def operatorAt? (cs : List Char) : Option (String × List Char) :=
  operators.findSome? fun symbol => (symbol.toList.isPrefixOf? cs).map fun rest => (symbol, rest)

def parameterAt? (cs : List Char) : Option (String × List Char) :=
  match cs with
  | '\x7b' :: rest =>
    let name := rest.takeWhile (· ≠ '\x7d')
    some (String.ofList name, rest.drop (name.length + 1))
  | c :: rest =>
    if c.isDigit || ['$', '?', '@', '*', '#'].contains c then some (String.singleton c, rest)
    else
      let name := cs.takeWhile fun c => c.isAlphanum || c = '_'
      if name.isEmpty then none else some (String.ofList name, cs.drop name.length)
  | [] => none

def addChar (word : Option Word) (c : Char) : Option Word :=
  some (word.getD [] ++ [.text (String.singleton c)])

def wordToken (word : Option Word) : List Token :=
  (word.map Token.word).toList

/-- Reads words and operators; inside quotes only parameters and backslashes are special. -/
def tokens (quote : Option Char) (word : Option Word) : Nat → List Char → Option (List Token)
  | 0, _ => none
  | _ + 1, [] => if quote.isSome then none else some (wordToken word)
  | n + 1, c :: cs =>
    match quote, c, cs with
    | some '\'', '\'', _ => tokens none word n cs
    | some '\'', _, _ => tokens quote (addChar word c) n cs
    | some '"', '"', _ => tokens none word n cs
    | some '"', '\\', d :: rest =>
      if ['"', '\\', '$', '`'].contains d then tokens quote (addChar word d) n rest
      else tokens quote (addChar (addChar word c) d) n rest
    | none, '\\', d :: rest => tokens quote (addChar word d) n rest
    | none, '\'', _ | none, '"', _ => tokens (some c) (some (word.getD [])) n cs
    | _, '$', _ =>
      match parameterAt? cs with
      | some (name, rest) => tokens quote (some (word.getD [] ++ [.parameter name])) n rest
      | none => tokens quote (addChar word c) n cs
    | some _, _, _ => tokens quote (addChar word c) n cs
    | none, _, _ =>
      if c = ' ' || c = '\t' then (tokens none none n cs).map (wordToken word ++ ·)
      else if c = '#' && word.isNone then tokens none none n (cs.dropWhile (· ≠ '\n'))
      else
        match operatorAt? (c :: cs) with
        | some (symbol, rest) =>
          if c.isDigit && word.isSome then tokens none (addChar word c) n cs
          else (tokens none none n rest).map (wordToken word ++ .operator symbol :: ·)
        | none => tokens none (addChar word c) n cs

structure Command where
  words : List Word
  redirections : List (String × Option Word)

/-- Commands joined by pipes, and the operator in front of them. -/
structure Pipeline where
  joint : String
  commands : List Command

def redirections : List String :=
  ["2>&1", "1>&2", ">&2", ">>", "2>>", "2>", "1>", ">", "<"]

def pipelines (current : Pipeline) (command : Command) : List Token → List Pipeline
  | [] => [{ current with commands := current.commands ++ [command] }]
  | .word word :: more =>
    pipelines current { command with words := command.words ++ [word] } more
  | .operator symbol :: .word target :: more =>
    if symbol.contains '&' && redirections.contains symbol then
      pipelines current
        { words := command.words ++ [target]
          redirections := command.redirections ++ [(symbol, none)] } more
    else if redirections.contains symbol then
      pipelines current
        { command with redirections := command.redirections ++ [(symbol, some target)] } more
    else if symbol = "|" then
      pipelines { current with commands := current.commands ++ [command] } ⟨[target], []⟩ more
    else
      { current with commands := current.commands ++ [command] } ::
        pipelines ⟨symbol, []⟩ ⟨[target], []⟩ more
  | .operator symbol :: more =>
    if redirections.contains symbol then
      pipelines current
        { command with redirections := command.redirections ++ [(symbol, none)] } more
    else if symbol = "|" then
      pipelines { current with commands := current.commands ++ [command] } ⟨[], []⟩ more
    else
      { current with commands := current.commands ++ [command] } :: pipelines ⟨symbol, []⟩ ⟨[], []⟩ more

structure State where
  input : Bytes
  output : Bytes
  complaint : Bytes
  ending : Ending
  isOver : Bool

def parameter (arguments : List String) (ending : Ending) (name : String) : String :=
  match name with
  | "?" => match ending with | .code n => toString n | .signal n => toString (128 + n)
  | "$" => "$$"
  | "#" => toString (arguments.length - 1)
  | "@" | "*" => " ".intercalate (arguments.drop 1)
  | name => (name.toNat?.bind fun n => arguments[n]?).getD (if name = "0" then "sh" else "")

def expanded (arguments : List String) (ending : Ending) (word : Word) : String :=
  String.join (word.map fun
    | .text s => s
    | .parameter name => parameter arguments ending name)

def signalOf (word : String) : Nat :=
  let name := String.ofList (word.toList.dropWhile (· = '-'))
  (name.toNat?.or ((Ending.signalNames.find? fun (_, full) =>
    full = name || full = "SIG" ++ name).map (·.1))).getD 15

inductive Course
  | stop (ending : Ending)
  | run (filter : Filter)

def course (programs : String → Option Filter) (ending : Ending) (words : List String) : Course :=
  match words with
  | "exit" :: code => .stop (((code.head?.bind String.toNat?).map Ending.code).getD ending)
  | "kill" :: arguments =>
    let signal := (arguments.head?.filter (·.startsWith "-")).elim 15 signalOf
    if arguments.getLast? = some "$$" then .stop (.signal signal)
    else .run fun _ input => .silent 0 input
  | [] | ":" :: _ | "set" :: _ | "sleep" :: _ => .run fun _ input => .silent 0 input
  | "echo" :: _ => .run (echo true)
  | name :: _ =>
    match programs name with
    | some filter => .run filter
    | none => .run fun _ input => .refused ("sh: 1: " ++ name ++ ": not found\n") 127 input

/-- Sends what a command wrote where it is redirected. -/
def redirected (arguments : List String) (outcome : Outcome) : List (String × Option Word) → Outcome
  | [] => outcome
  | (symbol, target) :: more =>
    let later := redirected arguments outcome more
    match symbol, target with
    | "2>&1", _ => { later with output := later.output ++ later.complaint, complaint := [] }
    | "1>&2", _ | ">&2", _ =>
      { later with output := [], complaint := later.complaint ++ later.output }
    | "2>", _ | "2>>", _ => { later with complaint := [] }
    | "<", _ => later
    | _, _ => { later with output := [] }

def runCommands (programs : String → Option Filter) (arguments : List String) (state : State) :
    List Command → State
  | [] => state
  | command :: more =>
    let words := command.words.map (expanded arguments state.ending)
    let words := if words.head? = some "exec" then words.drop 1 else words
    match course programs state.ending words with
    | .stop ending => { state with ending, isOver := true }
    | .run filter =>
      let isEmptied := command.redirections.any (·.1 = "<")
      let outcome := filter (words.drop 1) (if isEmptied then [] else state.input)
      let outcome := redirected arguments outcome command.redirections
      let complaint := state.complaint ++ outcome.complaint
      if more.isEmpty then
        { state with
          input := if isEmptied then state.input else outcome.unread
          output := state.output ++ outcome.output
          complaint
          ending := outcome.ending }
      else
        let next := runCommands programs arguments
          { state with input := outcome.output, complaint, ending := outcome.ending } more
        { next with input := if isEmptied then state.input else outcome.unread, isOver := false }

def startsExec (arguments : List String) (pipeline : Pipeline) : Bool :=
  match pipeline.commands with
  | [command] => (command.words.head?.map (expanded arguments (.code 0))) = some "exec"
  | _ => false

def run (programs : String → Option Filter) (arguments : List String) (state : State)
    (pipeline : Pipeline) : State :=
  let isDue :=
    match pipeline.joint with
    | "&&" => state.ending.isSuccess
    | "||" => !state.ending.isSuccess
    | _ => true
  let isVoid := pipeline.commands.all fun command =>
    command.words.isEmpty && command.redirections.isEmpty
  if state.isOver || !isDue || isVoid then state
  else
    let next := runCommands programs arguments state pipeline.commands
    { next with isOver := next.isOver || startsExec arguments pipeline }

def script (programs : String → Option Filter) (text : String) (arguments : List String) : Filter :=
  fun _ input =>
    match tokens none none (text.length + 1) text.toList with
    | none => .refused "sh: 1: Syntax error: Unterminated quoted string\n" 2 input
    | some tokens =>
      let start : State := ⟨input, [], [], .code 0, false⟩
      let final := (pipelines ⟨";", []⟩ ⟨[], []⟩ tokens).foldl (run programs arguments) start
      ⟨final.output, final.complaint, final.ending, final.input⟩

/-- A shell with the programs that it can call. -/
def sh (programs : String → Option Filter) : Filter := fun arguments input =>
  match arguments with
  | "-c" :: text :: arguments => script programs text arguments [] input
  | [] => script programs (String.fromUTF8? ⟨input.toArray⟩ |>.getD "") [] [] []
  | name :: _ => .refused ("sh: 0: cannot open " ++ name ++ ": No such file\n") 2 input

end SnapshotGen.Filter.Shell
