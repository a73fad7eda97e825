import SnapshotGen.Filter.Basic

/-!
Filters that pass on, count, choose or order lines.
-/

namespace SnapshotGen.Filter

/-- Options in front of the other arguments: words that begin with a dash. -/
def options (arguments : List String) : List String :=
  arguments.filter fun argument => argument.startsWith "-" && argument ≠ "-" && argument ≠ "--"

def operands (arguments : List String) : List String :=
  arguments.filter fun argument => !argument.startsWith "-"

def hasOption (letter : Char) (arguments : List String) : Bool :=
  (options arguments).any fun option => option.toList.contains letter

def pad (width : Nat) (text : String) : String :=
  "".pushn ' ' (width - text.length) ++ text

def numbered (place : Nat) : List Bytes → Bytes
  | [] => []
  | line :: more => ofText (pad 6 (toString place) ++ "\t") ++ line ++ numbered (place + 1) more

def cat : Filter := fun arguments input =>
  let missing := operands arguments
  let readsInput := missing.isEmpty || arguments.contains "-"
  let text := if hasOption 'n' arguments then numbered 1 (lines input) else input
  let complaint := String.join (missing.map fun name => "cat: " ++ name ++ ": No such file or directory\n")
  { output := if readsInput then text else []
    complaint := ofText complaint
    ending := .code (if missing.isEmpty then 0 else 1)
    unread := if readsInput then [] else input }

def numberOption? (letter : Char) : List String → Option Nat
  | [] => none
  | argument :: more =>
    match argument.toList with
    | '-' :: c :: digits =>
      if c = letter then
        if digits.isEmpty then (more.head?.map (·.toList)).bind fun cs => (String.ofList cs).toNat?
        else (String.ofList digits).toNat?
      else if c.isDigit && letter = 'n' then (String.ofList (c :: digits)).toNat?
      else numberOption? letter more
    | _ => numberOption? letter more

def head : Filter := fun arguments input =>
  match numberOption? 'c' arguments with
  | some n => .done (input.take n)
  | none => .done ((lines input).take ((numberOption? 'n' arguments).getD 10)).flatten

def tail : Filter := fun arguments input =>
  match numberOption? 'c' arguments with
  | some n => .done (input.drop (input.length - n))
  | none =>
    let all := lines input
    .done (all.drop (all.length - (numberOption? 'n' arguments).getD 10)).flatten

def wc : Filter := fun arguments input =>
  let asked (letter : Char) : Bool := hasOption letter arguments
  let anyAsked := (options arguments).any (· ≠ "-")
  let counts :=
    (if asked 'l' || !anyAsked then [input.count newline] else []) ++
      (if asked 'w' || !anyAsked then [wordCount input] else []) ++
      (if asked 'c' || asked 'm' || !anyAsked then [input.length] else [])
  let width := if counts.length = 1 then 1 else 7
  .done (ofText (" ".intercalate (counts.map fun n => pad width (toString n)) ++ "\n"))

def ended (line : Bytes) : Bytes :=
  lineText line ++ [newline]

def sort : Filter := fun arguments input =>
  let all := ((lines input).map lineText).mergeSort fun a b => a ≤ b
  let all := if hasOption 'r' arguments then all.reverse else all
  let all := if hasOption 'u' arguments then all.eraseDups else all
  .done (all.flatMap ended)

def tac : Filter := fun _ input =>
  .done (lines input).reverse.flatten

def rev : Filter := fun _ input =>
  .done ((lines input).flatMap fun line =>
    (lineText line).reverse ++ line.filter (· = newline))

/-- Lines that equal the line before are left out. -/
def uniq : Filter := fun _ input =>
  let kept := (lines input).foldl (fun kept line =>
    if kept.getLast?.map lineText = some (lineText line) then kept else kept ++ [line]) []
  .done (kept.flatMap ended)

end SnapshotGen.Filter
