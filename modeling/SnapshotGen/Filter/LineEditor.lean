import SnapshotGen.Filter.Pattern
import SnapshotGen.Filter.Lines

/-!
The filter `sed`: commands that replace, translate, print and delete in lines that are chosen by
number or by pattern.
-/

namespace SnapshotGen.Filter.LineEditor

inductive Address
  | always
  | number (n : Nat)
  | last
  | like (pattern : Pattern)
  | between (first last : Nat)

inductive Command
  | replace (pattern : Pattern) (replacement : Bytes) (isGlobal prints : Bool)
  | translate (source target : Bytes)
  | print
  | delete
  | quit

structure Instruction where
  address : Address
  isNegated : Bool
  command : Command

/-- A text up to a closing delimiter. A backslash goes with what follows it, unless that is the
delimiter. -/
def delimited (delimiter : UInt8) : Bytes → Option (Bytes × Bytes)
  | [] => none
  | b :: bs =>
    if b = delimiter then some ([], bs)
    else if b = 0x5C then
      match bs with
      | [] => none
      | c :: bs =>
        (delimited delimiter bs).map fun (text, rest) =>
          (if c = delimiter then c :: text else b :: c :: text, rest)
    else (delimited delimiter bs).map fun (text, rest) => (b :: text, rest)

def isDigit (b : UInt8) : Bool :=
  0x30 ≤ b && b ≤ 0x39

def numberOf (digits : Bytes) : Nat :=
  digits.foldl (fun n b => 10 * n + (b.toNat - 0x30)) 0

def address? (isExtended : Bool) (bytes : Bytes) : Option (Address × Bytes) :=
  match bytes with
  | 0x24 :: bs => some (.last, bs)
  | 0x2F :: bs => do
    let (text, rest) ← delimited 0x2F bs
    return (.like (← Pattern.ofBytes? isExtended text), rest)
  | bs =>
    let digits := bs.takeWhile isDigit
    let rest := bs.drop digits.length
    if digits.isEmpty then some (.always, bs)
    else
      match rest with
      | 0x2C :: rest =>
        let more := rest.takeWhile isDigit
        some (.between (numberOf digits) (numberOf more), rest.drop more.length)
      | rest => some (.number (numberOf digits), rest)

def isFlag (b : UInt8) : Bool :=
  [0x67, 0x70].contains b

def command? (isExtended : Bool) : Bytes → Option (Command × Bytes)
  | 0x73 :: delimiter :: bs => do
    let (pattern, bs) ← delimited delimiter bs
    let (replacement, bs) ← delimited delimiter bs
    let flags := bs.takeWhile isFlag
    return (.replace (← Pattern.ofBytes? isExtended pattern) replacement (flags.contains 0x67)
      (flags.contains 0x70), bs.drop flags.length)
  | 0x79 :: delimiter :: bs => do
    let (source, bs) ← delimited delimiter bs
    let (target, bs) ← delimited delimiter bs
    if source.length = target.length then return (.translate source target, bs) else none
  | 0x70 :: bs => some (.print, bs)
  | 0x64 :: bs => some (.delete, bs)
  | 0x71 :: bs => some (.quit, bs)
  | _ => none

def isGap (b : UInt8) : Bool :=
  isBlankByte b || b = 0x3B

def script? (isExtended : Bool) : Nat → Bytes → Option (List Instruction)
  | 0, _ => none
  | n + 1, bytes =>
    match bytes.dropWhile isGap with
    | [] => some []
    | bs => do
      let (address, bs) ← address? isExtended bs
      let isNegated := bs.head? = some 0x21
      let (command, bs) ← command? isExtended ((if isNegated then bs.drop 1 else bs).dropWhile isBlankByte)
      return ⟨address, isNegated, command⟩ :: (← script? isExtended n bs)

def replacementText (way : Pattern.Way) : Bytes → Bytes
  | 0x5C :: b :: bs =>
    (if isDigit b then (way.taken.lookup (b.toNat - 0x30)).getD []
     else if b = 0x6E then [newline] else [b]) ++ replacementText way bs
  | b :: bs =>
    (if b = 0x26 then (way.taken.lookup 0).getD [] else [b]) ++ replacementText way bs
  | [] => []

def replaced (pattern : Pattern) (replacement : Bytes) (isGlobal : Bool) :
    Nat → Nat → Bytes → Bytes × Bool
  | 0, _, rest => (rest, false)
  | n + 1, before, rest =>
    match pattern.longest? before rest, rest with
    | some way, _ =>
      let size := way.before - before
      let text := replacementText way replacement
      if !isGlobal then (text ++ way.rest, true)
      else if size = 0 then
        match rest with
        | [] => (text, true)
        | b :: bs => (text ++ b :: (replaced pattern replacement true n (before + 1) bs).1, true)
      else (text ++ (replaced pattern replacement true n way.before way.rest).1, true)
    | none, [] => ([], false)
    | none, b :: bs =>
      let (text, isChanged) := replaced pattern replacement isGlobal n (before + 1) bs
      (b :: text, isChanged)

def applies (address : Address) (place total : Nat) (text : Bytes) : Bool :=
  match address with
  | .always => true
  | .number n => place = n
  | .last => place = total
  | .like pattern =>
    (List.range (text.length + 1)).any fun before => (pattern.longest? before (text.drop before)).isSome
  | .between first last => first ≤ place && (place ≤ last || place = first)

structure Line where
  text : Bytes
  output : Bytes
  isDeleted : Bool
  quits : Bool

def step (place total : Nat) (line : Line) (instruction : Instruction) : Line :=
  if line.isDeleted || line.quits ||
      applies instruction.address place total line.text = instruction.isNegated then line
  else
    match instruction.command with
    | .replace pattern replacement isGlobal prints =>
      let (text, isChanged) :=
        replaced pattern replacement isGlobal (line.text.length + 2) 0 line.text
      { line with text, output := line.output ++ if prints && isChanged then text ++ [newline] else [] }
    | .translate source target =>
      let text := line.text.map fun b =>
        ((source.idxOf? b).bind fun place => target[place]?).getD b
      { line with text }
    | .print => { line with output := line.output ++ line.text ++ [newline] }
    | .delete => { line with isDeleted := true }
    | .quit => { line with quits := true }

def edited (script : List Instruction) (isSilent : Bool) (place total : Nat) : List Bytes → Bytes
  | [] => []
  | line :: more =>
    let final := script.foldl (step place total) ⟨lineText line, [], false, false⟩
    final.output ++
      (if isSilent || final.isDeleted then [] else final.text ++ line.filter (· = newline)) ++
      if final.quits then [] else edited script isSilent (place + 1) total more

def sed : Filter := fun arguments input =>
  let isExtended := hasOption 'E' arguments || hasOption 'r' arguments
  let scripts := arguments.filter fun argument => !argument.startsWith "-"
  let text := ofText ("\n".intercalate scripts)
  match script? isExtended (text.length + 1) text with
  | some script =>
    let all := lines input
    .done (edited script (hasOption 'n' arguments) 1 all.length all)
  | none => .refused "sed: -e expression #1, char 1: unknown command\n" 1 input

end SnapshotGen.Filter.LineEditor
