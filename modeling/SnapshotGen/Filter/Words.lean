import SnapshotGen.Filter.Lines

/-!
Filters that write their arguments.
-/

namespace SnapshotGen.Filter

def octalValue (digits : List Char) : UInt8 :=
  UInt8.ofNat (digits.foldl (fun n c => 8 * n + (c.toNat - '0'.toNat)) 0)

def isOctal (c : Char) : Bool :=
  '0' ≤ c && c ≤ '7'

def plainEscape? : Char → Option UInt8
  | 'n' => some 0x0A
  | 't' => some 0x09
  | 'r' => some 0x0D
  | 'a' => some 0x07
  | 'b' => some 0x08
  | 'f' => some 0x0C
  | 'v' => some 0x0B
  | '\\' => some 0x5C
  | _ => none

def charBytes (c : Char) : Bytes :=
  ofText (String.ofList [c])

/-- The bytes of a text with escapes: letters, or up to three octal digits. -/
def unescaped (cs : List Char) : Bytes :=
  match cs with
  | [] => []
  | '\\' :: rest =>
    let digits := (rest.take 3).takeWhile isOctal
    if digits.isEmpty then
      match rest with
      | [] => charBytes '\\'
      | c :: more =>
        match plainEscape? c with
        | some b => b :: unescaped more
        | none => charBytes '\\' ++ charBytes c ++ unescaped more
    else octalValue digits :: unescaped (rest.drop digits.length)
  | c :: rest => charBytes c ++ unescaped rest
termination_by cs.length
decreasing_by
  all_goals simp only [List.length_cons, List.length_drop]
  all_goals omega

def echo (readsEscapes : Bool) : Filter := fun arguments input =>
  let isFlag (word : String) : Bool := word = "-n" || (!readsEscapes && word = "-e")
  let flags := arguments.takeWhile isFlag
  let text := " ".intercalate (arguments.drop flags.length)
  let body :=
    if readsEscapes || flags.contains "-e" then unescaped text.toList else ofText text
  { output := body ++ if flags.contains "-n" then [] else [newline]
    complaint := []
    ending := .code 0
    unread := input }

def filled (arguments : List String) : List Char → List Char
  | '%' :: '%' :: cs => '%' :: filled arguments cs
  | '%' :: c :: cs =>
    if c = 's' || c = 'd' then
      (arguments.headD (if c = 'd' then "0" else "")).toList ++ filled (arguments.drop 1) cs
    else '%' :: c :: filled arguments cs
  | c :: cs => c :: filled arguments cs
  | [] => []

def printf : Filter := fun arguments input =>
  match arguments with
  | [] => .refused "printf: usage: printf format [arg ...]\n" 2 input
  | format :: more =>
    { output := unescaped (filled more format.toList), complaint := [], ending := .code 0
      unread := input }

end SnapshotGen.Filter
