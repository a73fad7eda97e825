/-!
Blank characters and the trimming of text at its ends. Trimming works on lists of characters;
the functions on `String` are the same functions read through `toList`.
-/

namespace SnapshotGen.Text

def isBlank (c : Char) : Bool :=
  let n := c.toNat
  (9 ≤ n && n ≤ 13) || n == 0x20 || n == 0x85 || n == 0xA0 || n == 0x1680 ||
    (0x2000 ≤ n && n ≤ 0x200A) || n == 0x2028 || n == 0x2029 || n == 0x202F ||
    n == 0x205F || n == 0x3000

def trimStart (cs : List Char) : List Char :=
  cs.dropWhile isBlank

def trimEnd (cs : List Char) : List Char :=
  (cs.reverse.dropWhile isBlank).reverse

def trim (cs : List Char) : List Char :=
  trimEnd (trimStart cs)

def trimmed (s : String) : String :=
  String.ofList (trim s.toList)

def blank (s : String) : Bool :=
  s.toList.all isBlank

/-- `some rest` when `s` is `start` followed by `rest`. -/
def dropStart? (start s : String) : Option String :=
  (start.toList.isPrefixOf? s.toList).map String.ofList

/-- `some rest` when `s` is `rest` followed by `final`. -/
def dropEnd? (final s : String) : Option String :=
  (final.toList.isSuffixOf? s.toList).map String.ofList

def splitAt (separator : Char) : List Char → List (List Char)
  | [] => [[]]
  | c :: rest =>
    if c = separator then [] :: splitAt separator rest
    else
      match splitAt separator rest with
      | [] => [[c]]
      | piece :: pieces => (c :: piece) :: pieces

def ofLines (lines : List String) : String :=
  String.join (lines.map (· ++ "\n"))

/-- The lines of a text: a line feed ends a line, a carriage return before it belongs to the
ending, and a last line without an ending counts unless it is empty. -/
def lines (cs : List Char) : List (List Char) :=
  let pieces := splitAt '\n' cs
  pieces.dropLast.map withoutReturn ++ (pieces.getLast?.filter (!·.isEmpty)).toList
where
  withoutReturn (line : List Char) : List Char :=
    if line.getLast? = some '\r' then line.dropLast else line

def replaceAll (pattern replacement cs : List Char) : List Char :=
  match pattern with
  | [] => cs
  | p :: ps => go p ps cs
where
  go (p : Char) (ps : List Char) : List Char → List Char
    | [] => []
    | c :: rest =>
      match (p :: ps).isPrefixOf? (c :: rest) with
      | some after =>
        if after.length < (c :: rest).length then replacement ++ go p ps after else c :: go p ps rest
      | none => c :: go p ps rest
  termination_by cs => cs.length
  decreasing_by
    all_goals simp only [List.length_cons] at *
    all_goals omega

def contains (pattern cs : List Char) : Bool :=
  match cs with
  | [] => pattern.isEmpty
  | _ :: rest => pattern.isPrefixOf cs || contains pattern rest

end SnapshotGen.Text
