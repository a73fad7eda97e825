import SnapshotGen.Filter.Words

/-!
The filter `tr`: bytes of one set become those of another, or are left out.
-/

namespace SnapshotGen.Filter.Translation

def byteRange (low high : UInt8) : Bytes :=
  (List.range (high.toNat + 1 - low.toNat)).map fun n => UInt8.ofNat (low.toNat + n)

def allBytes : Bytes :=
  byteRange 0 255

def digits : Bytes := byteRange 0x30 0x39
def uppers : Bytes := byteRange 0x41 0x5A
def lowers : Bytes := byteRange 0x61 0x7A

def classes : List (String × Bytes) :=
  [("[:alpha:]", uppers ++ lowers), ("[:digit:]", digits), ("[:upper:]", uppers),
    ("[:lower:]", lowers), ("[:alnum:]", digits ++ uppers ++ lowers),
    ("[:space:]", allBytes.filter isBlankByte), ("[:blank:]", [0x09, 0x20]),
    ("[:punct:]", allBytes.filter fun b =>
      0x21 ≤ b && b ≤ 0x7E && !(digits ++ uppers ++ lowers).contains b)]

def expanded : Bytes → Bytes
  | low :: 0x2D :: high :: bs => byteRange low high ++ expanded bs
  | b :: bs => b :: expanded bs
  | [] => []

def set (text : String) : Bytes :=
  match classes.lookup text with
  | some bytes => bytes
  | none => expanded (unescaped text.toList)

/-- The byte that stands where the other one does; the last byte serves for all further ones. -/
def translated (source target : Bytes) (b : UInt8) : UInt8 :=
  match source.reverse.idxOf? b with
  | none => b
  | some place => (target[source.length - 1 - place]?).getD (target.getLast?.getD b)

def squeezed (chosen : Bytes) : Bytes → Bytes
  | b :: c :: bs =>
    if b = c && chosen.contains b then squeezed chosen (c :: bs) else b :: squeezed chosen (c :: bs)
  | bs => bs

def tr : Filter := fun arguments input =>
  let letters := options arguments
  let has (letter : Char) : Bool := letters.any (·.toList.contains letter)
  let sets := arguments.filter fun argument => !letters.contains argument
  let first := set (sets.headD "")
  let chosen := if has 'c' || has 'C' then allBytes.filter (!first.contains ·) else first
  match sets with
  | [] => .refused "tr: missing operand\nTry 'tr --help' for more information.\n" 1 input
  | [only] =>
    if has 'd' then .done (input.filter (!chosen.contains ·))
    else if has 's' then .done (squeezed chosen input)
    else
      .refused ("tr: missing operand after '" ++ only ++ "'\nTwo strings must be given when " ++
        "translating.\nTry 'tr --help' for more information.\n") 1 input
  | _ :: second :: _ =>
    let target := set second
    if has 'd' then .done (squeezed target (input.filter (!chosen.contains ·)))
    else
      let output := input.map (translated chosen target)
      .done (if has 's' then squeezed target output else output)

end SnapshotGen.Filter.Translation
