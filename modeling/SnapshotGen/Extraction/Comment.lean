import SnapshotGen.Text.Blank

/-!
The text of a documentation comment: its lines without the marks and stars around them.
-/

namespace SnapshotGen.Extraction

def dropLeading (piece : List Char) (cs : List Char) : List Char :=
  go cs.length cs
where
  go : Nat → List Char → List Char
    | 0, cs => cs
    | n + 1, cs =>
      match piece.isPrefixOf? cs with
      | some rest => go n rest
      | none => cs

def dropTrailing (piece : List Char) (cs : List Char) : List Char :=
  (dropLeading piece.reverse cs.reverse).reverse

/-- A line without the stars in front of it and one space behind them. -/
def commentLine (line : List Char) : List Char :=
  match (Text.trim line).dropWhile (· == '*') with
  | ' ' :: rest => rest
  | rest => rest

def opening : List Char := "/**".toList

def closing : List Char := "*/".toList

def commentLines (comment : List Char) : List (List Char) :=
  (Text.lines (Text.trim (dropTrailing closing (dropLeading opening comment)))).map commentLine

/-- What a comment says about what stands behind it. Only comments that open with two stars do. -/
def description (comment : List Char) : String :=
  if opening.isPrefixOf comment then
    String.ofList (Text.trim (List.intercalate ['\n'] (commentLines comment)))
  else ""

end SnapshotGen.Extraction
