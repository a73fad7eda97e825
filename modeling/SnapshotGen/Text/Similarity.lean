/-!
How similar two texts are: characters match that are equal and stand not too far apart, and matching
characters in another order count half.
-/

namespace SnapshotGen.Text

def matchRange (a b : List Char) : Nat :=
  max a.length b.length / 2 - 1

/-- The first place in a text, near to a given one and not taken yet, that holds a character. -/
def matchNear? (b : List Char) (range : Nat) (taken : List Nat) (place : Nat) (c : Char) :
    Option Nat :=
  (List.range b.length).find? fun other =>
    place ≤ other + range && other ≤ place + range && b[other]? == some c && !taken.contains other

def matching (a b : List Char) : List (Char × Nat) :=
  a.zipIdx.foldl (fun found (c, place) =>
    match matchNear? b (matchRange a b) (found.map (·.2)) place c with
    | some other => found ++ [(c, other)]
    | none => found) []

/-- Between 0 for texts without a match and 1 for equal texts. -/
def similarity (a b : List Char) : Float :=
  if a.isEmpty && b.isEmpty then 1
  else
    let found := matching a b
    let inOrder := (b.zipIdx.filter fun (_, place) => found.any (·.2 == place)).map (·.1)
    let moved := ((found.map (·.1)).zip inOrder).countP fun (c, d) => c != d
    let count := found.length
    if count = 0 then 0
    else
      (count.toFloat / a.length.toFloat + count.toFloat / b.length.toFloat +
        (count - moved / 2).toFloat / count.toFloat) / 3

end SnapshotGen.Text
