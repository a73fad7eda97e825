/-!
Data as they come from outside: from a configuration file, an environment variable or a description
of a component.
-/

namespace SnapshotGen

/-- Whole numbers are marked by how they were given; other numbers are kept as they are shown. -/
inductive Datum
  | null
  | flag (holds : Bool)
  | whole (signed : Bool) (n : Int)
  | fraction (shown : String)
  | letter (c : Char)
  | text (s : String)
  | list (items : List Datum)
  | record (entries : List (String × Datum))
  deriving Inhabited, Repr

namespace Datum

mutual

def depth : Datum → Nat
  | list items => listDepth items + 1
  | record entries => recordDepth entries + 1
  | _ => 0

def listDepth : List Datum → Nat
  | [] => 0
  | datum :: more => max datum.depth (listDepth more)

def recordDepth : List (String × Datum) → Nat
  | [] => 0
  | (_, datum) :: more => max datum.depth (recordDepth more)

end

def entry? (key : String) (entries : List (String × Datum)) : Option Datum :=
  (entries.find? (·.1 == key)).map (·.2)

/-- Puts an entry into its place in the order of keys, in place of one with the same key. -/
def putEntry (key : String) (value : Datum) : List (String × Datum) → List (String × Datum)
  | [] => [(key, value)]
  | (other, kept) :: more =>
    if key = other then (key, value) :: more
    else if key < other then (key, value) :: (other, kept) :: more
    else (other, kept) :: putEntry key value more

mutual

/-- Lays data over others: records are merged entry by entry, all else is replaced. -/
def overlay (low high : Datum) : Datum :=
  match high with
  | record entries =>
    match low with
    | record base => record (overlayEntries base entries)
    | _ => record entries
  | other => other

def overlayEntries (base : List (String × Datum)) :
    List (String × Datum) → List (String × Datum)
  | [] => base
  | (key, datum) :: more =>
    let laid :=
      match entry? key base with
      | some low => overlay low datum
      | none => datum
    overlayEntries (putEntry key laid base) more

end

def nest (path : List String) (datum : Datum) : Datum :=
  path.foldr (fun key inner => record [(key, inner)]) datum

end Datum

end SnapshotGen
