import SnapshotGen.Datum.Misfit

/-!
Reading data as plain values, and as records whose fields may also stand in a list, in their order.
-/

namespace SnapshotGen

abbrev Decoded (α : Type) := Except Misfit α

namespace Datum

def misfit (datum : Datum) (expected : String) : Decoded α :=
  .error (.here (.type datum expected))

/-- The value of a part, whose misfits are those of the whole. -/
def within (key : String) (part : Decoded α) : Decoded α :=
  part.mapError (·.under key)

def asText : Datum → Decoded String
  | text s => .ok s
  | letter c => .ok (String.ofList [c])
  | datum => datum.misfit "a string"

def asFlag : Datum → Decoded Bool
  | flag holds => .ok holds
  | datum => datum.misfit "a boolean"

def asList (item : Datum → Decoded α) : Datum → Decoded (List α)
  | list items => go 0 items
  | datum => datum.misfit "a sequence"
where
  go (place : Nat) : List Datum → Decoded (List α)
    | [] => .ok []
    | datum :: more => do
      let first ← within (toString place) (item datum)
      return first :: (← go (place + 1) more)

/-- What may be absent is `null` then. -/
def asOptional (read : Datum → Decoded α) : Datum → Decoded (Option α)
  | null => .ok none
  | datum => some <$> read datum

/-- How a record is read: its name in messages, its fields in order, and how a field is read. An
optional field may be absent in a record, one with a default also in a list; unless the layout is
open, a list has no more items than there are fields. -/
structure Layout (Slot : Type) where
  name : String
  fields : List String
  optional : List String
  defaulted : List String
  isOpen : Bool
  read : String → Datum → Decoded Slot

namespace Layout

def entries (layout : Layout Slot) : List (String × Datum) → Decoded (List (String × Slot))
  | [] => .ok []
  | (key, datum) :: more => do
    if layout.fields.contains key then
      let field ← within key (layout.read key datum)
      return (key, field) :: (← layout.entries more)
    else layout.entries more

/-- Items stand for the fields in order. -/
def items (layout : Layout Slot) (place : Nat) :
    List String → List Datum → Decoded (List (String × Slot))
  | [], _ | _, [] => .ok []
  | key :: keys, datum :: more => do
    let field ← within (toString place) (layout.read key datum)
    return (key, field) :: (← layout.items (place + 1) keys more)

def expected (layout : Layout Slot) : String :=
  "struct " ++ layout.name

def size (layout : Layout Slot) : Nat :=
  layout.fields.length

def lacking? (layout : Layout Slot) (given : List String) : Option String :=
  layout.fields.find? fun field =>
    !(given ++ layout.optional ++ layout.defaulted).contains field

def ofRecord (layout : Layout Slot) (entries : List (String × Datum)) :
    Decoded (List (String × Slot)) := do
  let fields ← layout.entries entries
  match layout.lacking? (fields.map (·.1)) with
  | some field => .error (.here (.missing field))
  | none => return fields

/-- The first place behind the items of a list whose field must not be absent. -/
def shortAt? (layout : Layout Slot) (count : Nat) : Option Nat :=
  ((layout.fields.drop count).findIdx? (!layout.defaulted.contains ·)).map (count + ·)

def ofItems (layout : Layout Slot) (items : List Datum) : Decoded (List (String × Slot)) := do
  let fields ← layout.items 0 layout.fields items
  match layout.shortAt? items.length with
  | some place =>
    let expected := layout.expected ++ " with " ++ toString layout.size ++ " elements"
    .error (.here (.length place expected))
  | none =>
    if layout.size < items.length && !layout.isOpen then
      .error (.here (.length items.length "fewer elements in array"))
    else return fields

def decode (layout : Layout Slot) : Datum → Decoded (List (String × Slot))
  | record entries => layout.ofRecord entries
  | list items => layout.ofItems items
  | datum => datum.misfit layout.expected

end Layout

end Datum

end SnapshotGen
