import SnapshotGen.Toml.Value

/-!
TOML documents, line by line.
-/

namespace SnapshotGen.Toml

open Text (Reading)
open Text.Reading

inductive Line
  | blank
  | entry (path : List String) (value : Datum)
  | header (path : List String)
  | rowHeader (path : List String)

def between (front back : String) (p : Reading α) : Reading α := do
  token front
  blanks
  let a ← p
  blanks
  token back
  return a

def content : Reading Line :=
  Line.rowHeader <$> between "[[" "]]" keyPath <|>
  Line.header <$> between "[" "]" keyPath <|>
  (do
    let (path, value) ← keyValue value
    return .entry path value) <|>
  pure .blank

def line : Reading Line := do
  blanks
  let content ← content
  blanks
  discard <| optional comment
  return content

def lines : Reading (List Line) := do
  discard <| optional (char '\ufeff')
  let first ← line
  let more ← many do
    lineEnd
    line
  return first :: more

/-- The table of all lines; every line but a header belongs to the header above it. -/
def assemble (header : List String) (table : Table) : List Line → Option Table
  | [] => some table
  | .blank :: more => assemble header table more
  | .entry path value :: more => do assemble header (← table.put header path value) more
  | .header path :: more => do assemble path (← table.start path) more
  | .rowHeader path :: more => do assemble path (← table.startRow path) more

def read? (text : String) : Option Datum := do
  let table ← assemble [] .top (← whole? lines text.toList)
  return table.datum

end SnapshotGen.Toml
