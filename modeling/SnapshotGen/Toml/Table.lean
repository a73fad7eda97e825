import SnapshotGen.Datum.Basic

/-!
Tables while a TOML document is read. A table is made by a header, by a key with dots, or only as a
part of the path to another one; that decides what may still be put into it.
-/

namespace SnapshotGen.Toml

inductive Item
  | value (value : Datum)
  | table (isImplied isDotted : Bool) (entries : List (String × Item))
  | tables (rows : List (List (String × Item)))
  deriving Inhabited

structure Table where
  isImplied : Bool
  isDotted : Bool
  entries : List (String × Item)

namespace Table

def top : Table :=
  ⟨false, false, []⟩

def item (table : Table) : Item :=
  .table table.isImplied table.isDotted table.entries

def entry? (table : Table) (key : String) : Option Item :=
  (table.entries.find? (·.1 == key)).map (·.2)

def setEntry (table : Table) (key : String) (item : Item) : Table :=
  let isThere := table.entries.any (·.1 == key)
  let entries :=
    if isThere then table.entries.map fun entry => if entry.1 == key then (key, item) else entry
    else table.entries ++ [(key, item)]
  { table with entries }

/-- Changes the table at the end of a path; what is missing on the way is made. A path of a key with
dots does not lead through tables that a header made. -/
def change (dotted : Bool) (f : Table → Option Table) : List String → Table → Option Table
  | [], table => f table
  | key :: path, table =>
    match table.entry? key with
    | none => do
      return table.setEntry key (← change dotted f path ⟨true, dotted, []⟩).item
    | some (.value _) => none
    | some (.table isImplied isDotted entries) =>
      if dotted && !isImplied then none
      else do
        return table.setEntry key (← change dotted f path ⟨isImplied, isDotted, entries⟩).item
    | some (.tables rows) =>
      match rows.getLast? with
      | none => none
      | some entries => do
        let row ← change dotted f path ⟨false, false, entries⟩
        return table.setEntry key (.tables (rows.dropLast ++ [row.entries]))

def putNew (isDirect : Bool) (key : String) (value : Datum) (table : Table) : Option Table :=
  if table.isDotted == isDirect then none
  else if (table.entry? key).isSome then none
  else some (table.setEntry key (.value value))

def put (header path : List String) (value : Datum) (table : Table) : Option Table :=
  match path.getLast? with
  | none => none
  | some key =>
    change false (change true (putNew (path.length == 1) key value) path.dropLast) header table

def startIn (key : String) (parent : Table) : Option Table :=
  match parent.entry? key with
  | none => some (parent.setEntry key (.table false false []))
  | some (.table true false entries) => some (parent.setEntry key (.table false false entries))
  | _ => none

/-- Starts the table of a header. A table is started once. -/
def start (header : List String) (table : Table) : Option Table :=
  match header.getLast? with
  | none => none
  | some key => change false (startIn key) header.dropLast table

def startRowIn (key : String) (parent : Table) : Option Table :=
  match parent.entry? key with
  | none => some (parent.setEntry key (.tables [[]]))
  | some (.tables rows) => some (parent.setEntry key (.tables (rows ++ [[]])))
  | _ => none

def startRow (header : List String) (table : Table) : Option Table :=
  match header.getLast? with
  | none => none
  | some key => change false (startRowIn key) header.dropLast table

end Table

mutual

def Item.datum : Item → Datum
  | .value value => value
  | .table _ _ entries => .record (recordOf entries)
  | .tables rows => .list (rowsOf rows)

def recordOf : List (String × Item) → List (String × Datum)
  | [] => []
  | (key, item) :: more => Datum.putEntry key item.datum (recordOf more)

def rowsOf : List (List (String × Item)) → List Datum
  | [] => []
  | row :: more => .record (recordOf row) :: rowsOf more

end

def Table.datum (table : Table) : Datum :=
  .record (recordOf table.entries)

end SnapshotGen.Toml
