import SnapshotGen.Filter.Exchange
import SnapshotGen.Filter.Shell

/-!
The programs that can be called by name.
-/

namespace SnapshotGen.Filter

def simple : List (String × Filter) :=
  [("cat", cat), ("echo", echo false), ("printf", printf), ("true", fun _ => .silent 0),
    ("false", fun _ => .silent 1), ("head", head), ("tail", tail), ("wc", wc), ("sort", sort),
    ("tac", tac), ("rev", rev), ("uniq", uniq), ("tr", Translation.tr), ("sed", LineEditor.sed)]

def plainName (name : String) : String :=
  (["/bin/", "/usr/bin/"].findSome? fun directory =>
    (directory.toList.isPrefixOf? name.toList).map String.ofList).getD name

/-- The programs that a shell is not needed for. All but `cat` are taken to read before they write. -/
def simpleProcess? (name : String) : Option Process :=
  (simple.lookup (plainName name)).map fun filter =>
    if plainName name = "cat" then .copying .usual filter else .reading filter

/-- Ends a command that would never return by itself. -/
def timeout : Process := fun arguments input =>
  match arguments with
  | _ :: name :: arguments =>
    match simpleProcess? name with
    | some process => some ((process arguments input).getD ⟨[], [], .code 124, []⟩)
    | none =>
      some (.refused ("timeout: failed to run command '" ++ name ++ "': No such file or directory\n")
        127 input)
  | _ => some (.refused "Try 'timeout --help' for more information.\n" 125 input)

/-- A program by the name it is called by; a shell can call all filters. -/
def standard? (name : String) : Option Process :=
  if ["sh", "bash", "dash"].contains (plainName name) then
    some (.reading (Shell.sh fun name => simple.lookup name))
  else if plainName name = "timeout" then some timeout
  else simpleProcess? name

end SnapshotGen.Filter
