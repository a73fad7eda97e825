import SnapshotGen.Environment
import SnapshotGen.Settings.VariableValue
import SnapshotGen.Text.Blank

/-!
Settings in environment variables. The name of a variable is the path to a setting, in letters of
any case, with two underscores between its keys.
-/

namespace SnapshotGen.Settings.Variable

def front : List Char :=
  "snapgen_".toList

def pieces (name : List Char) : List (List Char) :=
  Text.splitAt '.' (Text.replaceAll "__".toList ['.'] name)

def path? (name : String) : Option (List String) := do
  let name := (Text.trim name.toList).map Char.toLower
  let keys := pieces (Text.trim (← front.isPrefixOf? name))
  if keys.any List.isEmpty then none else some (keys.map String.ofList)

def setting? (name value : String) : Option Datum :=
  (path? name).map fun path => Datum.nest path (VariableValue.datum value)

def settings (environment : Environment) : Datum :=
  let given := environment.variables.filterMap fun (name, value) => setting? name value
  given.foldl Datum.overlay (.record [])

end SnapshotGen.Settings.Variable
