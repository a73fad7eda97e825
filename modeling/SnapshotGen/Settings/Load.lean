import SnapshotGen.Settings
import SnapshotGen.Settings.Variable
import SnapshotGen.Settings.VariableFile
import SnapshotGen.Toml.Document

/-!
Loading settings: what a user's file gives lies over the standard settings, what a project's file
gives over that, and environment variables over all.
-/

namespace SnapshotGen.Settings

structure Sources where
  userFile : Option String
  projectFile : Option String
  variableFile : Option String
  environment : Environment

inductive Layer
  | userFile
  | projectFile
  | environment
  deriving DecidableEq, Repr

inductive LoadFailure
  | malformed
  | misfit (misfit : Misfit) (layer : Option Layer)

def reaches : List String → Datum → Bool
  | [], _ => true
  | key :: path, .record entries => (Datum.entry? key entries).any (reaches path)
  | key :: path, .list items => (key.toNat?.bind fun place => items[place]?).any (reaches path)
  | _ :: _, _ => false

namespace Sources

def fullEnvironment (sources : Sources) : Environment :=
  match sources.variableFile with
  | some text => VariableFile.extend sources.environment text
  | none => sources.environment

def layers? (sources : Sources) : Option (List (Layer × Datum)) := do
  let userFile ← sources.userFile.toList.mapM Toml.read?
  let projectFile ← sources.projectFile.toList.mapM Toml.read?
  return userFile.map (.userFile, ·) ++ projectFile.map (.projectFile, ·) ++
    [(.environment, Variable.settings sources.fullEnvironment)]

end Sources

/-- The highest layer that holds something at the end of a path. -/
def layerOf? (layers : List (Layer × Datum)) (path : List String) : Option Layer :=
  (layers.reverse.find? fun (_, datum) => reaches path datum).map (·.1)

/-- Each setting has the value that the highest layer gives it; what no layer gives is standard. -/
def load (sources : Sources) : Except LoadFailure Settings :=
  match sources.layers? with
  | none => .error .malformed
  | some layers =>
    let datum := (layers.map (·.2)).foldl Datum.overlay (.record [])
    (ofDatum true datum).mapError fun misfit => .misfit misfit (layerOf? layers misfit.path)

namespace LoadFailure

def layerName (userFileName : String) : Layer → String
  | .userFile => userFileName ++ " TOML file"
  | .projectFile => "snapgen.toml TOML file"
  | .environment => "`SNAPGEN_` environment variable(s)"

def keyName (path : List String) : Layer → String
  | .environment => ".".intercalate (path.map String.toUpper)
  | _ => ".".intercalate ("default" :: path)

def message (userFileName : String) : LoadFailure → String
  | .malformed => "TOML parse error"
  | .misfit found none => found.reason
  | .misfit found (some layer) =>
    let key :=
      if found.path.isEmpty then "" else " for key " ++ Text.quoted (keyName found.path layer)
    found.reason ++ key ++ " in " ++ layerName userFileName layer

end LoadFailure

end SnapshotGen.Settings
