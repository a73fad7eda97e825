import SnapshotGen.Text.Blank

/-!
Environments: named variables in the order in which they were set.
-/

namespace SnapshotGen

structure Environment where
  «variables» : List (String × String)
  deriving DecidableEq, Repr

namespace Environment

def value? (environment : Environment) (name : String) : Option String :=
  (environment.variables.find? (·.1 == name)).map (·.2)

def setNew (environment : Environment) (name value : String) : Environment :=
  match environment.value? name with
  | some _ => environment
  | none => ⟨environment.variables ++ [(name, value)]⟩

/-- A variable from a text with an equals sign behind its name. -/
def assignment? (text : List Char) : Option (String × String) :=
  match text.dropWhile (· != '=') with
  | _ :: value => some (String.ofList (text.takeWhile (· != '=')), String.ofList value)
  | [] => none

/-- The environment of assignments that each end with a null character. -/
def ofText (text : List Char) : Environment :=
  ⟨(Text.splitAt '\x00' text).filterMap assignment?⟩

end Environment

end SnapshotGen
