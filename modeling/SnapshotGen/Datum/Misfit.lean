import SnapshotGen.Datum.Basic
import SnapshotGen.Text.Quoted

/-!
Why data do not fit what they are read as: what was found, what was expected, and where.
-/

namespace SnapshotGen

inductive Misfit.Cause
  | type (found : Datum) (expected : String)
  | length (found : Nat) (expected : String)
  | missing (field : String)
  | variant (found : String) (known : List String)
  | unkeyed (expected : String)

/-- A misfit at the end of a path of keys and places. -/
structure Misfit where
  path : List String
  cause : Misfit.Cause

namespace Misfit

def here (cause : Cause) : Misfit :=
  ⟨[], cause⟩

def under (key : String) (misfit : Misfit) : Misfit :=
  { misfit with path := key :: misfit.path }

/-- What was found, in the words for descriptions. -/
def found : Datum → String
  | .null => "null"
  | .flag holds => "boolean `" ++ (if holds then "true" else "false") ++ "`"
  | .whole _ n => "integer `" ++ toString n ++ "`"
  | .fraction shown => "floating point `" ++ shown ++ "`"
  | .letter c => "character `" ++ String.ofList [c] ++ "`"
  | .text s => "string " ++ Text.quoted s
  | .list _ => "sequence"
  | .record _ => "map"

/-- What was found, in the words for settings. -/
def foundSetting : Datum → String
  | .null => "unit"
  | .flag holds => "bool " ++ (if holds then "true" else "false")
  | .whole signed n => (if signed then "signed" else "unsigned") ++ " int `" ++ toString n ++ "`"
  | .fraction shown => "float `" ++ shown ++ "`"
  | .letter c => "char " ++ Text.quotedBy '\'' [c]
  | .text s => "string " ++ Text.quoted s
  | .list _ => "sequence"
  | .record _ => "map"

def alternatives (names : List String) : String :=
  ", ".intercalate (names.map fun name => "`" ++ name ++ "`")

def Cause.message (found : Datum → String) : Cause → String
  | .type datum expected => "invalid type: " ++ found datum ++ ", expected " ++ expected
  | .length n expected => "invalid length " ++ toString n ++ ", expected " ++ expected
  | .missing field => "missing field `" ++ field ++ "`"
  | .variant name known =>
    "unknown variant `" ++ name ++ "`, expected one of " ++ alternatives known
  | .unkeyed expected => "invalid value: map, expected " ++ expected

def message (misfit : Misfit) : String :=
  misfit.cause.message found

def reason (misfit : Misfit) : String :=
  misfit.cause.message fun datum => "found " ++ foundSetting datum

end Misfit

end SnapshotGen
