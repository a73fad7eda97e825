import SnapshotGen.Text.Blank

/-!
The dialects a script can be written in, told by the end of its path.
-/

namespace SnapshotGen.Script

inductive Dialect
  | javaScript
  | typeScript
  | tsx
  deriving DecidableEq, Repr

namespace Dialect

def name : Dialect → String
  | javaScript => "JavaScript"
  | typeScript => "TypeScript"
  | tsx => "Tsx"

def ofExtension? : List Char → Option Dialect
  | ['j', 's'] | ['j', 's', 'x'] | ['m', 'j', 's'] | ['c', 'j', 's'] => some javaScript
  | ['t', 's'] => some typeScript
  | ['t', 's', 'x'] => some tsx
  | _ => none

/-- The dialect is told by what follows the last dot of the path, or by the whole path if there is
no dot. -/
def ofPath? (path : List Char) : Option Dialect :=
  ofExtension? (path.reverse.takeWhile (· ≠ '.')).reverse

def typed : Dialect → Bool
  | javaScript => false
  | typeScript | tsx => true

def elements : Dialect → Bool
  | typeScript => false
  | javaScript | tsx => true

end Dialect

end SnapshotGen.Script
