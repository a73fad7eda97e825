/-!
Stand-in values for props that have no default, and the script text each is written as.
-/

namespace SnapshotGen

inductive FakeValue
  | number (n : Int)
  | text (s : String)
  | bool (b : Bool)
  | emptyArray
  | node
  | noop
  | fixture (identifier : String)
  | object (fields : List (String × FakeValue))
  | unknown
  deriving Repr

namespace FakeValue

mutual

/-- The script expression a value is written as. The text of a string stands between double
quotes as it is. -/
def literal : FakeValue → String
  | number n => toString n
  | text s => "\"" ++ s ++ "\""
  | bool b => if b then "true" else "false"
  | emptyArray => "[]"
  | node => "<div>Some node</div>"
  | noop => "() => \x7b\x7d"
  | fixture identifier => identifier
  | object fields =>
    match fields with
    | [] => "\x7b\x7d"
    | _ :: _ => "\x7b " ++ fieldLiterals fields ++ " \x7d"
  | unknown => "\x7b\x7d"

def fieldLiterals : List (String × FakeValue) → String
  | [] => ""
  | [(name, value)] => name ++ ": " ++ value.literal
  | (name, value) :: more => name ++ ": " ++ value.literal ++ ", " ++ fieldLiterals more

end

mutual

def fixtures : FakeValue → List String
  | fixture identifier => [identifier]
  | object fields => fieldFixtures fields
  | _ => []

def fieldFixtures : List (String × FakeValue) → List String
  | [] => []
  | (_, value) :: more => value.fixtures ++ fieldFixtures more

end

end FakeValue

end SnapshotGen
