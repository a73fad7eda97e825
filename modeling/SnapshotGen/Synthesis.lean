import SnapshotGen.Component
import SnapshotGen.FakeValue
import SnapshotGen.Fixture

/-!
The stand-in value of a prop. The rules are tried in order: the fields of a shape, the kind, the
prop's own name, the type expression, the catalog. What no rule covers has an unknown value.
-/

namespace SnapshotGen

namespace FakeValue

def ofKind? : PropKind → Option FakeValue
  | .number => some (number 42)
  | .string => some (text "lorem ipsum")
  | .bool => some (bool true)
  | .array => some emptyArray
  | .node => some node
  | .func => some noop
  | _ => none

/-- A prop named for a plain kind has a value of that kind. -/
def ofName? (name : String) : Option FakeValue :=
  (PropKind.ofTag? name).bind ofKind?

/-- The last part of `PropTypes.tag` and `React.PropTypes.tag`. -/
def memberTag? (raw : String) : Option String :=
  (Text.dropStart? "React.PropTypes." raw).or (Text.dropStart? "PropTypes." raw)

def ofRawMember? (raw : String) : Option FakeValue :=
  (memberTag? (Fixture.stripRequired raw)).bind fun tag =>
    if tag = "node" then none else ofName? tag

def ofCatalog? (catalog : Catalog) (raw : String) : Option FakeValue :=
  (catalog.lookup? raw).map fun entry => fixture entry.identifier

def ofRawNode? (raw : String) : Option FakeValue :=
  if Fixture.stripRequired raw = "node" then some node else none

def ofPlain (catalog : Catalog) (name : String) (kind : Option PropKind) (raw : Option String) :
    FakeValue :=
  ((kind.bind ofKind?).or <| (ofName? name).or <| (raw.bind ofRawMember?).or <|
    (raw.bind (ofCatalog? catalog)).or <| raw.bind ofRawNode?).getD unknown

end FakeValue

namespace PropDecl

mutual

def synthesize (catalog : Catalog) : PropDecl → FakeValue
  | ⟨_, some ⟨_, _, some fields⟩, _, _⟩ => .object (synthesizeFields catalog fields)
  | ⟨name, some ⟨kind, raw, none⟩, _, _⟩ => .ofPlain catalog name kind raw
  | ⟨name, none, _, _⟩ => .ofPlain catalog name none none

def synthesizeFields (catalog : Catalog) : List PropDecl → List (String × FakeValue)
  | [] => []
  | field :: more => (field.name, field.synthesize catalog) :: synthesizeFields catalog more

end

end PropDecl

end SnapshotGen
