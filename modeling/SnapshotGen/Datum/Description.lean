import SnapshotGen.Component
import SnapshotGen.Datum.Decoding
import SnapshotGen.Fixture

/-!
Descriptions of components, props, kinds and fixtures as data.
-/

namespace SnapshotGen

open Datum

def Datum.pick? (fields : List (String × Slot)) (key : String) (sort : Slot → Option α) :
    Option α :=
  (fields.find? (·.1 == key)).bind fun field => sort field.2

namespace PropKind

def ofName (name : String) : Decoded PropKind :=
  match ofTag? name with
  | some kind => .ok kind
  | none => .error (.here (.variant name (all.map tag)))

/-- A kind is its tag, or a record with its tag for a key and nothing for a value. -/
def ofDatum : Datum → Decoded PropKind
  | .text name => ofName name
  | .record [(name, value)] => do
    let kind ← ofName name
    match value with
    | .null => return kind
    | value => value.misfit "unit"
  | .record _ => .error (.here (.unkeyed "map with a single key"))
  | datum => datum.misfit "string or map"

end PropKind

inductive TypeField
  | kind (kind : Option PropKind)
  | raw (raw : Option String)
  | shape (fields : Option (List PropDecl))

inductive PropField
  | name (name : String)
  | type (type : Option PropType)
  | required (required : Bool)
  | default (text : Option String)

namespace PropType

def readField (prop : Datum → Decoded PropDecl) (key : String) (datum : Datum) :
    Decoded TypeField :=
  match key with
  | "kind" => .kind <$> datum.asOptional PropKind.ofDatum
  | "raw" => .raw <$> datum.asOptional asText
  | _ => .shape <$> datum.asOptional (asList prop)

def layout (prop : Datum → Decoded PropDecl) : Layout TypeField :=
  { name := "TypeInfo"
    fields := ["kind", "raw", "shape"]
    optional := ["kind", "raw", "shape"]
    defaulted := []
    isOpen := false
    read := readField prop }

def ofFields (fields : List (String × TypeField)) : PropType :=
  { kind := (pick? fields "kind" fun | .kind kind => some kind | _ => none).join
    raw := (pick? fields "raw" fun | .raw raw => some raw | _ => none).join
    shape := (pick? fields "shape" fun | .shape fields => some fields | _ => none).join }

end PropType

namespace PropDecl

def readField (prop : Datum → Decoded PropDecl) (key : String) (datum : Datum) :
    Decoded PropField :=
  match key with
  | "name" => .name <$> datum.asText
  | "type_info" =>
    .type <$> datum.asOptional fun datum =>
      PropType.ofFields <$> (PropType.layout prop).decode datum
  | "required" => .required <$> datum.asFlag
  | _ => .default <$> datum.asOptional asText

def layout (prop : Datum → Decoded PropDecl) : Layout PropField :=
  { name := "PropDescriptor"
    fields := ["name", "type_info", "required", "declared_default"]
    optional := ["type_info", "declared_default"]
    defaulted := []
    isOpen := false
    read := readField prop }

def ofFields (fields : List (String × PropField)) : PropDecl :=
  { name := (pick? fields "name" fun | .name name => some name | _ => none).getD ""
    type := (pick? fields "type_info" fun | .type type => some type | _ => none).join
    required := (pick? fields "required" fun | .required required => some required | _ => none).getD
      false
    declaredDefault :=
      (pick? fields "declared_default" fun | .default given => some given | _ => none).join }

/-- Reads props whose shapes go no deeper than a bound. -/
def ofDatumWithin : Nat → Datum → Decoded PropDecl
  | 0, datum => datum.misfit (layout fun datum => datum.misfit "").expected
  | n + 1, datum => ofFields <$> (layout (ofDatumWithin n)).decode datum

def ofDatum (datum : Datum) : Decoded PropDecl :=
  ofDatumWithin (datum.depth + 1) datum

end PropDecl

inductive ComponentField
  | displayName (name : Option String)
  | description (text : String)
  | props (props : Option (List PropDecl))

namespace Component

def readField (key : String) (datum : Datum) : Decoded ComponentField :=
  match key with
  | "display_name" => .displayName <$> datum.asOptional asText
  | "description" => .description <$> datum.asText
  | _ => .props <$> datum.asOptional (asList PropDecl.ofDatum)

def layout : Layout ComponentField :=
  { name := "ComponentDoc"
    fields := ["display_name", "description", "props"]
    optional := ["display_name", "props"]
    defaulted := []
    isOpen := false
    read := readField }

def ofFields (fields : List (String × ComponentField)) : Component :=
  { displayName := (pick? fields "display_name" fun | .displayName name => some name | _ => none).join
    description := (pick? fields "description" fun | .description given => some given | _ => none).getD ""
    props := (pick? fields "props" fun | .props props => some props | _ => none).join }

def ofDatum (datum : Datum) : Decoded Component :=
  ofFields <$> layout.decode datum

end Component

namespace Fixture

def layout (name : String) (isOpen : Bool) : Layout String :=
  { name
    fields := ["type_name", "identifier", "path"]
    optional := []
    defaulted := []
    isOpen
    read := fun _ datum => datum.asText }

def ofFields (fields : List (String × String)) : Fixture :=
  { typeName := (pick? fields "type_name" some).getD ""
    identifier := (pick? fields "identifier" some).getD ""
    path := (pick? fields "path" some).getD "" }

def ofDatum (datum : Datum) : Decoded Fixture :=
  ofFields <$> (layout "DomainFixture" false).decode datum

end Fixture

end SnapshotGen
