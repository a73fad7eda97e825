/-!
What is known of a component: its name, its description and its props, each with the type it was
declared with and the default it was given.
-/

namespace SnapshotGen

/-- The kinds of prop type that are told apart; everything else is `custom`. -/
inductive PropKind
  | number
  | string
  | bool
  | array
  | node
  | func
  | object
  | shape
  | exact
  | arrayOf
  | objectOf
  | enum
  | union
  | instanceOf
  | element
  | elementType
  | symbol
  | any
  | custom
  deriving DecidableEq, Repr

namespace PropKind

def tag : PropKind → String
  | number => "number"
  | string => "string"
  | bool => "bool"
  | array => "array"
  | node => "node"
  | func => "func"
  | object => "object"
  | shape => "shape"
  | exact => "exact"
  | arrayOf => "arrayOf"
  | objectOf => "objectOf"
  | enum => "enum"
  | union => "union"
  | instanceOf => "instanceOf"
  | element => "element"
  | elementType => "elementType"
  | symbol => "symbol"
  | any => "any"
  | custom => "custom"

def all : List PropKind :=
  [number, string, bool, array, node, func, object, shape, exact, arrayOf, objectOf, enum, union,
    instanceOf, element, elementType, symbol, any, custom]

def ofTag? (text : String) : Option PropKind :=
  all.find? fun kind => kind.tag == text

end PropKind

/-- A declared type: its kind, the expression it was written as, and the fields of a shape. The
fields are props again, so the type of a field is left open here. -/
structure PropTypeOf (Field : Type) where
  kind : Option PropKind
  raw : Option String
  shape : Option (List Field)
  deriving Repr

structure PropDecl where
  name : String
  type : Option (PropTypeOf PropDecl)
  required : Bool
  declaredDefault : Option String
  deriving Repr

abbrev PropType := PropTypeOf PropDecl

namespace PropType

def ofKind (kind : PropKind) : PropType :=
  ⟨some kind, none, none⟩

end PropType

namespace PropDecl

def kind? (prop : PropDecl) : Option PropKind :=
  prop.type.bind (·.kind)

def raw? (prop : PropDecl) : Option String :=
  prop.type.bind (·.raw)

def shape? (prop : PropDecl) : Option (List PropDecl) :=
  prop.type.bind (·.shape)

/-- A prop that is known only by its default. -/
def untyped (name default : String) : PropDecl :=
  ⟨name, none, false, some default⟩

end PropDecl

structure Component where
  displayName : Option String
  description : String
  props : Option (List PropDecl)
  deriving Repr

end SnapshotGen
