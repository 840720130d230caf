/-!
# Shapes and operations

A service model is a graph of named shapes. A shape refers to others by name: a structure has
members, a list elements, a map keys and values, and a scalar ends the graph. An operation names
the shapes of its input and output.
-/

namespace ResourceGen

/-- Scalar types. -/
inductive ScalarType where
  | string
  | integer
  | long
  | float
  | double
  | boolean
  | timestamp
  | blob
  deriving DecidableEq, Repr, Inhabited

/-- A structure member. -/
structure Member where
  /-- The name on the wire. -/
  name : String
  /-- The name of the shape it refers to. -/
  target : String
  required : Bool := false
  /-- Whether the member is held behind a pointer, so that absent differs from zero. -/
  indirection : Bool := false
  documentation : Option String := none
  deriving DecidableEq, Repr, Inhabited

/-- What a shape is made of. -/
inductive ShapeKind where
  /-- Members in declared order. -/
  | structure (members : List Member)
  | list (member : String)
  | map (key value : String)
  | scalar (type : ScalarType)
  /-- A type without fields, by its label. -/
  | unsupported (label : String)
  deriving DecidableEq, Repr, Inhabited

/-- A named shape. -/
structure Shape where
  name : String
  kind : ShapeKind
  /-- Whether some operation has the shape as its output. -/
  usedAsOutput : Bool := false
  /-- Whether the shape describes an exception of the service. -/
  exception : Bool := false
  documentation : Option String := none
  deriving DecidableEq, Repr, Inhabited

namespace ScalarType

/-- The label of a scalar type in service descriptions. -/
def label : ScalarType → String
  | string => "string"
  | integer => "integer"
  | long => "long"
  | float => "float"
  | double => "double"
  | boolean => "boolean"
  | timestamp => "timestamp"
  | blob => "blob"

/-- The scalar type with a given label. -/
def ofLabel? : String → Option ScalarType
  | "string" => some string
  | "integer" => some integer
  | "long" => some long
  | "float" => some float
  | "double" => some double
  | "boolean" => some boolean
  | "timestamp" => some timestamp
  | "blob" => some blob
  | _ => none

end ScalarType

namespace Shape

/-- Whether the shape is a structure. -/
def isStructure (s : Shape) : Bool :=
  match s.kind with
  | .structure _ => true
  | _ => false

/-- The members of a structure in declared order; none for any other kind. -/
def members (s : Shape) : List Member :=
  match s.kind with
  | .structure ms => ms
  | _ => []

/-- The first member with a given name. -/
def member? (s : Shape) (name : String) : Option Member := s.members.find? (·.name == name)

/-- The label of the shape's type in service descriptions. -/
def typeLabel (s : Shape) : String :=
  match s.kind with
  | .structure _ => "structure"
  | .list _ => "list"
  | .map _ _ => "map"
  | .scalar t => t.label
  | .unsupported l => l

end Shape

/-- A named call of the service. -/
structure Operation where
  name : String
  input : Option String := none
  output : Option String := none
  documentation : Option String := none
  deriving DecidableEq, Repr, Inhabited

end ResourceGen
