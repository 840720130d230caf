import ResourceGen.Shape

/-!
# Field types

The type of a field or attribute, apart from any target language: a scalar, a named structure,
a list or a map.
-/

namespace ResourceGen

/-- The type of a field. -/
inductive FieldType where
  | string
  | integer
  | float
  | boolean
  | dateTime
  | blob
  /-- A nested type by name. -/
  | structure (name : String)
  | list (element : FieldType)
  | map (key value : FieldType)
  deriving DecidableEq, Repr, Inhabited

namespace FieldType

/-- The field type of a scalar. -/
def ofScalar : ScalarType → FieldType
  | .string => string
  | .integer | .long => integer
  | .float | .double => float
  | .boolean => boolean
  | .timestamp => dateTime
  | .blob => blob

/-- Whether any part of the type is a timestamp. -/
def containsDateTime : FieldType → Bool
  | dateTime => true
  | list element => element.containsDateTime
  | map key value => key.containsDateTime || value.containsDateTime
  | _ => false

/-- The same type with its structures renamed. -/
def renamed (f : String → String) : FieldType → FieldType
  | .structure name => .structure (f name)
  | .list element => .list (element.renamed f)
  | .map key value => .map (key.renamed f) (value.renamed f)
  | t => t

/-- Whether the type is neither a structure nor a container. -/
def isScalar : FieldType → Bool
  | .structure _ | .list _ | .map _ _ => false
  | _ => true

end FieldType

end ResourceGen
