import ResourceGen.FieldType
import ResourceGen.Json.Decode
import ResourceGen.Naming
import ResourceGen.Role

/-!
# Interchange: names, scalars, field types and roles

The JSON form in which values of the library are handed to other tools, and back. A sum is
written as the name of a constant constructor or as an object from a constructor's name to its
content; a record as an object of all its fields.
-/

namespace ResourceGen.Interchange

open Json (Value)

/-- An optional text. -/
def optionalText (s : Option String) : Value := (s.map Value.str).getD .null

/-- An optional value. -/
def optional (v : Option Value) : Value := v.getD .null

/-- A list of texts. -/
def texts (l : List String) : Value := .arr (l.map .str)

/-- A dictionary of written values. -/
def dict {α : Type} (write : α → Value) (d : Dict α) : Value :=
  .obj (d.entries.map fun e => (e.1, write e.2))

/-- A constructor with content. -/
def variant (name : String) (content : Value) : Value := .obj [(name, content)]

/-- Writes names. -/
def names (n : Names) : Value :=
  .obj [("original", .str n.raw), ("camel", .str n.camel), ("camel_lower", .str n.camelLower),
    ("snake", .str n.snake)]

/-- The name of a scalar type. -/
def scalarName : ScalarType → String
  | .string => "String"
  | .integer => "Integer"
  | .long => "Long"
  | .float => "Float"
  | .double => "Double"
  | .boolean => "Boolean"
  | .timestamp => "Timestamp"
  | .blob => "Blob"

/-- The scalar type of a name. -/
def scalarOfName? : String → Option ScalarType
  | "String" => some .string
  | "Integer" => some .integer
  | "Long" => some .long
  | "Float" => some .float
  | "Double" => some .double
  | "Boolean" => some .boolean
  | "Timestamp" => some .timestamp
  | "Blob" => some .blob
  | _ => none

/-- Writes a scalar type. -/
def scalar (t : ScalarType) : Value := .str (scalarName t)

/-- Reads a scalar type. -/
def readScalar (v : Value) : Option ScalarType := do
  let (name, content) ← v.variant?
  if Value.isUnit content then scalarOfName? name else none

/-- Writes a field type. -/
def fieldType : FieldType → Value
  | .string => .str "String"
  | .integer => .str "Integer"
  | .float => .str "Float"
  | .boolean => .str "Boolean"
  | .dateTime => .str "DateTime"
  | .blob => .str "Blob"
  | .structure name => variant "Structure" (.str name)
  | .list element => variant "List" (fieldType element)
  | .map key value => variant "Map" (.arr [fieldType key, fieldType value])

/-- The constant field type of a name. -/
def constantFieldType? : String → Option FieldType
  | "String" => some .string
  | "Integer" => some .integer
  | "Float" => some .float
  | "Boolean" => some .boolean
  | "DateTime" => some .dateTime
  | "Blob" => some .blob
  | _ => none

/-- Reads a field type. -/
def readFieldType : Value → Option FieldType
  | .str name => constantFieldType? name
  | .obj [(name, .null)] => constantFieldType? name
  | .obj [("Structure", .str name)] => some (.structure name)
  | .obj [("List", element)] => (readFieldType element).map .list
  | .obj [("Map", .arr [key, value])] => do
    return .map (← readFieldType key) (← readFieldType value)
  | _ => none

/-- Writes a role. -/
def role (r : Role) : Value := .str r.name

end ResourceGen.Interchange
