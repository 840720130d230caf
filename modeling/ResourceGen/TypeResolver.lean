import ResourceGen.FieldType
import ResourceGen.Naming
import ResourceGen.ServiceModel

/-!
# Types of shapes

`TypeResolver.fieldType` gives the field type of a shape, or none when some part of it has no
type. Structures are named by their shape on the side of the service and by a generated name on
the side of the resources; the rest of the type does not depend on the side.
-/

namespace ResourceGen

/-- The two families of generated types. -/
inductive Side where
  /-- Types of the resource API. -/
  | resource
  /-- Types of the service's own package. -/
  | service
  deriving DecidableEq, Repr

namespace ServiceModel

/-- The type of a shape with structures named by their shapes, looking at most `depth` lists and
maps deep. -/
def typeWithin (m : ServiceModel) : (depth : Nat) → Shape → Result (Option FieldType)
  | 0, _ => .ok none
  | depth + 1, s =>
    match s.kind with
    | .scalar t => .ok (some (.ofScalar t))
    | .structure _ => .ok (some (.structure s.name))
    | .list element => do
      let e ← m.resolve element (s.name ++ ".member")
      return (← m.typeWithin depth e).map .list
    | .map key value => do
      let k ← m.resolve key (s.name ++ ".key")
      let v ← m.resolve value (s.name ++ ".value")
      match ← m.typeWithin depth k, ← m.typeWithin depth v with
      | some k, some v => return some (.map k v)
      | _, _ => return none
    | .unsupported _ => .ok none

/-- The type of a shape with structures named by their shapes. A list or map that does not
contain itself nests no deeper than the number of shapes. Looking for the type of one that does
would never end; that it comes out without a type here is nothing to rely on. -/
def shapeType (m : ServiceModel) (s : Shape) : Result (Option FieldType) :=
  m.typeWithin (m.shapes.size + 2) s

end ServiceModel

/-- Gives shapes their types for one service. -/
structure TypeResolver where
  model : ServiceModel
  namer : Namer
  /-- Type names that the resources themselves take. -/
  reserved : List String

namespace TypeResolver

/-- A resolver beside resources of the given kinds. -/
def new (model : ServiceModel) (namer : Namer) (kinds : List String) : TypeResolver :=
  ⟨model, namer, kinds.flatMap fun k => [k ++ "Spec", k ++ "Status"]⟩

/-- The generated type name of a structure; one that a resource takes gets a suffix. -/
def resourceTypeName (r : TypeResolver) (shape : String) : String :=
  let camel := (r.namer.names shape).camel
  if r.reserved.contains camel then camel ++ "_SDK" else camel

/-- The type name of a structure on a side. -/
def typeName (r : TypeResolver) (side : Side) (shape : String) : String :=
  match side with
  | .resource => r.resourceTypeName shape
  | .service => shape

/-- The field type of a shape on a side, or none when some part of it has no type. -/
def fieldType (r : TypeResolver) (side : Side) (s : Shape) : Result (Option FieldType) := do
  return (← r.model.shapeType s).map (·.renamed (r.typeName side))

end TypeResolver

end ResourceGen
