import ResourceGen.Classification
import ResourceGen.Interchange.Basic
import ResourceGen.Resource
import ResourceGen.TypeDef

/-!
# Interchange: resources and type definitions

Resources with their operations by role and their fields, and type definitions, in JSON.
-/

namespace ResourceGen.Interchange

open Json (Value)

/-- Writes where a field lives on the wire. -/
def fieldSource : FieldSource → Value
  | .member name => variant "Member" (.str name)
  | .attributeKey key => variant "AttributeKey" (.str key)

/-- Writes a field. -/
def field (f : Field) : Value :=
  .obj [("names", names f.names), ("field_type", fieldType f.type),
    ("shape_name", optionalText f.shapeName), ("source", fieldSource f.source)]

/-- Writes where the ARN comes from. -/
def primaryIdentifier : PrimaryIdentifier → Value
  | .member operation name =>
    variant "Member" (.obj [("operation", .str operation), ("member", .str name)])
  | .attributeKey key => variant "AttributeKey" (.obj [("key", .str key)])

/-- Writes the name of the operation with a role. -/
def roleOperation (o : ResourceOperations) (r : Role) : String × Value :=
  (r.name, optionalText ((o.get? r).map (·.name)))

/-- Writes a resource. -/
def resource (r : Resource) : Value :=
  .obj [("names", names r.names), ("kind", .str r.kind), ("plural", .str r.plural),
    ("ops", .obj (Role.all.map (roleOperation r.operations))),
    ("spec_fields", dict field r.spec), ("status_fields", dict field r.status),
    ("primary_identifier", optional (r.primaryIdentifier.map primaryIdentifier)),
    ("owner_account_id", optionalText r.ownerAccountId), ("type_imports", dict .str r.typeImports)]

/-- Writes a member of a type definition. -/
def typeAttribute (a : TypeAttribute) : Value :=
  .obj [("names", names a.names), ("field_type", fieldType a.type),
    ("shape_name", .str a.shapeName)]

/-- Writes a type definition. -/
def typeDef (d : TypeDef) : Value :=
  .obj [("names", names d.names), ("type_name", .str d.typeName),
    ("attrs", dict typeAttribute d.attributes), ("has_date_time", .bool d.hasDateTime)]

/-- Writes the names of the operations with a role by their resources. -/
def roleIndex (x : OperationIndex) (r : Role) : Value :=
  .obj ((x.resources r).map fun name => (name, optionalText ((x.get? r name).map (·.name))))

/-- Writes the names of all indexed operations by role and resource, roles without one left out. -/
def operationIndex (x : OperationIndex) : Value :=
  .obj ((Role.all.filter fun r => !(x.resources r).isEmpty).map fun r => (r.name, roleIndex x r))

end ResourceGen.Interchange
