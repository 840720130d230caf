import ResourceGen.Config
import ResourceGen.Interchange.Basic

/-!
# Interchange: configurations

Configurations in JSON with all their fields; attribute maps also back.
-/

namespace ResourceGen.Interchange

open Json (Value Slot)

/-- Writes what is known of a key. -/
def attributeField (f : AttributeFieldConfig) : Value :=
  .obj [("is_read_only", .bool f.isReadOnly),
    ("is_primary_identifier", .bool f.isPrimaryIdentifier),
    ("contains_owner_account_id", .bool f.containsOwnerAccountId)]

/-- Reads what is known of a key. -/
def readAttributeField (v : Value) : Option AttributeFieldConfig := do
  let [readOnly, primary, owner] ←
    v.slots? ["is_read_only", "is_primary_identifier", "contains_owner_account_id"] | none
  let flag (s : Slot) := s.withDefault Value.toBool? false
  return ⟨← flag readOnly, ← flag primary, ← flag owner⟩

/-- Writes an attribute map. -/
def attributeMap (m : AttributeMapConfig) : Value :=
  .obj [("map_member", .str m.mapMember), ("fields", dict attributeField m.fields)]

/-- Reads an attribute map. -/
def readAttributeMap (v : Value) : Option AttributeMapConfig := do
  let [member, fields] ← v.slots? ["map_member", "fields"] | none
  return ⟨← member.withDefault Value.text? "Attributes",
    ← fields.withDefault (Value.toDict? readAttributeField) .empty⟩

/-- Writes the renames of an operation. -/
def operationRenames (r : OperationRenames) : Value :=
  .obj [("input_fields", dict .str r.inputFields), ("output_fields", dict .str r.outputFields)]

/-- Writes the settings of a resource. -/
def resourceConfig (r : ResourceConfig) : Value :=
  .obj [("unpack_attributes_map", optional (r.attributesMap.map attributeMap)),
    ("renames",
      optional (r.renames.map fun d => .obj [("operations", dict operationRenames d)]))]

/-- Writes the override of an operation. -/
def operationOverride (o : OperationOverride) : Value :=
  .obj [("operation_type", role o.role), ("resource_name", .str o.resource)]

/-- Writes the override of a pattern. -/
def operationPattern (p : OperationPattern) : Value :=
  .obj [("pattern", .str p.pattern), ("operation_type", role p.role),
    ("resource_name", .str p.resource)]

/-- Writes a configuration. -/
def config (c : Config) : Value :=
  .obj [
    ("ignore", .obj [("resource_names", texts c.ignore.resourceNames),
      ("operations", texts c.ignore.operations), ("shape_names", texts c.ignore.shapeNames)]),
    ("operations", dict operationOverride c.operations),
    ("operation_patterns", .arr (c.operationPatterns.map operationPattern)),
    ("resources", dict resourceConfig c.resources)]

end ResourceGen.Interchange
