import ResourceGen.Interchange.Basic
import ResourceGen.ServiceModel

/-!
# Interchange: service models

Service models in JSON, shapes and operations by name, and back.
-/

namespace ResourceGen.Interchange

open Json (Value Slot)

/-- Writes a reference. -/
def reference (target : String) : Value := .obj [("shape_name", .str target)]

/-- Reads a reference. -/
def readReference (v : Value) : Option String := do
  let [name] ← v.slots? ["shape_name"] | none
  name.required Value.text?

/-- Writes a member. -/
def member (m : Member) : Value :=
  .obj [("name", .str m.name), ("target", reference m.target), ("required", .bool m.required),
    ("indirection", .bool m.indirection), ("documentation", optionalText m.documentation)]

/-- Reads a member. -/
def readMember (v : Value) : Option Member := do
  let [name, target, required, indirection, documentation] ←
    v.slots? ["name", "target", "required", "indirection", "documentation"] | none
  return ⟨← name.required Value.text?, ← target.required readReference,
    ← required.withDefault Value.toBool? false, ← indirection.withDefault Value.toBool? false,
    ← documentation.optional Value.text?⟩

/-- Writes what a shape is made of. -/
def shapeKind : ShapeKind → Value
  | .structure members => variant "Structure" (.obj [("members", .arr (members.map member))])
  | .list element => variant "List" (.obj [("member", reference element)])
  | .map key value => variant "Map" (.obj [("key", reference key), ("value", reference value)])
  | .scalar t => variant "Scalar" (scalar t)
  | .unsupported label => variant "Unsupported" (.str label)

/-- Reads what a shape is made of. -/
def readShapeKind (v : Value) : Option ShapeKind := do
  let (name, some content) ← v.variant? | none
  match name with
  | "Structure" =>
    let [members] ← content.slots? ["members"] | none
    return .structure (← members.required (Value.toList? readMember))
  | "List" =>
    let [element] ← content.slots? ["member"] | none
    return .list (← element.required readReference)
  | "Map" =>
    let [key, value] ← content.slots? ["key", "value"] | none
    return .map (← key.required readReference) (← value.required readReference)
  | "Scalar" => return .scalar (← readScalar content)
  | "Unsupported" => return .unsupported (← content.text?)
  | _ => none

/-- Writes a shape. -/
def shape (s : Shape) : Value :=
  .obj [("name", .str s.name), ("kind", shapeKind s.kind), ("used_as_output", .bool s.usedAsOutput),
    ("exception", .bool s.exception), ("documentation", optionalText s.documentation)]

/-- Reads a shape. -/
def readShape (v : Value) : Option Shape := do
  let [name, kind, usedAsOutput, exception, documentation] ←
    v.slots? ["name", "kind", "used_as_output", "exception", "documentation"] | none
  return ⟨← name.required Value.text?, ← kind.required readShapeKind,
    ← usedAsOutput.withDefault Value.toBool? false, ← exception.withDefault Value.toBool? false,
    ← documentation.optional Value.text?⟩

/-- Writes an operation. -/
def operation (o : Operation) : Value :=
  .obj [("name", .str o.name), ("input", optional (o.input.map reference)),
    ("output", optional (o.output.map reference)), ("documentation", optionalText o.documentation)]

/-- Reads an operation. -/
def readOperation (v : Value) : Option Operation := do
  let [name, input, output, documentation] ←
    v.slots? ["name", "input", "output", "documentation"] | none
  return ⟨← name.required Value.text?, ← input.optional readReference,
    ← output.optional readReference, ← documentation.optional Value.text?⟩

/-- Writes a service model. -/
def serviceModel (m : ServiceModel) : Value :=
  .obj [("service_id", .str m.serviceId), ("package_name", .str m.packageName),
    ("api_version", optionalText m.apiVersion), ("shapes", dict shape m.shapes),
    ("operations", dict operation m.operations)]

/-- Reads a service model. -/
def readServiceModel (v : Value) : Option ServiceModel := do
  let [serviceId, packageName, apiVersion, shapes, operations] ←
    v.slots? ["service_id", "package_name", "api_version", "shapes", "operations"] | none
  return ⟨← serviceId.required Value.text?, ← packageName.required Value.text?,
    ← apiVersion.optional Value.text?, ← shapes.required (Value.toDict? readShape),
    ← operations.required (Value.toDict? readOperation)⟩

end ResourceGen.Interchange
