import ResourceGen.ApiDocument
import ResourceGen.ServiceModel

/-!
# The service of an API description

`ApiDocument.toService` reads the document as a service model. Members come in key order; a
shape is an exception when it says so or when an operation lists it among its errors.
-/

namespace ResourceGen

namespace ApiShape

/-- The target of a reference that the shape must have. -/
def targetOf (name field : String) (r : Option ApiReference) : Result String :=
  match r with
  | some r => .ok r.shape
  | none => .error (.missingReference name field)

/-- The member that a named reference declares. -/
def toMember (s : ApiShape) (name : String) (r : ApiReference) : Member where
  name := name
  target := r.shape
  required := s.required.contains name
  documentation := r.documentation

/-- What the shape is made of. -/
def kind (s : ApiShape) (name : String) : Result ShapeKind :=
  match s.type with
  | "structure" => .ok (.structure (s.members.entries.map fun e => s.toMember e.1 e.2))
  | "list" => do return .list (← targetOf name "member" s.member)
  | "map" => do return .map (← targetOf name "key" s.key) (← targetOf name "value" s.value)
  | label =>
    match ScalarType.ofLabel? label with
    | some t => .ok (.scalar t)
    | none => .ok (.unsupported label)

/-- The shape in the service model; `errors` are the shapes that operations list as errors. -/
def toShape (errors : List String) (name : String) (s : ApiShape) : Result Shape := do
  let kind ← s.kind name
  return {
    name := name
    kind := kind
    exception := s.exception || s.fault || errors.contains name
    documentation := s.documentation }

end ApiShape

/-- The operation in the service model. -/
def ApiOperation.toOperation (name : String) (o : ApiOperation) : Operation where
  name := name
  input := o.input.map (·.shape)
  output := o.output.map (·.shape)
  documentation := o.documentation

namespace ApiDocument

/-- The shapes that operations list as errors. -/
def errorNames (d : ApiDocument) : List String :=
  d.operations.values.flatMap fun o => o.errors.map (·.shape)

/-- The service model of a document. -/
def toService (d : ApiDocument) : Result ServiceModel := do
  match d.serviceId? with
  | none => .error .noServiceId
  | some id =>
    let shapes ← d.shapes.entries.mapM fun e => e.2.toShape d.errorNames e.1
    let operations := d.operations.entries.map fun e => e.2.toOperation e.1
    let base := { ServiceModel.new id with apiVersion := d.metadata.apiVersion }
    return ((operations.foldl .addOperation base) |> shapes.foldl .addShape).finish

end ApiDocument

end ResourceGen
