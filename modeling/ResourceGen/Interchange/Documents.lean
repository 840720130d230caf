import ResourceGen.ApiDocument
import ResourceGen.Interchange.Basic
import ResourceGen.SmithyDocument

/-!
# Interchange: model documents

Documents as read, written back with every known field.
-/

namespace ResourceGen.Interchange

open Json (Value)

/-! ## API descriptions -/

/-- Writes metadata. -/
def apiMetadata (m : ApiMetadata) : Value :=
  .obj [("apiVersion", optionalText m.apiVersion), ("serviceId", optionalText m.serviceId),
    ("serviceAbbreviation", optionalText m.serviceAbbreviation),
    ("endpointPrefix", optionalText m.endpointPrefix), ("protocol", optionalText m.protocol)]

/-- Writes a reference. -/
def apiReference (r : ApiReference) : Value :=
  .obj [("shape", .str r.shape), ("resultWrapper", optionalText r.resultWrapper),
    ("documentation", optionalText r.documentation)]

/-- Writes an operation. -/
def apiOperation (o : ApiOperation) : Value :=
  .obj [("input", optional (o.input.map apiReference)),
    ("output", optional (o.output.map apiReference)), ("errors", .arr (o.errors.map apiReference)),
    ("documentation", optionalText o.documentation)]

/-- Writes a shape. -/
def apiShape (s : ApiShape) : Value :=
  .obj [("type", .str s.type), ("members", dict apiReference s.members),
    ("required", texts s.required), ("member", optional (s.member.map apiReference)),
    ("key", optional (s.key.map apiReference)), ("value", optional (s.value.map apiReference)),
    ("exception", .bool s.exception), ("fault", .bool s.fault),
    ("documentation", optionalText s.documentation)]

/-- Writes an API description. -/
def apiDocument (d : ApiDocument) : Value :=
  .obj [("metadata", apiMetadata d.metadata), ("operations", dict apiOperation d.operations),
    ("shapes", dict apiShape d.shapes), ("documentation", optionalText d.documentation)]

/-! ## Smithy models -/

/-- Writes traits. -/
def traits (t : Traits) : Value := dict id t

/-- Writes a reference. -/
def target (id : String) : Value := .obj [("target", .str id)]

/-- Writes a list of references. -/
def targets (ids : List String) : Value := .arr (ids.map target)

/-- Writes an optional reference. -/
def optionalTarget (id : Option String) : Value := optional (id.map target)

/-- Writes a member. -/
def smithyMember (m : SmithyMember) : Value :=
  .obj [("target", .str m.target), ("traits", traits m.traits)]

/-- A value tagged with its type. -/
def tagged (tag : String) (entries : List (String × Value)) : Value :=
  .obj (("type", .str tag) :: entries)

/-- Writes a shape. -/
def smithyShape : SmithyShape → Value
  | .service version operations resources t =>
    tagged "service" [("version", optionalText version), ("operations", targets operations),
      ("resources", targets resources), ("traits", traits t)]
  | .operation input output errors t =>
    tagged "operation" [("input", optionalTarget input), ("output", optionalTarget output),
      ("errors", targets errors), ("traits", traits t)]
  | .resource r =>
    tagged "resource" [("create", optionalTarget r.create), ("put", optionalTarget r.put),
      ("read", optionalTarget r.read), ("update", optionalTarget r.update),
      ("delete", optionalTarget r.delete), ("list", optionalTarget r.list),
      ("operations", targets r.operations),
      ("collection_operations", targets r.collectionOperations),
      ("resources", targets r.resources)]
  | .structure members t =>
    tagged "structure" [("members", dict smithyMember members), ("traits", traits t)]
  | .union members => tagged "union" [("members", dict smithyMember members)]
  | .list member t => tagged "list" [("member", target member), ("traits", traits t)]
  | .set member t => tagged "set" [("member", target member), ("traits", traits t)]
  | .map key value t =>
    tagged "map" [("key", target key), ("value", target value), ("traits", traits t)]
  | .scalar t ts => tagged t.tag [("traits", traits ts)]
  | .other => tagged "other" []

/-- Writes a Smithy model. -/
def smithyDocument (d : SmithyDocument) : Value :=
  .obj [("smithy", .str d.smithy), ("shapes", dict smithyShape d.shapes),
    ("metadata", dict id d.metadata)]

end ResourceGen.Interchange
