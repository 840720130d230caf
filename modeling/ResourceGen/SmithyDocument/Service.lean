import ResourceGen.SmithyDocument
import ResourceGen.ServiceModel

/-!
# The service of a Smithy model

`SmithyDocument.toService` reads the first service of a model. Its operations are those it lists
and those that its resources bind, at any depth. Shape ids lose their namespace; of two data
shapes with one local name the later id stays. Members that refer to a shape of the prelude
get a definition for it where the model has none.
-/

namespace ResourceGen

open Json (Value)

namespace SmithyDocument

/-- The namespace of the prelude, as it opens an id. -/
def preludeNamespace : String := "smithy.api#"

/-- The id that stands for no input or no output. -/
def unitId : String := "smithy.api#Unit"

/-- A reference, unless it stands for nothing. -/
def nonUnit (reference : Option String) : Option String := reference.filter (· ≠ unitId)

/-- The documentation among traits. -/
def documentationOf (t : Traits) : Option String :=
  (t.get? "smithy.api#documentation").bind Value.text?

/-- Whether an id belongs to the prelude. -/
def inPrelude (id : String) : Bool := preludeNamespace.toList.isPrefixOf id.toList

/-- The name by which the service is known: the one of its service trait, else its local name. -/
def sdkId (id : String) (t : Traits) : String :=
  (((t.get? "aws.api#service").bind (Value.field? · "sdkId")).bind Value.text?).getD (localName id)

/-! ## Operations -/

/-- The operations that a resource binds itself. -/
def boundOperations (r : SmithyResource) : List String :=
  [r.create, r.put, r.read, r.update, r.delete, r.list].filterMap id ++ r.operations ++
    r.collectionOperations

/-- The operations that resources bind, at most `depth` levels of resources down. -/
def resourceOperations (d : SmithyDocument) : (depth : Nat) → List String → List String
  | 0, _ => []
  | depth + 1, resources =>
    resources.flatMap fun id =>
      match d.shapes.get? id with
      | some (.resource r) => boundOperations r ++ d.resourceOperations depth r.resources
      | _ => []

/-- The ids of the operations of a service, ascending. Resources that do not contain themselves nest
no deeper than the number of shapes. Going down one that does would never end; where that is cut
short here is nothing to rely on. -/
def operationIds (d : SmithyDocument) (operations resources : List String) : List String :=
  Dict.sortedKeys (operations ++ d.resourceOperations (d.shapes.size + 1) resources)

/-- An operation of the service with the local names of its errors. -/
def operation (d : SmithyDocument) (id : String) : Result (Operation × List String) :=
  match d.shapes.get? id with
  | some (.operation input output errors traits) =>
    .ok ({ name := localName id
           input := (nonUnit input).map localName
           output := (nonUnit output).map localName
           documentation := documentationOf traits }, errors.map localName)
  | _ => .error (.operationNotFound id)

/-! ## Shapes -/

/-- The member that a named reference declares. -/
def toMember (name : String) (m : SmithyMember) : Member where
  name := name
  target := localName m.target
  required := m.traits.contains "smithy.api#required"
  documentation := documentationOf m.traits

/-- The shape kind of a type that carries nothing but traits. -/
def scalarKind : SmithyScalar → ShapeKind
  | .string | .enum => .scalar .string
  | .integer | .intEnum | .short | .byte => .scalar .integer
  | .long => .scalar .long
  | .float => .scalar .float
  | .double => .scalar .double
  | .boolean => .scalar .boolean
  | .timestamp => .scalar .timestamp
  | .blob => .scalar .blob
  | .document => .unsupported "document"

/-- The kind of a data shape; none for services, operations and resources. -/
def kind? : SmithyShape → Option ShapeKind
  | .service _ _ _ _ | .operation _ _ _ _ | .resource _ => none
  | .structure members _ => some (.structure (members.entries.map fun e => toMember e.1 e.2))
  | .list member _ | .set member _ => some (.list (localName member))
  | .map key value _ => some (.map (localName key) (localName value))
  | .scalar t _ => some (scalarKind t)
  | .union _ => some (.unsupported "union")
  | .other => some (.unsupported "other")

/-- The ids that a data shape refers to and that are converted with it. -/
def targets : SmithyShape → List String
  | .structure members _ => members.values.map (·.target)
  | .list member _ | .set member _ => [member]
  | .map key value _ => [key, value]
  | _ => []

/-- A data shape in the service model; `errors` are the names of the errors of operations. -/
def toShape? (errors : List String) (id : String) (s : SmithyShape) : Option Shape :=
  let name := localName id
  (kind? s).map fun kind =>
    { name := name
      kind := kind
      exception := (s.traits?.any (·.contains "smithy.api#error")) || errors.contains name
      documentation := s.traits?.bind documentationOf }

/-- The kind of a shape of the prelude. -/
def preludeKind? : String → Option ShapeKind
  | "String" => some (.scalar .string)
  | "Integer" | "PrimitiveInteger" | "Short" | "PrimitiveShort" | "Byte" | "PrimitiveByte" =>
    some (.scalar .integer)
  | "Long" | "PrimitiveLong" => some (.scalar .long)
  | "Float" | "PrimitiveFloat" => some (.scalar .float)
  | "Double" | "PrimitiveDouble" => some (.scalar .double)
  | "Boolean" | "PrimitiveBoolean" => some (.scalar .boolean)
  | "Timestamp" => some (.scalar .timestamp)
  | "Blob" => some (.scalar .blob)
  | "Unit" => none
  | other => some (.unsupported other)

/-- The names of the prelude shapes that data shapes refer to, ascending. -/
def preludeNames (d : SmithyDocument) : List String :=
  Dict.sortedKeys (((d.shapes.values.flatMap targets).filter inPrelude).map localName)

/-- Defines a shape of the prelude where the model has none of its name. -/
def addPrelude (m : ServiceModel) (name : String) : ServiceModel :=
  if (m.shape? name).isSome then m
  else
    match preludeKind? name with
    | some kind => m.addShape { name := name, kind := kind }
    | none => m

/-- The service model of a Smithy model. -/
def toService (d : SmithyDocument) : Result ServiceModel := do
  match d.service? with
  | some (id, .service version operations resources traits) =>
    let bound ← (d.operationIds operations resources).mapM d.operation
    let errors := bound.flatMap (·.2)
    let base := { ServiceModel.new (sdkId id traits) with apiVersion := version }
    let withOperations := (bound.map (·.1)).foldl .addOperation base
    let shapes := d.shapes.entries.filterMap fun e => toShape? errors e.1 e.2
    return (d.preludeNames.foldl addPrelude (shapes.foldl .addShape withOperations)).finish
  | _ => .error .noService

end SmithyDocument

end ResourceGen
