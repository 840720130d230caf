import ResourceGen.AttributeRoutes
import ResourceGen.Resource
import ResourceGen.TypeResolver
import ResourceGen.Wrapper

/-!
# Deriving resources

Every resource with a Create operation becomes a `Resource`. Its Spec holds the members of the
Create input and the writable keys of its attribute map. Its Status holds what the Create output
has beyond that, and the observed keys; an output member that holds the ARN binds the primary
identifier instead. The member of the attribute map itself is no field.
-/

namespace ResourceGen

/-- What resources are derived from, besides the operations. -/
structure DerivationScope where
  model : ServiceModel
  config : Config
  namer : Namer
  types : TypeResolver

/-- What becomes of a member of the Create output. -/
inductive OutputPart where
  /-- It is no field: the attribute map, a Spec field already, or without a type. -/
  | nothing
  /-- It holds the ARN. -/
  | arn (member : String)
  | field (f : Field)

namespace DerivationScope

/-- The field of a member with a given key; none without a type. -/
def memberField (s : DerivationScope) (key member : String) (shape : Shape) :
    Result (Option Field) := do
  return (← s.types.fieldType .resource shape).map fun t =>
    ⟨s.namer.names key, t, some shape.name, .member member⟩

/-- The field of a key of the attribute map. -/
def attributeField (s : DerivationScope) (key : String) : Field :=
  ⟨s.namer.names key, .string, none, .attributeKey key⟩

/-- The Spec field of a member of the Create input. -/
def inputField (s : DerivationScope) (resource create : String) (mapMember : Option String)
    (input : Shape) (m : Member) : Result (Option Field) := do
  let shape ← s.model.resolve m.target (input.name ++ "." ++ m.name)
  if mapMember == some m.name then return none
  else s.memberField (s.config.inputName resource create m.name) m.name shape

/-- What becomes of a member of the Create output beside the given Spec. -/
def outputPart (s : DerivationScope) (resource create : String) (mapMember : Option String)
    (spec : Dict Field) (output : Shape) (m : Member) : Result OutputPart := do
  let shape ← s.model.resolve m.target (output.name ++ "." ++ m.name)
  let key := s.config.outputName resource create m.name
  if mapMember == some m.name || spec.contains key then return .nothing
  else if isArnMember resource m.name then return .arn m.name
  else
    match ← s.memberField key m.name shape with
    | some f => return .field f
    | none => return .nothing

/-- Enters what becomes of an output member. -/
def addOutputPart (create : String) (r : Resource) : OutputPart → Resource
  | .nothing => r
  | .arn member => r.bindPrimaryIdentifier (.member create member)
  | .field f => r.addStatusField f

/-- Adds an observed key, unless a field has its name already. -/
def addStatusKey (s : DerivationScope) (r : Resource) (key : String) : Resource :=
  if r.spec.contains key || r.status.contains key then r
  else r.addStatusField (s.attributeField key)

/-- What becomes of the members of the Create output. -/
def outputParts (s : DerivationScope) (resource : String) (create : Operation)
    (mapMember : Option String) (spec : Dict Field) : Result (List OutputPart) := do
  match create.output with
  | none => return []
  | some reference =>
    let output ← s.model.resolve reference create.name
    let inner := (← s.model.unwrap output).shape
    inner.members.mapM (s.outputPart resource create.name mapMember spec inner)

/-- The Spec fields that the members of the Create input give. -/
def inputFields (s : DerivationScope) (resource : String) (create : Operation)
    (mapMember : Option String) : Result (List Field) := do
  match create.input with
  | none => .error (.missingInputShape create.name)
  | some reference =>
    let input ← s.model.resolve reference create.name
    return (← input.members.mapM (s.inputField resource create.name mapMember input)).filterMap id

/-- Enters the observed keys and the special keys of an attribute map. -/
def addRoutes (s : DerivationScope) (r : Resource) (routes : AttributeRoutes) : Resource :=
  let r := routes.status.foldl s.addStatusKey r
  let r := match routes.primaryIdentifier with
    | some key => r.bindPrimaryIdentifier (.attributeKey key)
    | none => r
  { r with ownerAccountId := routes.ownerAccountId }

/-- Derives a resource from its operations. -/
def derive (s : DerivationScope) (index : OperationIndex) (resource : String) :
    Result Resource := do
  let operations := ResourceOperations.ofIndex index resource
  match operations.create with
  | none => .error (.noCreateOperation resource)
  | some create =>
    let names := s.namer.names resource
    let base : Resource :=
      { names := names, plural := s.namer.pluralize names.camel, operations := operations }
    let routes := (s.config.attributesMap? resource).map AttributeRoutes.ofConfig
    let mapMember := routes.map (·.mapMember)
    let fields ← s.inputFields resource create mapMember
    let keys := (routes.map (·.spec)).getD []
    let withSpec := (fields ++ keys.map s.attributeField).foldl .addSpecField base
    let parts ← s.outputParts resource create mapMember withSpec.spec
    let withStatus := parts.foldl (addOutputPart create.name) withSpec
    return match routes with
      | some routes => s.addRoutes withStatus routes
      | none => withStatus

end DerivationScope

/-- Resources in the order of their kinds; equal kinds stay in the order given. -/
def sortByKind (rs : List Resource) : List Resource := rs.mergeSort fun a b => a.kind ≤ b.kind

end ResourceGen
