import ResourceGen.AttributeRoutes
import ResourceGen.Resource
import ResourceGen.Synthesis.Transfer
import ResourceGen.Wrapper

/-!
# Taking over responses

`Synthesizer.adoptResponse` gives the program that copies a response into a resource: each output
member into the Status field with its name in the resource, or, when a whole resource is the
target, into the Spec field. A member that holds the ARN goes to the metadata.

A List response carries its resources in a list; the program then takes over the element of a
list that has exactly one. When several lists could hold the resource and none stands out,
nothing is copied.

`Synthesizer.adoptAttributes` takes over the attribute map of a GetAttributes response.
-/

namespace ResourceGen

/-- The temporary that holds the only element of a List response. -/
def onlyElementVar : String := "elem"

/-- Where a response is copied to. -/
inductive InboundTarget where
  /-- A Status; Spec fields stay as they are. -/
  | status (root : String)
  /-- A whole resource, with its Status and its Spec. -/
  | resource (root : String)
  deriving DecidableEq, Repr

namespace InboundTarget

/-- The path of the Status. -/
def statusRoot : InboundTarget → Accessor
  | status root => .parse root
  | resource root => (Accessor.parse root).field "Status"

/-- The path of the Spec, if it is written. -/
def specRoot? : InboundTarget → Option Accessor
  | status _ => none
  | resource root => some ((Accessor.parse root).field "Spec")

end InboundTarget

/-- An output member that is a list of structures. -/
structure ListMember where
  name : String
  element : Shape

/-- The list of a response that holds the resources. -/
inductive ResourceList where
  | found (list : ListMember)
  /-- Several lists of structures, none of which stands out. -/
  | ambiguous
  /-- No list of structures at all. -/
  | absent

namespace Synthesizer

/-! ## Members -/

/-- Where an output member with a given name in the resource is copied to, if anywhere. -/
def outputDest? (r : Resource) (target : InboundTarget) (key : String) : Option Accessor :=
  match r.status.get? key with
  | some f => some (target.statusRoot.field f.names.camel)
  | none => do return (← target.specRoot?).field (← r.spec.get? key).names.camel

/-- The transfer of an output member. -/
def memberTransfer (s : Synthesizer) (r : Resource) (o : Operation) (path : List String)
    (source : Accessor) (target : InboundTarget) (m : Member) : Result (Option Transfer) :=
  match s.model.shape? m.target with
  | none => .ok none
  | some shape =>
    if (s.config.attributesMap? r.name).any (·.mapMember == m.name) then .ok none
    else
      let key := s.config.outputName r.name o.name m.name
      match outputDest? r target key with
      | some dest => s.copyOf path dest (source.field m.name) shape
      | none =>
        .ok (if !r.spec.contains key && r.isArnMember m.name
          then some (.handed (arnSlot target.statusRoot) (source.field m.name) .resourceArn)
          else none)

/-- The transfers of the members of a structure at `source`, in declared order. -/
def memberTransfers (s : Synthesizer) (r : Resource) (o : Operation) (path : List String)
    (source : Accessor) (target : InboundTarget) (shape : Shape) : Result (List Transfer) := do
  return (← shape.members.mapM (s.memberTransfer r o path source target)).filterMap id

/-! ## Lists of resources -/

/-- An output member as a list of structures, if it is one. -/
def listMember (s : Synthesizer) (m : Member) : Result (Option ListMember) :=
  match s.model.shape? m.target with
  | none => .ok none
  | some shape =>
    match shape.kind with
    | .list reference => do
      let element ← s.model.resolve reference (shape.name ++ ".member")
      return if element.isStructure then some ⟨m.name, element⟩ else none
    | _ => .ok none

/-- The name of the shape that the Create operation returns, without its wrapper. -/
def createdShape (s : Synthesizer) (r : Resource) : Result (Option String) := do
  match r.operations.create with
  | none => return none
  | some create =>
    match ← s.payload create create.output with
    | none => return none
    | some output => return some (← s.model.unwrap output).shape.name

/-- Whether a member is named after the resource. -/
def isNamedAfter (r : Resource) (member : String) : Bool :=
  sameIgnoringCase member r.plural || sameIgnoringCase member r.name

/-- The list of an output that holds the resources: the only one, or the one whose elements
Create returns, or the one named after the resource. -/
def resourceList (s : Synthesizer) (r : Resource) (output : Shape) : Result ResourceList := do
  match (← output.members.mapM s.listMember).filterMap id with
  | [] => return .absent
  | [only] => return .found only
  | several =>
    let created ← s.createdShape r
    match several.find? (fun l => created == some l.element.name),
        several.find? (fun l => isNamedAfter r l.name) with
    | some l, _ => return .found l
    | none, some l => return .found l
    | none, none => return .ambiguous

/-! ## Programs -/

/-- The program that takes over the only element of a list. -/
def adoptElement (s : Synthesizer) (r : Resource) (o : Operation) (output : Shape)
    (response : Accessor) (target : InboundTarget) (l : ListMember) : Result Program := do
  let path ← ServiceModel.enter [output.name] l.element.name
  let ts ← s.memberTransfers r o path (.var onlyElementVar) target l.element
  let body := (s.program .inbound [] ts).statements
  return ⟨.inbound, [.ifSingleElement (response.field l.name) onlyElementVar body]⟩

/-- The program that takes over the members of an output, without its wrapper. -/
def adoptMembers (s : Synthesizer) (r : Resource) (o : Operation) (output : Shape)
    (response : Accessor) (target : InboundTarget) : Result Program := do
  let u ← s.model.unwrap output
  match u.wrapper with
  | none =>
    let ts ← s.memberTransfers r o [output.name] response target u.shape
    return s.program .inbound [] ts
  | some wrapper =>
    let path ← ServiceModel.enter [output.name] u.shape.name
    let ts ← s.memberTransfers r o path (response.field wrapper) target u.shape
    return s.program .inbound [] ts

/-- The program that takes over a given output. -/
def adoptOutput (s : Synthesizer) (r : Resource) (role : Role) (o : Operation) (output : Shape)
    (response : Accessor) (target : InboundTarget) : Result Program := do
  if role = .list then
    match ← s.resourceList r output with
    | .found l => s.adoptElement r o output response target l
    | .ambiguous => return .empty .inbound
    | .absent => s.adoptMembers r o output response target
  else s.adoptMembers r o output response target

/-- The program that copies the response of the operation with a role into the target. -/
def adoptResponse (s : Synthesizer) (r : Resource) (role : Role) (response : String)
    (target : InboundTarget) : Result Program := do
  match r.operations.get? role with
  | none => return .empty .inbound
  | some o =>
    match ← s.payload o o.output with
    | none => return .empty .inbound
    | some output => s.adoptOutput r role o output (.parse response) target

/-! ## Attribute maps -/

/-- The transfer of an observed key into its Status field; none for a field that is no key. -/
def observedEntry (map status : Accessor) (f : Field) : Option Transfer :=
  f.attributeKey?.map fun key => .handed (status.field f.names.camel) (map.key key) .value

/-- The transfers out of an attribute map at `map`: the observed keys, the owning account, the
ARN. -/
def attributeTransfers (r : Resource) (routes : AttributeRoutes) (map status : Accessor) :
    List Transfer :=
  r.status.values.filterMap (observedEntry map status) ++
    (routes.ownerAccountId.map fun key =>
      Transfer.handed (ownerSlot status) (map.key key) .ownerAccountId).toList ++
    (routes.primaryIdentifier.map fun key =>
      Transfer.handed (arnSlot status) (map.key key) .resourceArn).toList

/-- The program that copies the response with the attribute map into a Status. A resource without
a configured map gets its GetAttributes response like any other. -/
def adoptAttributes (s : Synthesizer) (r : Resource) (response status : String) :
    Result Program := do
  match s.config.attributesMap? r.name with
  | none => s.adoptResponse r .getAttributes response (.status status)
  | some a =>
    match r.operations.getAttributes with
    | none => return .empty .inbound
    | some o =>
      match (← s.payload o o.output).bind (·.member? a.mapMember) with
      | none => return .empty .inbound
      | some m =>
        let map := (Accessor.parse response).field m.name
        return s.program .inbound [] (attributeTransfers r (.ofConfig a) map (.parse status))

end Synthesizer

end ResourceGen
