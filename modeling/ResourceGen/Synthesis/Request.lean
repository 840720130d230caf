import ResourceGen.AttributeRoutes
import ResourceGen.Resource
import ResourceGen.Synthesis.Transfer

/-!
# Filling requests

`Synthesizer.fillRequest` gives the program that fills the request of an operation from the Spec.
Writable keys of an attribute map come first, as one map. The other Spec fields follow in key
order, each into the first input member that has its key as the name in the resource; a field
without such a member is left out.

`Synthesizer.fillAttributesQuery` fills the request that asks for the attribute map: the ARN from
the metadata, anything else from the field with the member's name.
-/

namespace ResourceGen

/-- The temporary that holds the attribute map of a request. -/
def attributeMapVar : String := "attrMap"

namespace Synthesizer

/-! ## From the Spec -/

/-- The member that holds the attribute map of a resource, if the input declares it. -/
def requestMapMember (s : Synthesizer) (r : Resource) (input : Shape) : Option Member :=
  (s.config.attributesMap? r.name).bind fun a => input.member? a.mapMember

/-- The transfer of a Spec field into the attribute map; none for a field that is no key. -/
def attributeEntry (spec : Accessor) (f : Field) : Option Transfer :=
  f.attributeKey?.map fun key =>
    .handed ((Accessor.var attributeMapVar).key key) (spec.field f.names.camel) .value

/-- The statements that send the attribute map of a resource. -/
def sendAttributes (r : Resource) (request spec : Accessor) (mapMember : String) (c : Copier) :
    List Statement :=
  .newMap attributeMapVar .string ::
    c.transfers (r.spec.values.filterMap (attributeEntry spec)) 0 ++
      [Copier.publish (request.field mapMember) attributeMapVar]

/-- The input member for a key of the Spec. -/
def inputMember? (s : Synthesizer) (r : Resource) (o : Operation) (input : Shape)
    (mapMember : Option String) (key : String) : Option Member :=
  input.members.find? fun m =>
    mapMember != some m.name && s.config.inputName r.name o.name m.name == key

/-- The transfer of a Spec field into its input member; none for keys of the attribute map and
for fields that the input does not take. -/
def specTransfer (s : Synthesizer) (r : Resource) (o : Operation) (input : Shape)
    (mapMember : Option String) (request spec : Accessor) (key : String) (f : Field) :
    Result (Option Transfer) :=
  if f.isAttribute then .ok none
  else
    match s.inputMember? r o input mapMember key with
    | none => .ok none
    | some m =>
      match s.model.shape? m.target with
      | none => .ok none
      | some shape => s.copyOf [input.name] (request.field m.name) (spec.field f.names.camel) shape

/-- The program that fills a given request from the Spec of the resource at `object`. -/
def fillInput (s : Synthesizer) (r : Resource) (o : Operation) (input : Shape)
    (object request : Accessor) : Result Program := do
  let spec := object.field "Spec"
  let mapMember := (s.requestMapMember r input).map (·.name)
  let first := match mapMember with
    | some member => sendAttributes r request spec member ⟨.outbound, s.types⟩
    | none => []
  let ts ← r.spec.entries.mapM fun e => s.specTransfer r o input mapMember request spec e.1 e.2
  return s.program .outbound first (ts.filterMap id)

/-- The program that fills the request of the operation with a role from the resource. -/
def fillRequest (s : Synthesizer) (r : Resource) (role : Role) (object request : String) :
    Result Program := do
  match r.operations.get? role with
  | none => return .empty .outbound
  | some o =>
    match ← s.payload o o.input with
    | none => return .empty .outbound
    | some input => s.fillInput r o input (.parse object) (.parse request)

/-! ## Asking for attributes -/

/-- Whether a request member takes the ARN of the resource. -/
def takesArn (r : Resource) (member : String) : Bool :=
  r.primaryIdentifier.any (·.sourceName == member) || r.isArnMember member

/-- The field of a resource that goes by a name on the wire, Status first, as a path. -/
def fieldByWireName? (r : Resource) (object : Accessor) (name : String) : Option Accessor :=
  let fits (f : Field) := !f.isAttribute && f.wireName == name
  match r.status.values.find? fits, r.spec.values.find? fits with
  | some f, _ => some ((object.field "Status").field f.names.camel)
  | none, some f => some ((object.field "Spec").field f.names.camel)
  | none, none => none

/-- The transfer into a member of the request for the attribute map. -/
def queryTransfer (s : Synthesizer) (r : Resource) (input : Shape) (object request : Accessor)
    (m : Member) : Result (Option Transfer) :=
  match s.model.shape? m.target with
  | none => .ok none
  | some shape =>
    let dest := request.field m.name
    if takesArn r m.name then
      .ok (some (.handed dest (arnSlot (object.field "Status")) .resourceArn))
    else
      match fieldByWireName? r object m.name with
      | none => .ok none
      | some source => s.copyOf [input.name] dest source shape

/-- The program that fills the request for the attribute map. -/
def fillAttributesQuery (s : Synthesizer) (r : Resource) (object request : String) :
    Result Program := do
  match r.operations.getAttributes with
  | none => return .empty .outbound
  | some o =>
    match ← s.payload o o.input with
    | none => return .empty .outbound
    | some input =>
      let ts ← input.members.mapM (s.queryTransfer r input (.parse object) (.parse request))
      return s.program .outbound [] (ts.filterMap id)

end Synthesizer

end ResourceGen
