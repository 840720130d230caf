import ResourceGen.Proofs.Partition
import ResourceGen.Proofs.Qualifiers
import ResourceGen.Proofs.Renaming

/-!
# Suffixes of type names

A resolver gives a suffix to the type names that resources take. Everything else about a type, a
resource or a program is the same as without any resource beside (`TypeResolver.plain`): what is
made with the suffixes is what is made without them, with its type names renamed
(`Resource.renamed`, `Program.renamed`). Programs that fill requests name no types of resources, so
they are the same; and a program does not look at the types of the fields it copies.

Results:
* `fieldType_eq`, `derive_eq_plain`: types of shapes and derived resources.
* `program_inbound`, `program_outbound`: programs of given transfers.
* `fillRequest_renamed`, `adoptResponse_renamed`, …: types of fields do not show in programs.
* `fillRequest_plain`, `adoptResponse_plain`, …: programs with and without suffixes.
-/

namespace ResourceGen

/-! ## Types -/

namespace TypeResolver

variable (types : TypeResolver)

/-- The name that a type gets: with a suffix if resources take it. -/
def suffixed (name : String) : String :=
  if types.reserved.contains name then name ++ "_SDK" else name

/-- The resolver without resources beside. -/
def plain : TypeResolver := { types with reserved := [] }

theorem typeName_resource (shape : String) :
    types.typeName .resource shape = types.suffixed (types.plain.typeName .resource shape) := rfl

/-- **Types of shapes** have their names with suffixes. -/
theorem fieldType_eq (s : Shape) : types.fieldType .resource s =
    (types.plain.fieldType .resource s).map (Option.map (·.renamed types.suffixed)) := by
  unfold fieldType
  rw [Result.map_bind]
  refine Result.bind_congr_ok fun t _ => congrArg Except.ok ?_
  rw [Option.map_map]
  refine congrFun (congrArg Option.map (funext fun type => ?_)) t
  exact (FieldType.renamed_renamed (types.plain.typeName .resource) types.suffixed type).symm

end TypeResolver

/-! ## Programs -/

namespace Copier

/-- Taking over responses, with suffixes and without. -/
theorem renamedBy_inbound (types : TypeResolver) :
    RenamedBy types.suffixed ⟨.inbound, types.plain⟩ ⟨.inbound, types⟩ :=
  ⟨rfl, rfl, types.typeName_resource⟩

/-- Filling requests, with any suffixes. -/
theorem renamedBy_outbound {types types' : TypeResolver} (h : types'.namer = types.namer) :
    RenamedBy id ⟨.outbound, types⟩ ⟨.outbound, types'⟩ :=
  ⟨rfl, h, fun _ => rfl⟩

end Copier

/-! ## Resources -/

/-- The field with the structures of its type renamed. -/
def Field.renamed (f : String → String) (x : Field) : Field := { x with type := x.type.renamed f }

/-- The resource with the types of its fields renamed. -/
def Resource.renamed (f : String → String) (r : Resource) : Resource :=
  { r with
    spec := r.spec.mapValues fun _ x => x.renamed f
    status := r.status.mapValues fun _ x => x.renamed f }

namespace Resource

variable (f : String → String) (r : Resource)

@[simp]
theorem renamed_operations : (r.renamed f).operations = r.operations := rfl

@[simp]
theorem renamed_primaryIdentifier : (r.renamed f).primaryIdentifier = r.primaryIdentifier := rfl

@[simp]
theorem renamed_ownerAccountId : (r.renamed f).ownerAccountId = r.ownerAccountId := rfl

theorem addSpecField_renamed (x : Field) :
    (r.renamed f).addSpecField (x.renamed f) = (r.addSpecField x).renamed f :=
  congrArg (fun spec => { r.renamed f with spec := spec })
    (Dict.insert_mapValues (Field.renamed f) r.spec x.names.raw x)

theorem addStatusField_renamed (x : Field) :
    (r.renamed f).addStatusField (x.renamed f) = (r.addStatusField x).renamed f := by
  have htype : (x.renamed f).type = x.type.renamed f := rfl
  have hstatus := Dict.insert_mapValues (Field.renamed f) r.status x.names.raw x
  unfold addStatusField
  rw [htype, FieldType.containsDateTime_renamed]
  split
  · exact congrArg (fun status =>
      { (r.addTypeImport metav1Path metav1Alias).renamed f with status := status }) hstatus
  · exact congrArg (fun status => { r.renamed f with status := status }) hstatus

theorem contains_spec_renamed (key : String) :
    (r.renamed f).spec.contains key = r.spec.contains key :=
  Dict.contains_mapValues _ r.spec key

theorem contains_status_renamed (key : String) :
    (r.renamed f).status.contains key = r.status.contains key :=
  Dict.contains_mapValues _ r.status key

end Resource

/-- What becomes of an output member, with the types renamed. -/
def OutputPart.renamed (f : String → String) : OutputPart → OutputPart
  | .nothing => .nothing
  | .arn member => .arn member
  | .field x => .field (x.renamed f)

namespace DerivationScope

variable (d : DerivationScope)

/-- The scope without resources beside. -/
def plain : DerivationScope := { d with types := d.types.plain }

theorem config_plain : d.plain.config = d.config := rfl

theorem memberField_eq (key member : String) (shape : Shape) :
    d.memberField key member shape =
      (d.plain.memberField key member shape).map (Option.map (Field.renamed d.types.suffixed)) := by
  unfold memberField
  rw [d.types.fieldType_eq, Result.bind_map, Result.map_bind]
  refine Result.bind_congr_ok fun t _ => ?_
  cases t <;> rfl

theorem inputField_eq (resource create : String) (mapMember : Option String) (input : Shape)
    (m : Member) : d.inputField resource create mapMember input m =
      (d.plain.inputField resource create mapMember input m).map
        (Option.map (Field.renamed d.types.suffixed)) := by
  unfold inputField
  rw [Result.map_bind]
  refine Result.bind_congr_ok fun shape _ => ?_
  split
  · rfl
  · exact d.memberField_eq _ _ shape

theorem inputFields_eq (resource : String) (create : Operation) (mapMember : Option String) :
    d.inputFields resource create mapMember =
      (d.plain.inputFields resource create mapMember).map
        (List.map (Field.renamed d.types.suffixed)) := by
  unfold inputFields
  cases create.input with
  | none => rfl
  | some reference =>
    simp only [Result.map_bind]
    refine Result.bind_congr_ok fun input _ => ?_
    rw [funext (d.inputField_eq resource create.name mapMember input), Result.mapM_map,
      Result.bind_map]
    refine Result.bind_congr_ok fun fs _ => congrArg Except.ok ?_
    rw [List.filterMap_map, List.map_filterMap]
    rfl

theorem outputPart_eq (resource create : String) (mapMember : Option String) (spec : Dict Field)
    (output : Shape) (m : Member) :
    d.outputPart resource create mapMember
        (spec.mapValues fun _ x => x.renamed d.types.suffixed) output m =
      (d.plain.outputPart resource create mapMember spec output m).map
        (OutputPart.renamed d.types.suffixed) := by
  unfold outputPart
  rw [Result.map_bind]
  refine Result.bind_congr_ok fun shape _ => ?_
  rw [d.config_plain]
  simp only [Dict.contains_mapValues]
  by_cases hfield : (mapMember == some m.name ||
      spec.contains (d.config.outputName resource create m.name)) = true
  · rw [if_pos hfield, if_pos hfield]
    rfl
  · rw [if_neg hfield, if_neg hfield]
    by_cases harn : isArnMember resource m.name = true
    · rw [if_pos harn, if_pos harn]
      rfl
    · rw [if_neg harn, if_neg harn, d.memberField_eq, Result.bind_map, Result.map_bind]
      refine Result.bind_congr_ok fun x _ => ?_
      cases x <;> rfl

theorem outputParts_eq (resource : String) (create : Operation) (mapMember : Option String)
    (spec : Dict Field) :
    d.outputParts resource create mapMember
        (spec.mapValues fun _ x => x.renamed d.types.suffixed) =
      (d.plain.outputParts resource create mapMember spec).map
        (List.map (OutputPart.renamed d.types.suffixed)) := by
  unfold outputParts
  cases create.output with
  | none => rfl
  | some reference =>
    simp only [Result.map_bind]
    refine Result.bind_congr_ok fun output _ => Result.bind_congr_ok fun u _ => ?_
    rw [funext (d.outputPart_eq resource create.name mapMember spec u.shape), Result.mapM_map]

theorem addOutputPart_renamed (f : String → String) (create : String) (r : Resource)
    (part : OutputPart) : addOutputPart create (r.renamed f) (part.renamed f) =
      (addOutputPart create r part).renamed f := by
  cases part with
  | nothing => rfl
  | arn member => rfl
  | field x => exact r.addStatusField_renamed f x

theorem addStatusKey_renamed (f : String → String) (r : Resource) (key : String) :
    d.addStatusKey (r.renamed f) key = (d.addStatusKey r key).renamed f := by
  unfold addStatusKey
  rw [r.contains_spec_renamed, r.contains_status_renamed]
  split
  · rfl
  · exact r.addStatusField_renamed f (d.attributeField key)

theorem withSpec_renamed (f : String → String) (resource : String) (index : OperationIndex)
    (fs : List Field) : d.withSpec resource index (fs.map (Field.renamed f)) =
      (d.withSpec resource index fs).renamed f := by
  have hkeys : (d.writableKeys resource).map d.attributeField =
      ((d.writableKeys resource).map d.attributeField).map (Field.renamed f) := by
    rw [List.map_map]
    rfl
  unfold withSpec
  rw [hkeys, ← List.map_append, List.foldl_map, ← hkeys]
  show List.foldl _ ((d.bare resource index).renamed f) _ = _
  exact List.foldl_hom (Resource.renamed f) fun r x => r.addSpecField_renamed f x

theorem withRoutes_renamed (f : String → String) (resource : String) (r : Resource) :
    d.withRoutes resource (r.renamed f) = (d.withRoutes resource r).renamed f := by
  unfold withRoutes
  cases d.config.attributesMap? resource with
  | none => rfl
  | some a =>
    have hkeys : (AttributeRoutes.ofConfig a).status.foldl d.addStatusKey (r.renamed f) =
        ((AttributeRoutes.ofConfig a).status.foldl d.addStatusKey r).renamed f :=
      List.foldl_hom (Resource.renamed f) fun r key => d.addStatusKey_renamed f r key
    simp only [addRoutes, hkeys]
    cases (AttributeRoutes.ofConfig a).primaryIdentifier <;> rfl

/-- **A derived resource** has the types of its fields with suffixes. -/
theorem derive_eq_plain (index : OperationIndex) (resource : String) :
    d.derive index resource =
      (d.plain.derive index resource).map (Resource.renamed d.types.suffixed) := by
  rw [derive_eq, derive_eq]
  cases (ResourceOperations.ofIndex index resource).create with
  | none => rfl
  | some create =>
    simp only [Result.map_bind]
    rw [d.inputFields_eq, Result.bind_map]
    refine Result.bind_congr_ok fun fs _ => ?_
    rw [d.withSpec_renamed]
    refine (congrArg (· >>= _) (d.outputParts_eq resource create _ _)).trans ?_
    rw [Result.bind_map]
    refine Result.bind_congr_ok fun parts _ => congrArg Except.ok ?_
    rw [List.foldl_map]
    refine (congrArg (d.withRoutes resource) ?_).trans (d.withRoutes_renamed _ resource _)
    exact List.foldl_hom (Resource.renamed _) fun r part => addOutputPart_renamed _ create.name r part

end DerivationScope

/-! ## Programs of a resource -/

namespace Synthesizer

variable (s : Synthesizer)

section Fields

variable (f : String → String) (r : Resource)

theorem outputDest?_renamed (target : InboundTarget) (key : String) :
    outputDest? (r.renamed f) target key = outputDest? r target key := by
  unfold outputDest? Resource.renamed
  rw [Dict.get?_mapValues, Dict.get?_mapValues]
  cases r.status.get? key <;> cases r.spec.get? key <;> rfl

theorem memberTransfer_renamed (o : Operation) (path : List String) (source : Accessor)
    (target : InboundTarget) (m : Member) :
    s.memberTransfer (r.renamed f) o path source target m =
      s.memberTransfer r o path source target m := by
  unfold memberTransfer
  simp only [outputDest?_renamed, r.contains_spec_renamed f]
  rfl

theorem memberTransfers_renamed (o : Operation) (path : List String) (source : Accessor)
    (target : InboundTarget) (shape : Shape) :
    s.memberTransfers (r.renamed f) o path source target shape =
      s.memberTransfers r o path source target shape := by
  unfold memberTransfers
  rw [funext (s.memberTransfer_renamed f r o path source target)]

/-- The types of fields do not show in the program that takes over a response. -/
theorem adoptResponse_renamed (role : Role) (response : String) (target : InboundTarget) :
    s.adoptResponse (r.renamed f) role response target =
      s.adoptResponse r role response target := by
  unfold adoptResponse adoptOutput adoptElement adoptMembers
  simp only [s.memberTransfers_renamed f r]
  rfl

theorem attributeTransfers_renamed (routes : AttributeRoutes) (map status : Accessor) :
    attributeTransfers (r.renamed f) routes map status = attributeTransfers r routes map status := by
  unfold attributeTransfers Resource.renamed
  rw [Dict.values_mapValues]
  unfold Dict.values
  rw [List.filterMap_map, List.filterMap_map]
  rfl

theorem adoptAttributes_renamed (response status : String) :
    s.adoptAttributes (r.renamed f) response status = s.adoptAttributes r response status := by
  unfold adoptAttributes
  simp only [s.adoptResponse_renamed f r, attributeTransfers_renamed f r]
  rfl

theorem fillInput_renamed (o : Operation) (input : Shape) (object request : Accessor) :
    s.fillInput (r.renamed f) o input object request = s.fillInput r o input object request := by
  have hsend (spec : Accessor) (mapMember : String) (c : Copier) :
      sendAttributes (r.renamed f) request spec mapMember c =
        sendAttributes r request spec mapMember c := by
    unfold sendAttributes Resource.renamed
    rw [Dict.values_mapValues]
    unfold Dict.values
    rw [List.filterMap_map, List.filterMap_map]
    rfl
  have hentries : (r.renamed f).spec.entries =
      r.spec.entries.map fun e => (e.1, e.2.renamed f) := rfl
  unfold fillInput
  simp only [hsend, hentries, List.mapM_map]
  rfl

theorem fillRequest_renamed (role : Role) (object request : String) :
    s.fillRequest (r.renamed f) role object request = s.fillRequest r role object request := by
  unfold fillRequest
  simp only [s.fillInput_renamed f r]
  rfl

theorem fieldByWireName?_renamed (object : Accessor) (name : String) :
    fieldByWireName? (r.renamed f) object name = fieldByWireName? r object name := by
  have hfind (d : Dict Field) :
      (d.mapValues fun _ x => x.renamed f).values.find?
          (fun x => !x.isAttribute && x.wireName == name) =
        (d.values.find? fun x => !x.isAttribute && x.wireName == name).map (Field.renamed f) := by
    rw [Dict.values_mapValues]
    unfold Dict.values
    rw [List.find?_map, List.find?_map, Option.map_map]
    rfl
  unfold fieldByWireName? Resource.renamed
  simp only [hfind]
  cases r.status.values.find? fun x => !x.isAttribute && x.wireName == name with
  | some x => rfl
  | none => cases r.spec.values.find? fun x => !x.isAttribute && x.wireName == name <;> rfl

theorem fillAttributesQuery_renamed (object request : String) :
    s.fillAttributesQuery (r.renamed f) object request = s.fillAttributesQuery r object request := by
  unfold fillAttributesQuery queryTransfer
  simp only [fieldByWireName?_renamed f r]
  rfl

end Fields

/-! ### With and without suffixes -/

/-- The synthesizer without resources beside. -/
def plain : Synthesizer := { s with types := s.types.plain }

/-- **The program that takes over values** names its types with suffixes. -/
theorem program_inbound (ts : List Transfer) :
    s.program .inbound [] ts = (s.plain.program .inbound [] ts).renamed s.types.suffixed :=
  congrArg (Program.mk .inbound) ((Copier.renamedBy_inbound s.types).transfers ts 0)

/-- What fills a request does not depend on suffixes. -/
theorem transfers_outbound (ts : List Transfer) (n : Nat) :
    (Copier.mk .outbound s.types).transfers ts n =
      (Copier.mk .outbound s.plain.types).transfers ts n := by
  have hrenamed : Copier.RenamedBy id ⟨.outbound, s.plain.types⟩ ⟨.outbound, s.types⟩ :=
    Copier.renamedBy_outbound rfl
  rw [hrenamed.transfers, Statement.renamedOf_id]

/-- **The program that fills a request** is the same with and without suffixes. -/
theorem program_outbound (first : List Statement) (ts : List Transfer) :
    s.program .outbound first ts = s.plain.program .outbound first ts :=
  congrArg (fun rest => (⟨.outbound, first ++ rest⟩ : Program)) (s.transfers_outbound ts 0)

theorem fillRequest_plain (r : Resource) (role : Role) (object request : String) :
    s.fillRequest r role object request = s.plain.fillRequest r role object request := by
  unfold fillRequest fillInput sendAttributes
  simp only [s.program_outbound, s.transfers_outbound]
  rfl

theorem fillAttributesQuery_plain (r : Resource) (object request : String) :
    s.fillAttributesQuery r object request = s.plain.fillAttributesQuery r object request := by
  unfold fillAttributesQuery
  simp only [s.program_outbound]
  rfl

theorem adoptElement_plain (r : Resource) (o : Operation) (output : Shape) (response : Accessor)
    (target : InboundTarget) (l : ListMember) : s.adoptElement r o output response target l =
      (s.plain.adoptElement r o output response target l).map (.renamed s.types.suffixed) := by
  unfold adoptElement
  simp only [s.program_inbound, Result.map_bind]
  rfl

theorem adoptMembers_plain (r : Resource) (o : Operation) (output : Shape) (response : Accessor)
    (target : InboundTarget) : s.adoptMembers r o output response target =
      (s.plain.adoptMembers r o output response target).map (.renamed s.types.suffixed) := by
  unfold adoptMembers
  rw [Result.map_bind]
  refine Result.bind_congr_ok fun u _ => ?_
  cases u.wrapper with
  | none =>
    simp only [s.program_inbound, Result.map_bind]
    rfl
  | some wrapper =>
    simp only [s.program_inbound, Result.map_bind]
    rfl

theorem adoptOutput_plain (r : Resource) (role : Role) (o : Operation) (output : Shape)
    (response : Accessor) (target : InboundTarget) :
    s.adoptOutput r role o output response target =
      (s.plain.adoptOutput r role o output response target).map (.renamed s.types.suffixed) := by
  unfold adoptOutput
  by_cases hrole : role = .list
  · rw [if_pos hrole, if_pos hrole, Result.map_bind]
    refine Result.bind_congr_ok fun l _ => ?_
    cases l with
    | found l => exact s.adoptElement_plain r o output response target l
    | ambiguous => rfl
    | absent => exact s.adoptMembers_plain r o output response target
  · rw [if_neg hrole, if_neg hrole]
    exact s.adoptMembers_plain r o output response target

theorem adoptResponse_plain (r : Resource) (role : Role) (response : String)
    (target : InboundTarget) : s.adoptResponse r role response target =
      (s.plain.adoptResponse r role response target).map (.renamed s.types.suffixed) := by
  unfold adoptResponse
  cases r.operations.get? role with
  | none => rfl
  | some o =>
    simp only
    rw [Result.map_bind]
    refine Result.bind_congr_ok fun output _ => ?_
    cases output with
    | none => rfl
    | some output => exact s.adoptOutput_plain r role o output _ target

theorem adoptAttributes_plain (r : Resource) (response status : String) :
    s.adoptAttributes r response status =
      (s.plain.adoptAttributes r response status).map (.renamed s.types.suffixed) := by
  unfold adoptAttributes
  have hconfig : s.plain.config = s.config := rfl
  rw [hconfig]
  cases s.config.attributesMap? r.name with
  | none => exact s.adoptResponse_plain r .getAttributes response _
  | some a =>
    cases r.operations.getAttributes with
    | none => rfl
    | some o =>
      simp only
      rw [Result.map_bind]
      refine Result.bind_congr_ok fun output _ => ?_
      cases output.bind (·.member? a.mapMember) with
      | none => rfl
      | some m => exact congrArg Except.ok (s.program_inbound _)

end Synthesizer

end ResourceGen
