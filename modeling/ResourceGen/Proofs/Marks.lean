import ResourceGen.Proofs.Listing
import ResourceGen.Proofs.NestedTypes
import ResourceGen.Proofs.Redirection
import ResourceGen.Proofs.Suffixes

/-!
# Other marks of outputs

Two models that differ at most in which shapes are marked as outputs (`Remarked`) have the same
types and layouts, errors included. The marks are looked at in one place only, where the wrapper is
taken off an output. So everything about a resource whose outputs keep their marks
(`KeepsOutputs`) is the same in both models, up to the shapes that come along.

Results:
* `shapeType_eq`, `layout_eq`, `unwrap_eq`: types, layouts and outputs without their wrappers.
* `DerivationScope.derive_withModel`: the derived resource.
* `Synthesizer.adoptResponse_withModel`, `fillRequest_withModel`, …: the programs of a resource.
-/

namespace ResourceGen

/-- The output without its wrapper, with its shape changed. -/
def Unwrapped.mapShape (κ : Shape → Shape) (u : Unwrapped) : Unwrapped := ⟨κ u.shape, u.wrapper⟩

namespace ServiceModel

/-- The second model has the shapes of the first, with other marks of outputs. -/
structure Remarked (κ : Shape → Shape) (m m' : ServiceModel) : Prop where
  like : ∀ s : Shape, s.Like (κ s)
  shape? : ∀ reference, m'.shape? reference = (m.shape? reference).map κ
  size : m'.shapes.size = m.shapes.size

/-- The outputs of operations keep their marks. -/
def KeepsOutputs (κ : Shape → Shape) (m : ServiceModel) (x : ResourceOperations) : Prop :=
  ∀ role o reference s, x.get? role = some o → o.output = some reference →
    m.shape? reference = some s → (κ s).usedAsOutput = s.usedAsOutput

namespace Remarked

variable {κ : Shape → Shape} {m m' : ServiceModel} (h : m.Remarked κ m')

include h

theorem resolve_eq (reference context : String) :
    m'.resolve reference context = (m.resolve reference context).map κ := by
  unfold resolve
  rw [h.shape?]
  cases m.shape? reference <;> rfl

/-! ## Types and layouts -/

theorem typeWithin_eq (d : Nat) (s : Shape) : m'.typeWithin d (κ s) = m.typeWithin d s := by
  induction d generalizing s with
  | zero => rfl
  | succ d ih =>
    rw [typeWithin_succ, typeWithin_succ]
    unfold typeStep
    rw [(h.like s).kind, (h.like s).name]
    cases s.kind with
    | list element => simp only [h.resolve_eq, Result.bind_map, ih]
    | map key value => simp only [h.resolve_eq, Result.bind_map, ih]
    | _ => rfl

/-- **Types do not depend on marks.** -/
theorem shapeType_eq (s : Shape) : m'.shapeType (κ s) = m.shapeType s := by
  unfold shapeType
  rw [h.size, h.typeWithin_eq]

theorem layoutWithin_eq (d : Nat) (path : List String) (s : Shape) :
    m'.layoutWithin d path (κ s) = m.layoutWithin d path s := by
  induction d generalizing path s with
  | zero => rfl
  | succ d ih =>
    rw [layoutWithin_succ, layoutWithin_succ]
    unfold layoutStep
    rw [h.shapeType_eq, (h.like s).kind, (h.like s).name]
    refine Result.bind_congr_ok fun type _ => ?_
    cases type with
    | none => rfl
    | some type =>
      cases s.kind with
      | «structure» members =>
        refine Result.bind_congr_ok fun path _ => ?_
        refine congrArg (· >>= _) (Result.mapM_congr fun f _ => ?_)
        rw [h.shape?]
        cases m.shape? f.target with
        | none => rfl
        | some target => simp only [Option.map_some, ih]
      | list element => cases type <;> simp only [h.resolve_eq, Result.bind_map, ih]
      | map key value => cases type <;> simp only [h.resolve_eq, Result.bind_map, ih]
      | scalar t => cases type <;> rfl
      | unsupported label => cases type <;> rfl

/-- **Layouts do not depend on marks.** -/
theorem layout_eq (path : List String) (s : Shape) : m'.layout path (κ s) = m.layout path s := by
  unfold layout
  rw [h.size, h.layoutWithin_eq]

/-- Where an output keeps its mark, its wrapper is taken off in the same way. -/
theorem unwrap_eq {s : Shape} (hmark : (κ s).usedAsOutput = s.usedAsOutput) :
    m'.unwrap (κ s) = (m.unwrap s).map (.mapShape κ) := by
  unfold unwrap
  rw [(h.like s).members, (h.like s).name, hmark]
  cases s.members with
  | nil => rfl
  | cons f fs =>
    cases fs with
    | cons g gs => rfl
    | nil =>
      simp only
      by_cases houtput : s.usedAsOutput = true
      · rw [if_pos houtput, if_pos houtput, h.resolve_eq, Result.bind_map, Result.map_bind]
        refine Result.bind_congr_ok fun inner _ => ?_
        rw [(h.like inner).isStructure]
        cases inner.isStructure <;> rfl
      · rw [if_neg houtput, if_neg houtput]
        rfl

end Remarked

end ServiceModel

open ServiceModel (Remarked KeepsOutputs)

/-! ## Derived resources -/

namespace DerivationScope

variable {κ : Shape → Shape} {d : DerivationScope} {m : ServiceModel}

section

variable (h : d.model.Remarked κ m) (htypes : d.types.model = d.model)

include h htypes

theorem memberField_withModel (key member : String) (shape : Shape) :
    (d.withModel m).memberField key member (κ shape) = d.memberField key member shape := by
  have htype : (d.withModel m).types.fieldType .resource (κ shape) =
      d.types.fieldType .resource shape := by
    unfold TypeResolver.fieldType
    rw [htypes, ← h.shapeType_eq shape]
    rfl
  unfold memberField
  rw [htype, (h.like shape).name]
  rfl

theorem inputField_withModel (resource create : String) (mapMember : Option String)
    (input : Shape) (f : Member) :
    (d.withModel m).inputField resource create mapMember (κ input) f =
      d.inputField resource create mapMember input f := by
  have hresolve : (d.withModel m).model.resolve = m.resolve := rfl
  unfold inputField
  rw [hresolve, (h.like input).name, h.resolve_eq, Result.bind_map]
  simp only [memberField_withModel h htypes]
  rfl

theorem inputFields_withModel (resource : String) (create : Operation)
    (mapMember : Option String) : (d.withModel m).inputFields resource create mapMember =
      d.inputFields resource create mapMember := by
  have hresolve : (d.withModel m).model.resolve = m.resolve := rfl
  unfold inputFields
  cases create.input with
  | none => rfl
  | some reference =>
    simp only [hresolve, h.resolve_eq, Result.bind_map, (h.like _).members]
    refine Result.bind_congr_ok fun input _ => ?_
    rw [funext (inputField_withModel h htypes resource create.name mapMember input)]

theorem outputPart_withModel (resource create : String) (mapMember : Option String)
    (spec : Dict Field) (output : Shape) (f : Member) :
    (d.withModel m).outputPart resource create mapMember spec (κ output) f =
      d.outputPart resource create mapMember spec output f := by
  have hresolve : (d.withModel m).model.resolve = m.resolve := rfl
  unfold outputPart
  rw [hresolve, (h.like output).name, h.resolve_eq, Result.bind_map]
  simp only [memberField_withModel h htypes]
  rfl

theorem outputParts_withModel (resource : String) {create : Operation}
    (hmark : ∀ reference s, create.output = some reference → d.model.shape? reference = some s →
      (κ s).usedAsOutput = s.usedAsOutput) (mapMember : Option String) (spec : Dict Field) :
    (d.withModel m).outputParts resource create mapMember spec =
      d.outputParts resource create mapMember spec := by
  have hresolve : (d.withModel m).model.resolve = m.resolve := rfl
  have hunwrap : (d.withModel m).model.unwrap = m.unwrap := rfl
  unfold outputParts
  cases href : create.output with
  | none => rfl
  | some reference =>
    simp only [hresolve, hunwrap, h.resolve_eq, Result.bind_map]
    refine Result.bind_congr_ok fun output houtput => ?_
    have hshape := ServiceModel.resolve_eq_ok_iff.mp houtput
    rw [h.unwrap_eq (hmark reference output href hshape), Result.bind_map]
    refine Result.bind_congr_ok fun u _ => ?_
    show List.mapM ((d.withModel m).outputPart resource create.name mapMember spec (κ u.shape))
      (κ u.shape).members = _
    rw [funext (outputPart_withModel h htypes resource create.name mapMember spec u.shape),
      (h.like u.shape).members]

/-- **A resource whose outputs keep their marks is derived in the same way.** -/
theorem derive_withModel {index : OperationIndex} {resource : String}
    (hkeeps : KeepsOutputs κ d.model (.ofIndex index resource)) :
    (d.withModel m).derive index resource = d.derive index resource := by
  rw [derive_eq, derive_eq]
  cases hcreate : (ResourceOperations.ofIndex index resource).create with
  | none => rfl
  | some create =>
    simp only [inputFields_withModel h htypes]
    refine Result.bind_congr_ok fun fs _ => ?_
    refine congrArg (· >>= _) (outputParts_withModel h htypes resource ?_ _ _)
    exact fun reference s href hs => hkeeps .create create reference s hcreate href hs

end

end DerivationScope

/-! ## Programs -/

/-- The list of a response with its elements changed. -/
def ListMember.mapElement (κ : Shape → Shape) (l : ListMember) : ListMember := ⟨l.name, κ l.element⟩

/-- The list of resources with its elements changed. -/
def ResourceList.mapElement (κ : Shape → Shape) : ResourceList → ResourceList
  | .found l => .found (l.mapElement κ)
  | .ambiguous => .ambiguous
  | .absent => .absent

namespace Synthesizer

variable {κ : Shape → Shape} {s : Synthesizer} {m : ServiceModel} (h : s.model.Remarked κ m)

include h

theorem payload_withModel (o : Operation) (reference : Option String) :
    (s.withModel m).payload o reference = (s.payload o reference).map (Option.map κ) := by
  cases reference with
  | none => rfl
  | some reference =>
    show (m.resolve reference o.name).map some = ((s.model.resolve reference o.name).map some).map _
    rw [h.resolve_eq]
    cases s.model.resolve reference o.name <;> rfl

theorem copyOf_withModel (path : List String) (dest source : Accessor) (shape : Shape) :
    (s.withModel m).copyOf path dest source (κ shape) = s.copyOf path dest source shape := by
  unfold copyOf
  rw [model_withModel, h.layout_eq]

/-! ### Filling requests -/

theorem specTransfer_withModel (r : Resource) (o : Operation) (input : Shape)
    (mapMember : Option String) (request spec : Accessor) (key : String) (x : Field) :
    (s.withModel m).specTransfer r o (κ input) mapMember request spec key x =
      s.specTransfer r o input mapMember request spec key x := by
  have hmember : (s.withModel m).inputMember? r o (κ input) mapMember key =
      s.inputMember? r o input mapMember key := by
    unfold inputMember?
    rw [(h.like input).members, config_withModel]
  unfold specTransfer
  rw [hmember, (h.like input).name, model_withModel]
  cases s.inputMember? r o input mapMember key with
  | none => rfl
  | some f =>
    simp only [h.shape?]
    cases s.model.shape? f.target with
    | none => rfl
    | some shape => simp only [Option.map_some, copyOf_withModel h]

theorem fillInput_withModel (r : Resource) (o : Operation) (input : Shape)
    (object request : Accessor) : (s.withModel m).fillInput r o (κ input) object request =
      s.fillInput r o input object request := by
  have hmember : (s.withModel m).requestMapMember r (κ input) = s.requestMapMember r input := by
    unfold requestMapMember Shape.member?
    rw [(h.like input).members, config_withModel]
  have hsend (request spec : Accessor) (mapMember : String) :
      sendAttributes r request spec mapMember ⟨.outbound, (s.withModel m).types⟩ =
        sendAttributes r request spec mapMember ⟨.outbound, s.types⟩ := by
    unfold sendAttributes
    exact congrArg (fun ts => _ :: ts ++ _) (Copier.transfers_withModel ⟨.outbound, s.types⟩ m _ 0)
  unfold fillInput
  simp only [hmember, hsend, specTransfer_withModel h, s.program_withModel]

/-- **Requests are filled in the same way**, whatever the marks. -/
theorem fillRequest_withModel (r : Resource) (role : Role) (object request : String) :
    (s.withModel m).fillRequest r role object request = s.fillRequest r role object request := by
  unfold fillRequest
  cases r.operations.get? role with
  | none => rfl
  | some o =>
    simp only [payload_withModel h, Result.bind_map]
    refine Result.bind_congr_ok fun input _ => ?_
    cases input with
    | none => rfl
    | some input => exact fillInput_withModel h r o input _ _

theorem queryTransfer_withModel (r : Resource) (input : Shape) (object request : Accessor)
    (f : Member) : (s.withModel m).queryTransfer r (κ input) object request f =
      s.queryTransfer r input object request f := by
  unfold queryTransfer
  rw [model_withModel, h.shape?, (h.like input).name]
  cases s.model.shape? f.target with
  | none => rfl
  | some shape => simp only [Option.map_some, copyOf_withModel h]

/-- So are the requests for attribute maps. -/
theorem fillAttributesQuery_withModel (r : Resource) (object request : String) :
    (s.withModel m).fillAttributesQuery r object request =
      s.fillAttributesQuery r object request := by
  unfold fillAttributesQuery
  cases r.operations.getAttributes with
  | none => rfl
  | some o =>
    simp only [payload_withModel h, Result.bind_map]
    refine Result.bind_congr_ok fun input _ => ?_
    cases input with
    | none => rfl
    | some input =>
      simp only [Option.map_some, (h.like input).members, s.program_withModel]
      rw [funext (queryTransfer_withModel h r input (.parse object) (.parse request))]

/-! ### Taking over responses -/

theorem memberTransfer_withModel (r : Resource) (o : Operation) (path : List String)
    (source : Accessor) (target : InboundTarget) (f : Member) :
    (s.withModel m).memberTransfer r o path source target f =
      s.memberTransfer r o path source target f := by
  unfold memberTransfer
  rw [model_withModel, h.shape?]
  cases s.model.shape? f.target with
  | none => rfl
  | some shape =>
    simp only [Option.map_some, copyOf_withModel h, config_withModel]
    rfl

theorem memberTransfers_withModel (r : Resource) (o : Operation) (path : List String)
    (source : Accessor) (target : InboundTarget) (shape : Shape) :
    (s.withModel m).memberTransfers r o path source target (κ shape) =
      s.memberTransfers r o path source target shape := by
  unfold memberTransfers
  rw [funext (memberTransfer_withModel h r o path source target), (h.like shape).members]

theorem listMember_withModel (f : Member) : (s.withModel m).listMember f =
    (s.listMember f).map (Option.map (.mapElement κ)) := by
  unfold listMember
  rw [model_withModel, h.shape?]
  cases s.model.shape? f.target with
  | none => rfl
  | some shape =>
    simp only [Option.map_some, (h.like shape).kind, (h.like shape).name]
    cases shape.kind with
    | list reference =>
      simp only
      rw [h.resolve_eq, Result.bind_map, Result.map_bind]
      refine Result.bind_congr_ok fun element _ => ?_
      rw [(h.like element).isStructure]
      cases element.isStructure <;> rfl
    | _ => rfl

theorem structureLists_withModel (output : Shape) :
    (s.withModel m).structureLists (κ output) =
      (s.structureLists output).map (List.map (.mapElement κ)) := by
  unfold structureLists
  rw [funext (listMember_withModel h), (h.like output).members, Result.mapM_map, Result.bind_map,
    Result.map_bind]
  refine Result.bind_congr_ok fun ls _ => congrArg Except.ok ?_
  rw [List.filterMap_map, List.map_filterMap]
  rfl

/-- The same list stands out. -/
theorem choice_mapElement (r : Resource) (created : Option String) (ls : List ListMember) :
    choice r created (ls.map (.mapElement κ)) = (choice r created ls).mapElement κ := by
  match ls with
  | [] | [_] => rfl
  | l :: l' :: rest =>
    have hcreated : (fun l => created == some l.element.name) ∘ ListMember.mapElement κ =
        fun l => created == some l.element.name :=
      funext fun l => congrArg (fun name => created == some name) (h.like l.element).name
    have hnamed : (fun l => isNamedAfter r l.name) ∘ ListMember.mapElement κ =
        fun l => isNamedAfter r l.name := rfl
    have hmap : (l :: l' :: rest).map (ListMember.mapElement κ) =
        l.mapElement κ :: l'.mapElement κ :: rest.map (ListMember.mapElement κ) := rfl
    rw [hmap, choice, choice, ← hmap, List.find?_map, List.find?_map, hcreated, hnamed]
    cases (l :: l' :: rest).find? fun l => created == some l.element.name with
    | some l => rfl
    | none => cases (l :: l' :: rest).find? fun l => isNamedAfter r l.name <;> rfl

theorem adoptElement_withModel (r : Resource) (o : Operation) (output : Shape)
    (response : Accessor) (target : InboundTarget) (l : ListMember) :
    (s.withModel m).adoptElement r o (κ output) response target (l.mapElement κ) =
      s.adoptElement r o output response target l := by
  unfold adoptElement
  simp only [ListMember.mapElement, (h.like _).name, memberTransfers_withModel h,
    s.program_withModel]

theorem adoptMembers_withModel (r : Resource) (o : Operation) {output : Shape}
    (hmark : (κ output).usedAsOutput = output.usedAsOutput) (response : Accessor)
    (target : InboundTarget) : (s.withModel m).adoptMembers r o (κ output) response target =
      s.adoptMembers r o output response target := by
  unfold adoptMembers
  rw [model_withModel, h.unwrap_eq hmark, Result.bind_map]
  refine Result.bind_congr_ok fun u _ => ?_
  simp only [Unwrapped.mapShape, (h.like _).name, memberTransfers_withModel h, s.program_withModel]

/-! ### Outputs that keep their marks -/

variable {r : Resource} (hkeeps : KeepsOutputs κ s.model r.operations)

include hkeeps

omit h in
/-- The output of an operation of the resource keeps its mark. -/
theorem mark_of_payload {role : Role} {o : Operation} (ho : r.operations.get? role = some o)
    {output : Shape} (houtput : s.payload o o.output = .ok (some output)) :
    (κ output).usedAsOutput = output.usedAsOutput := by
  obtain ⟨reference, href, hshape⟩ := reference_of_payload houtput
  exact hkeeps role o reference output ho href hshape

theorem createdShape_withModel : (s.withModel m).createdShape r = s.createdShape r := by
  unfold createdShape
  cases hcreate : r.operations.create with
  | none => rfl
  | some create =>
    simp only [payload_withModel h, Result.bind_map]
    refine Result.bind_congr_ok fun output houtput => ?_
    cases output with
    | none => rfl
    | some output =>
      have hrole : r.operations.get? .create = some create := hcreate
      have hmark := mark_of_payload hkeeps hrole houtput
      simp only [Option.map_some, model_withModel, h.unwrap_eq hmark, Result.bind_map,
        Unwrapped.mapShape, (h.like _).name]

theorem resourceList_withModel (output : Shape) :
    (s.withModel m).resourceList r (κ output) = (s.resourceList r output).map (.mapElement κ) := by
  rw [resourceList_eq_bind, resourceList_eq_bind, structureLists_withModel h, Result.bind_map,
    Result.map_bind]
  refine Result.bind_congr_ok fun ls _ => ?_
  match ls with
  | [] | [_] => rfl
  | l :: l' :: rest =>
    simp only [List.map_cons, choose, createdShape_withModel h hkeeps]
    cases s.createdShape r with
    | error e => rfl
    | ok created => exact congrArg Except.ok (choice_mapElement h r created (l :: l' :: rest))

theorem adoptOutput_withModel (role : Role) (o : Operation) {output : Shape}
    (hmark : (κ output).usedAsOutput = output.usedAsOutput) (response : Accessor)
    (target : InboundTarget) : (s.withModel m).adoptOutput r role o (κ output) response target =
      s.adoptOutput r role o output response target := by
  unfold adoptOutput
  by_cases hrole : role = .list
  · rw [if_pos hrole, if_pos hrole, resourceList_withModel h hkeeps, Result.bind_map]
    refine Result.bind_congr_ok fun l _ => ?_
    cases l with
    | found l => exact adoptElement_withModel h r o output response target l
    | ambiguous => rfl
    | absent => exact adoptMembers_withModel h r o hmark response target
  · rw [if_neg hrole, if_neg hrole]
    exact adoptMembers_withModel h r o hmark response target

/-- **Responses are taken over in the same way** where outputs keep their marks. -/
theorem adoptResponse_withModel (role : Role) (response : String) (target : InboundTarget) :
    (s.withModel m).adoptResponse r role response target =
      s.adoptResponse r role response target := by
  unfold adoptResponse
  cases ho : r.operations.get? role with
  | none => rfl
  | some o =>
    simp only [payload_withModel h, Result.bind_map]
    refine Result.bind_congr_ok fun output houtput => ?_
    cases output with
    | none => rfl
    | some output =>
      exact adoptOutput_withModel h hkeeps role o (mark_of_payload hkeeps ho houtput) _ target

/-- So are attribute maps. -/
theorem adoptAttributes_withModel (response status : String) :
    (s.withModel m).adoptAttributes r response status = s.adoptAttributes r response status := by
  unfold adoptAttributes
  rw [config_withModel]
  cases s.config.attributesMap? r.name with
  | none => exact adoptResponse_withModel h hkeeps .getAttributes response _
  | some a =>
    cases r.operations.getAttributes with
    | none => rfl
    | some o =>
      simp only [payload_withModel h, Result.bind_map]
      refine Result.bind_congr_ok fun output _ => ?_
      have hmember : (output.map κ).bind (·.member? a.mapMember) =
          output.bind (·.member? a.mapMember) := by
        cases output with
        | none => rfl
        | some output => exact congrArg (List.find? _) (h.like output).members
      simp only [hmember, s.program_withModel]

end Synthesizer

end ResourceGen
