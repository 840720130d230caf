import ResourceGen.Code.Calls
import ResourceGen.Proofs.Result

/-!
# Where faults come up

`Raises x kinds`: a computation stops with errors of some kinds alone. A reference without a shape
is met wherever references are followed; that Create has no input, only while resources are
derived; that containment comes back to itself, only while programs are synthesized.

Results:
* `Schema.resources_raises`: the faults of the resources.
* `Schema.callFile_raises`: the faults of the functions of a resource.
* `Schema.typeDefs_raises`: the faults of the type definitions.
-/

namespace ResourceGen

/-- A computation stops with errors of some kinds alone. -/
def Raises {α : Type} (x : Result α) (kinds : List ErrorKind) : Prop :=
  ∀ err, x = .error err → err.kind ∈ kinds

namespace Raises

variable {α β : Type} {x : Result α} {kinds kinds' : List ErrorKind}

theorem ok (a : α) : Raises (.ok a : Result α) kinds := by
  intro err h
  cases h

theorem pure (a : α) : Raises (Pure.pure a : Result α) kinds := ok a

theorem error {err : GeneratorError} (h : err.kind ∈ kinds) :
    Raises (.error err : Result α) kinds := by
  intro err' herr
  cases herr
  exact h

theorem mono (h : Raises x kinds) (hsub : kinds ⊆ kinds') : Raises x kinds' :=
  fun err herr => hsub (h err herr)

theorem bind {f : α → Result β} (h : Raises x kinds) (hf : ∀ a, x = .ok a → Raises (f a) kinds) :
    Raises (x >>= f) kinds := by
  intro err herr
  rcases Result.bind_eq_error_iff.mp herr with herr | ⟨a, ha, herr⟩
  · exact h err herr
  · exact hf a ha err herr

/-- What goes on without a fault has the faults of what it starts from. -/
theorem bind_pure {f : α → β} (h : Raises x kinds) :
    Raises (x >>= fun a => Pure.pure (f a)) kinds :=
  h.bind fun a _ => pure (f a)

theorem map {f : α → β} (h : Raises x kinds) : Raises (x.map f) kinds := by
  intro err herr
  cases x with
  | error err' =>
    cases herr
    exact h err rfl
  | ok a => cases herr

theorem mapM {f : α → Result β} {l : List α} (h : ∀ a ∈ l, Raises (f a) kinds) :
    Raises (l.mapM f) kinds := by
  intro err herr
  obtain ⟨a, ha, herr⟩ := Result.exists_of_mapM_eq_error herr
  exact h a ha err herr

end Raises

/-! ## Shapes and types -/

namespace ServiceModel

variable (m : ServiceModel)

theorem resolve_raises (reference context : String) :
    Raises (m.resolve reference context) [.nilShapePointer] := by
  unfold resolve
  split
  · exact .ok _
  · exact .error (List.mem_singleton_self _)

theorem typeWithin_raises (depth : Nat) (s : Shape) :
    Raises (m.typeWithin depth s) [.nilShapePointer] := by
  induction depth generalizing s with
  | zero => exact .ok _
  | succ depth ih =>
    rw [typeWithin]
    split
    · exact .ok _
    · exact .ok _
    · exact (m.resolve_raises _ _).bind fun e _ => (ih e).bind_pure
    · refine (m.resolve_raises _ _).bind fun k _ => (m.resolve_raises _ _).bind fun v _ =>
        (ih k).bind fun _ _ => (ih v).bind fun _ _ => ?_
      split <;> exact .pure _
    · exact .ok _

theorem shapeType_raises (s : Shape) : Raises (m.shapeType s) [.nilShapePointer] :=
  m.typeWithin_raises _ s

theorem unwrap_raises (s : Shape) : Raises (m.unwrap s) [.nilShapePointer] := by
  unfold unwrap
  split
  · split
    · exact (m.resolve_raises _ _).bind_pure
    · exact .ok _
  · exact .ok _

theorem enter_raises (path : List String) (shape : String) :
    Raises (enter path shape) [.nilShapePointer, .shapeCycle] := by
  unfold enter
  split
  · exact .error (by simp [GeneratorError.kind])
  · exact .ok _

theorem layoutWithin_raises (depth : Nat) (path : List String) (s : Shape) :
    Raises (m.layoutWithin depth path s) [.nilShapePointer, .shapeCycle] := by
  have hsub : [ErrorKind.nilShapePointer] ⊆ [.nilShapePointer, .shapeCycle] := by decide
  induction depth generalizing path s with
  | zero => exact .ok _
  | succ depth ih =>
    rw [layoutWithin]
    refine ((m.shapeType_raises s).mono hsub).bind fun type? _ => ?_
    cases type? with
    | none => exact .pure _
    | some type =>
      dsimp only
      split
      · exact .pure _
      · refine (enter_raises _ _).bind fun path' _ => Raises.bind_pure (.mapM fun f _ => ?_)
        split
        · exact .pure _
        · exact (ih path' _).bind_pure
      · exact ((m.resolve_raises _ _).mono hsub).bind fun t _ => (ih path t).bind_pure
      · exact ((m.resolve_raises _ _).mono hsub).bind fun t _ => (ih path t).bind_pure
      · exact .pure _

end ServiceModel

theorem TypeResolver.fieldType_raises (r : TypeResolver) (side : Side) (s : Shape) :
    Raises (r.fieldType side s) [.nilShapePointer] :=
  (r.model.shapeType_raises s).bind_pure

/-! ## Resources and type definitions -/

namespace DerivationScope

variable (s : DerivationScope) (resource : String) (create : Operation) (mapMember : Option String)

theorem memberField_raises (key member : String) (shape : Shape) :
    Raises (s.memberField key member shape) [.nilShapePointer] :=
  (s.types.fieldType_raises _ _).bind_pure

theorem inputField_raises (input : Shape) (m : Member) :
    Raises (s.inputField resource create.name mapMember input m) [.nilShapePointer] := by
  refine (s.model.resolve_raises _ _).bind fun shape _ => ?_
  split
  · exact .pure _
  · exact s.memberField_raises _ _ _

theorem inputFields_raises : Raises (s.inputFields resource create mapMember)
    [.nilShapePointer, .missingInputShape] := by
  have hsub : [ErrorKind.nilShapePointer] ⊆ [.nilShapePointer, .missingInputShape] := by decide
  unfold inputFields
  split
  · exact .error (by simp [GeneratorError.kind])
  · exact Raises.mono ((s.model.resolve_raises _ _).bind fun input _ =>
      Raises.bind_pure (.mapM fun m _ => s.inputField_raises resource create mapMember input m)) hsub

theorem outputPart_raises (spec : Dict Field) (output : Shape) (m : Member) :
    Raises (s.outputPart resource create.name mapMember spec output m) [.nilShapePointer] := by
  refine (s.model.resolve_raises _ _).bind fun shape _ => ?_
  dsimp only
  split
  · exact .pure _
  · split
    · exact .pure _
    · refine (s.memberField_raises _ _ _).bind fun f _ => ?_
      cases f <;> exact .pure _

theorem outputParts_raises (spec : Dict Field) :
    Raises (s.outputParts resource create mapMember spec) [.nilShapePointer] := by
  unfold outputParts
  split
  · exact .pure _
  · exact (s.model.resolve_raises _ _).bind fun output _ => (s.model.unwrap_raises _).bind fun u _ =>
      .mapM fun m _ => s.outputPart_raises resource create mapMember spec _ m

theorem derive_raises (index : OperationIndex) : Raises (s.derive index resource)
    [.nilShapePointer, .missingInputShape, .generation] := by
  unfold derive
  dsimp only
  split
  · exact .error (by simp [GeneratorError.kind])
  · refine ((s.inputFields_raises resource _ _).mono (by decide)).bind fun fs _ => ?_
    exact ((s.outputParts_raises resource _ _ _).mono (by decide)).bind fun parts _ => .pure _

end DerivationScope

namespace TypeDef

theorem attributesOf_raises (types : TypeResolver) (s : Shape) :
    Raises (attributesOf types s) [.nilShapePointer] :=
  Raises.bind_pure <| .mapM fun _ _ =>
    (types.model.resolve_raises _ _).bind fun t _ => (types.fieldType_raises _ t).bind_pure

theorem ofShape_raises (types : TypeResolver) (s : Shape) :
    Raises (ofShape types s) [.nilShapePointer] :=
  (attributesOf_raises types s).bind_pure

end TypeDef

/-! ## Programs -/

namespace Synthesizer

variable (s : Synthesizer) (r : Resource) (o : Operation)

/-- The kinds of errors that synthesis can come to. -/
def faults : List ErrorKind := [.nilShapePointer, .shapeCycle]

theorem resolve_faults (reference context : String) :
    Raises (s.model.resolve reference context) faults :=
  (s.model.resolve_raises reference context).mono (by decide)

theorem unwrap_faults (shape : Shape) : Raises (s.model.unwrap shape) faults :=
  (s.model.unwrap_raises shape).mono (by decide)

theorem payload_faults (reference? : Option String) : Raises (s.payload o reference?) faults := by
  cases reference? with
  | none => exact .ok _
  | some reference => exact (s.resolve_faults _ _).map

theorem copyOf_faults (path : List String) (dest source : Accessor) (shape : Shape) :
    Raises (s.copyOf path dest source shape) faults :=
  (s.model.layoutWithin_raises _ path shape).bind_pure

theorem fillInput_faults (input : Shape) (object request : Accessor) :
    Raises (s.fillInput r o input object request) faults := by
  unfold fillInput
  refine Raises.bind_pure (.mapM fun e _ => ?_)
  unfold specTransfer
  split
  · exact .ok _
  · split
    · exact .ok _
    · split
      · exact .ok _
      · exact s.copyOf_faults _ _ _ _

theorem fillRequest_faults (role : Role) (object request : String) :
    Raises (s.fillRequest r role object request) faults := by
  unfold fillRequest
  split
  · exact .pure _
  · refine (s.payload_faults _ _).bind fun input? _ => ?_
    cases input? with
    | none => exact .pure _
    | some input => exact s.fillInput_faults r _ input _ _

theorem fillAttributesQuery_faults (object request : String) :
    Raises (s.fillAttributesQuery r object request) faults := by
  unfold fillAttributesQuery
  split
  · exact .pure _
  · refine (s.payload_faults _ _).bind fun input? _ => ?_
    cases input? with
    | none => exact .pure _
    | some input =>
      refine Raises.bind_pure (.mapM fun m _ => ?_)
      unfold queryTransfer
      split
      · exact .ok _
      · dsimp only
        split
        · exact .ok _
        · split
          · exact .ok _
          · exact s.copyOf_faults _ _ _ _

theorem memberTransfers_faults (path : List String) (source : Accessor) (target : InboundTarget)
    (shape : Shape) : Raises (s.memberTransfers r o path source target shape) faults := by
  refine Raises.bind_pure (.mapM fun m _ => ?_)
  unfold memberTransfer
  split
  · exact .ok _
  · split
    · exact .ok _
    · dsimp only
      split
      · exact s.copyOf_faults _ _ _ _
      · exact .ok _

theorem resourceList_faults (output : Shape) : Raises (s.resourceList r output) faults := by
  have hmember (m : Member) : Raises (s.listMember m) faults := by
    unfold listMember
    split
    · exact .ok _
    · split
      · exact (s.resolve_faults _ _).bind_pure
      · exact .ok _
  have hcreated : Raises (s.createdShape r) faults := by
    unfold createdShape
    split
    · exact .pure _
    · refine (s.payload_faults _ _).bind fun output? _ => ?_
      cases output? with
      | none => exact .pure _
      | some output => exact (s.unwrap_faults output).bind_pure
  unfold resourceList
  refine (Raises.mapM fun m _ => hmember m).bind fun items _ => ?_
  split
  · exact .pure _
  · exact .pure _
  · refine hcreated.bind fun created _ => ?_
    split <;> exact .pure _

theorem adoptMembers_faults (output : Shape) (response : Accessor) (target : InboundTarget) :
    Raises (s.adoptMembers r o output response target) faults := by
  refine (s.unwrap_faults output).bind fun u _ => ?_
  split
  · exact (s.memberTransfers_faults r o _ _ _ _).bind_pure
  · exact (ServiceModel.enter_raises _ _).bind fun path _ =>
      (s.memberTransfers_faults r o _ _ _ _).bind_pure

theorem adoptOutput_faults (role : Role) (output : Shape) (response : Accessor)
    (target : InboundTarget) : Raises (s.adoptOutput r role o output response target) faults := by
  unfold adoptOutput
  split
  · refine (s.resourceList_faults r output).bind fun list _ => ?_
    cases list with
    | found l =>
      exact (ServiceModel.enter_raises _ _).bind fun path _ =>
        (s.memberTransfers_faults r o _ _ _ _).bind_pure
    | ambiguous => exact .pure _
    | absent => exact s.adoptMembers_faults r o output response target
  · exact s.adoptMembers_faults r o output response target

theorem adoptResponse_faults (role : Role) (response : String) (target : InboundTarget) :
    Raises (s.adoptResponse r role response target) faults := by
  unfold adoptResponse
  split
  · exact .pure _
  · refine (s.payload_faults _ _).bind fun output? _ => ?_
    cases output? with
    | none => exact .pure _
    | some output => exact s.adoptOutput_faults r _ role output _ target

theorem adoptAttributes_faults (response status : String) :
    Raises (s.adoptAttributes r response status) faults := by
  unfold adoptAttributes
  split
  · exact s.adoptResponse_faults r _ _ _
  · split
    · exact .pure _
    · refine (s.payload_faults _ _).bind fun output? _ => ?_
      dsimp only
      split <;> exact .pure _

end Synthesizer

/-! ## Stages -/

namespace Schema

variable (schema : Schema)

/-- **The resources stop at references without a shape and at a Create operation without an
input**, or where there is no Create operation. -/
theorem resources_raises :
    Raises schema.resources [.nilShapePointer, .missingInputShape, .generation] :=
  Raises.bind_pure (.mapM fun name _ => schema.derivation.derive_raises name schema.index)

/-- **The type definitions stop at references without a shape.** -/
theorem typeDefs_raises : Raises schema.typeDefs [.nilShapePointer] :=
  Raises.bind_pure (.mapM fun s _ => TypeDef.ofShape_raises schema.types s)

theorem roleFunctions_raises (r : Resource) (role : Role) :
    Raises (schema.roleFunctions r role) Synthesizer.faults := by
  have hrequest (o : Operation) : Raises (schema.requestFunction r role o) Synthesizer.faults := by
    unfold requestFunction requestProgram
    split
    · exact .ok _
    · refine Raises.map ?_
      split
      · exact schema.synthesizer.fillAttributesQuery_faults r _ _
      · exact schema.synthesizer.fillRequest_faults r role _ _
  have hresponse (o : Operation) : Raises (schema.responseFunction r role o) Synthesizer.faults := by
    unfold responseFunction
    split
    · rename_i shape program _ hprogram
      refine Raises.map ?_
      unfold responseProgram at hprogram
      dsimp only at hprogram
      split at hprogram <;> cases hprogram
      · exact schema.synthesizer.adoptAttributes_faults r _ _
      · exact schema.synthesizer.adoptResponse_faults r _ _ _
      · exact schema.synthesizer.adoptResponse_faults r _ _ _
    · exact .ok _
  unfold roleFunctions
  split
  · exact .pure _
  · exact (hrequest _).bind fun _ _ => (hresponse _).bind_pure

/-- **The functions of a resource stop at references without a shape and at cycles.** -/
theorem callFile_raises (r : Resource) : Raises (schema.callFile r) [.nilShapePointer, .shapeCycle] :=
  Raises.bind_pure (Raises.bind_pure (.mapM fun role _ => schema.roleFunctions_raises r role))

end Schema

end ResourceGen
