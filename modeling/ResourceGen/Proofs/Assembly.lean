import ResourceGen.Proofs.Listing
import ResourceGen.Proofs.Requests

/-!
# What programs are made of

The four kinds of programs of a `Synthesizer` have three forms: transfers one after the other, the
attribute map of a resource before them, or a block around them for the only element of a list.
What holds of every program is proved for these forms (`Synthesizer.Assembled`).

Of a transfer it matters between which variables it moves its value, and that a value which is
copied goes along the whole layout of a shape (`Transfer.Within`).

Results:
* `fillRequest_assembled`, `adoptResponse_assembled`: the programs that may send an attribute map or
  take over an element.
* `fillAttributesQuery_moves`, `adoptAttributes_moves`: the programs that are transfers only.
-/

namespace ResourceGen

/-- The transfer moves its value between variables out of `roots`: along the layout of a shape of the
model, or from some step behind a variable. -/
def Transfer.Within (m : ServiceModel) (roots : List String) : Transfer → Prop
  | copied dest source l =>
    dest.root ∈ roots ∧ source.root ∈ roots ∧ ∃ shape ∈ m.shapes.values, l.Unfolds m shape
  | handed dest source _ => dest.root ∈ roots ∧ source.root ∈ roots ∧ source.segments ≠ []

theorem Transfer.Within.roots {m : ServiceModel} {roots : List String} {t : Transfer}
    (h : t.Within m roots) : t.dest.root ∈ roots ∧ t.source.root ∈ roots := by
  cases t with
  | copied => exact ⟨h.1, h.2.1⟩
  | handed => exact ⟨h.1, h.2.1⟩

namespace Synthesizer

/-- The program is transfers between variables out of `roots`. -/
def Moves (s : Synthesizer) (d : Direction) (roots : List String) (p : Program) : Prop :=
  ∃ ts, (∀ t ∈ ts, t.Within s.model roots) ∧ p = s.program d [] ts

/-- The program is transfers between variables out of `roots`, maybe behind the attribute map of a
resource or inside the block for the only element of a list. -/
inductive Assembled (s : Synthesizer) (roots : List String) : Direction → Program → Prop where
  | transfers {d : Direction} {p : Program} (h : s.Moves d roots p) : Assembled s roots d p
  | behindAttributes (r : Resource) (member : String) {request spec : Accessor}
      {ts : List Transfer} (hrequest : request.root ∈ roots) (hspec : spec.root ∈ roots)
      (hts : ∀ t ∈ ts, t.Within s.model roots) :
      Assembled s roots .outbound
        (s.program .outbound (sendAttributes r request spec member ⟨.outbound, s.types⟩) ts)
  | onlyElement {list : Accessor} {p : Program} (hlist : list.root ∈ roots)
      (h : s.Moves .inbound (onlyElementVar :: roots) p) :
      Assembled s roots .inbound ⟨.inbound, [.ifSingleElement list onlyElementVar p.statements]⟩

variable {s : Synthesizer} {r : Resource} {o : Operation} {roots : List String} {p : Program}

theorem moves_empty (d : Direction) : s.Moves d roots (.empty d) :=
  ⟨[], fun _ h => absurd h List.not_mem_nil, rfl⟩

theorem copyOf_within {path : List String} {dest source : Accessor} {reference : String}
    {shape : Shape} {t : Transfer} (hshape : s.model.shape? reference = some shape)
    (h : s.copyOf path dest source shape = .ok (some t)) (hdest : dest.root ∈ roots)
    (hsource : source.root ∈ roots) : t.Within s.model roots := by
  rcases copyOf_cases h with ⟨-, h⟩ | ⟨-, l, hl, h⟩
  · cases h
  · cases h
    exact ⟨hdest, hsource, shape, Dict.mem_values_of_get? hshape, hl⟩

/-! ## Requests -/

section Requests

variable {input : Shape} {object request : Accessor}

theorem specTransfer_within {mapMember : Option String} {key : String} {f : Field} {t : Transfer}
    {spec : Accessor}
    (h : s.specTransfer r o input mapMember request spec key f = .ok (some t))
    (hrequest : request.root ∈ roots) (hspec : spec.root ∈ roots) :
    t.Within s.model roots := by
  rcases specTransfer_cases h with ⟨h, -⟩ | ⟨m, shape, -, -, hshape, -, l, hl, h⟩
  · cases h
  · cases h
    exact ⟨hrequest, hspec, shape, Dict.mem_values_of_get? hshape, hl⟩

theorem fillInput_assembled (h : s.fillInput r o input object request = .ok p) :
    s.Assembled [object.root, request.root] .outbound p := by
  have hobject : object.root ∈ [object.root, request.root] := by simp
  have hrequest : request.root ∈ [object.root, request.root] := by simp
  unfold fillInput at h
  obtain ⟨ts, hts, h⟩ := Result.bind_eq_ok_iff.mp h
  obtain rfl := Result.pure_eq_ok_iff.mp h
  have hwithin := forall_of_mapM hts fun _ _ _ ht =>
    specTransfer_within ht hrequest hobject
  cases (s.requestMapMember r input).map (·.name) with
  | none => exact .transfers ⟨_, hwithin, rfl⟩
  | some member => exact .behindAttributes r member hrequest hobject hwithin

/-- **A request is filled by transfers from the resource**, maybe behind the attribute map. -/
theorem fillRequest_assembled {role : Role} {object request : String}
    (h : s.fillRequest r role object request = .ok p) :
    s.Assembled [(Accessor.parse object).root, (Accessor.parse request).root] .outbound p := by
  unfold fillRequest at h
  cases ho : r.operations.get? role with
  | none =>
    simp only [ho] at h
    obtain rfl := Result.pure_eq_ok_iff.mp h
    exact .transfers (moves_empty _)
  | some o =>
    simp only [ho] at h
    obtain ⟨payload, -, h⟩ := Result.bind_eq_ok_iff.mp h
    cases payload with
    | none =>
      obtain rfl := Result.pure_eq_ok_iff.mp h
      exact .transfers (moves_empty _)
    | some input => exact fillInput_assembled h

/-- A field of a resource is found below its Status or its Spec. -/
theorem root_of_fieldByWireName? {name : String} {source : Accessor}
    (h : fieldByWireName? r object name = some source) : source.root = object.root := by
  simp only [fieldByWireName?] at h
  split at h <;> cases h <;> rfl

theorem queryTransfer_within {m : Member} {t : Transfer}
    (h : s.queryTransfer r input object request m = .ok (some t))
    (hrequest : request.root ∈ roots) (hobject : object.root ∈ roots) :
    t.Within s.model roots := by
  unfold queryTransfer at h
  cases hshape : s.model.shape? m.target with
  | none => simp only [hshape] at h; cases h
  | some shape =>
    simp only [hshape] at h
    split at h
    · cases h
      exact ⟨hrequest, hobject, by simp [arnSlot, Accessor.field]⟩
    · cases hsource : fieldByWireName? r object m.name with
      | none => simp only [hsource] at h; cases h
      | some source =>
        simp only [hsource] at h
        exact copyOf_within hshape h hrequest (root_of_fieldByWireName? hsource ▸ hobject)

/-- **The request for the attribute map is filled by transfers from the resource.** -/
theorem fillAttributesQuery_moves {object request : String}
    (h : s.fillAttributesQuery r object request = .ok p) :
    s.Moves .outbound [(Accessor.parse object).root, (Accessor.parse request).root] p := by
  unfold fillAttributesQuery at h
  cases ho : r.operations.getAttributes with
  | none =>
    simp only [ho] at h
    obtain rfl := Result.pure_eq_ok_iff.mp h
    exact moves_empty _
  | some o =>
    simp only [ho] at h
    obtain ⟨payload, -, h⟩ := Result.bind_eq_ok_iff.mp h
    cases payload with
    | none =>
      obtain rfl := Result.pure_eq_ok_iff.mp h
      exact moves_empty _
    | some input =>
      obtain ⟨ts, hts, h⟩ := Result.bind_eq_ok_iff.mp h
      obtain rfl := Result.pure_eq_ok_iff.mp h
      exact ⟨_, forall_of_mapM hts fun _ _ _ ht => queryTransfer_within ht (by simp) (by simp), rfl⟩

end Requests

/-! ## Responses -/

section Responses

variable {path : List String} {output : Shape} {source response : Accessor} {target : InboundTarget}

theorem memberTransfer_within {m : Member} {t : Transfer}
    (h : s.memberTransfer r o path source target m = .ok (some t))
    (htarget : target.statusRoot.root ∈ roots) (hsource : source.root ∈ roots) :
    t.Within s.model roots := by
  obtain ⟨hdest, hroot⟩ := roots_of_memberTransfer h
  rw [← hdest] at htarget
  rw [← hroot] at hsource
  unfold memberTransfer at h
  cases hshape : s.model.shape? m.target with
  | none => simp only [hshape] at h; cases h
  | some shape =>
    simp only [hshape] at h
    split at h
    · cases h
    · cases hdest : outputDest? r target (s.config.outputName r.name o.name m.name) with
      | some dest =>
        simp only [hdest] at h
        rcases copyOf_cases h with ⟨-, h⟩ | ⟨-, l, hl, h⟩
        · cases h
        · cases h
          exact ⟨htarget, hsource, shape, Dict.mem_values_of_get? hshape, hl⟩
      | none =>
        simp only [hdest] at h
        split at h
        · cases h
          exact ⟨htarget, hsource, by simp [Accessor.field]⟩
        · cases h

/-- The members of a structure are transferred from it to the target. -/
theorem memberTransfers_moves {shape : Shape} {ts : List Transfer}
    (h : s.memberTransfers r o path source target shape = .ok ts) (hsource : source.root ∈ roots)
    (htarget : target.statusRoot.root ∈ roots) :
    s.Moves .inbound roots (s.program .inbound [] ts) := by
  unfold memberTransfers at h
  obtain ⟨os, hos, h⟩ := Result.bind_eq_ok_iff.mp h
  obtain rfl := Result.pure_eq_ok_iff.mp h
  exact ⟨_, forall_of_mapM hos fun _ _ _ ht => memberTransfer_within ht htarget hsource, rfl⟩

theorem adoptMembers_moves (h : s.adoptMembers r o output response target = .ok p) :
    s.Moves .inbound [response.root, target.statusRoot.root] p := by
  unfold adoptMembers at h
  obtain ⟨u, hu, h⟩ := Result.bind_eq_ok_iff.mp h
  cases hw : u.wrapper with
  | none =>
    simp only [hw] at h
    obtain ⟨ts, hts, h⟩ := Result.bind_eq_ok_iff.mp h
    obtain rfl := Result.pure_eq_ok_iff.mp h
    exact memberTransfers_moves hts (by simp) (by simp)
  | some wrapper =>
    simp only [hw] at h
    obtain ⟨path, -, h⟩ := Result.bind_eq_ok_iff.mp h
    obtain ⟨ts, hts, h⟩ := Result.bind_eq_ok_iff.mp h
    obtain rfl := Result.pure_eq_ok_iff.mp h
    exact memberTransfers_moves hts (by simp) (by simp)

theorem adoptElement_assembled {l : ListMember}
    (h : s.adoptElement r o output response target l = .ok p) :
    s.Assembled [response.root, target.statusRoot.root] .inbound p := by
  unfold adoptElement at h
  obtain ⟨path, -, h⟩ := Result.bind_eq_ok_iff.mp h
  obtain ⟨ts, hts, h⟩ := Result.bind_eq_ok_iff.mp h
  obtain rfl := Result.pure_eq_ok_iff.mp h
  refine .onlyElement (by simp) (memberTransfers_moves hts ?_ (by simp))
  exact List.mem_cons_self

/-- **A response is taken over by transfers**, for a List operation maybe those of one element. -/
theorem adoptResponse_assembled {role : Role} {response : String}
    (h : s.adoptResponse r role response target = .ok p) :
    s.Assembled [(Accessor.parse response).root, target.statusRoot.root] .inbound p ∧
      (role ≠ .list →
        s.Moves .inbound [(Accessor.parse response).root, target.statusRoot.root] p) := by
  have hmoves {p : Program}
      (h : s.Moves .inbound [(Accessor.parse response).root, target.statusRoot.root] p) :
      s.Assembled [(Accessor.parse response).root, target.statusRoot.root] .inbound p ∧
        (role ≠ .list →
          s.Moves .inbound [(Accessor.parse response).root, target.statusRoot.root] p) :=
    ⟨.transfers h, fun _ => h⟩
  unfold adoptResponse at h
  cases ho : r.operations.get? role with
  | none =>
    simp only [ho] at h
    obtain rfl := Result.pure_eq_ok_iff.mp h
    exact hmoves (moves_empty _)
  | some o =>
    simp only [ho] at h
    obtain ⟨payload, -, h⟩ := Result.bind_eq_ok_iff.mp h
    cases payload with
    | none =>
      obtain rfl := Result.pure_eq_ok_iff.mp h
      exact hmoves (moves_empty _)
    | some output =>
      simp only at h
      unfold adoptOutput at h
      split at h
      · rename_i hlist
        refine ⟨?_, fun hrole => absurd hlist hrole⟩
        obtain ⟨found, -, h⟩ := Result.bind_eq_ok_iff.mp h
        cases found with
        | found l => exact adoptElement_assembled h
        | ambiguous =>
          obtain rfl := Result.pure_eq_ok_iff.mp h
          exact .transfers (moves_empty _)
        | absent => exact .transfers (adoptMembers_moves h)
      · exact hmoves (adoptMembers_moves h)

theorem attributeTransfers_within {routes : AttributeRoutes} {map status : Accessor} {t : Transfer}
    (ht : t ∈ attributeTransfers r routes map status) (hmap : map.root ∈ roots)
    (hstatus : status.root ∈ roots) : t.Within s.model roots := by
  have hhanded (dest : Accessor) (key : String) (kind : AssignKind) (hdest : dest.root ∈ roots) :
      (Transfer.handed dest (map.key key) kind).Within s.model roots :=
    ⟨hdest, hmap, by simp [Accessor.key]⟩
  unfold attributeTransfers at ht
  rcases List.mem_append.mp ht with ht | ht
  · rcases List.mem_append.mp ht with ht | ht
    · obtain ⟨f, -, hf⟩ := List.mem_filterMap.mp ht
      obtain ⟨key, -, rfl⟩ := Option.map_eq_some_iff.mp hf
      exact hhanded (status.field f.names.camel) key _ hstatus
    · obtain ⟨key, -, rfl⟩ := Option.map_eq_some_iff.mp (Option.mem_toList.mp ht)
      exact hhanded (ownerSlot status) key _ hstatus
  · obtain ⟨key, -, rfl⟩ := Option.map_eq_some_iff.mp (Option.mem_toList.mp ht)
    exact hhanded (arnSlot status) key _ hstatus

/-- **The response with the attribute map is taken over by transfers into the Status.** -/
theorem adoptAttributes_moves {response status : String}
    (h : s.adoptAttributes r response status = .ok p) :
    s.Moves .inbound [(Accessor.parse response).root, (Accessor.parse status).root] p := by
  unfold adoptAttributes at h
  cases ha : s.config.attributesMap? r.name with
  | none =>
    simp only [ha] at h
    exact (adoptResponse_assembled h).2 (by decide)
  | some a =>
    simp only [ha] at h
    cases ho : r.operations.getAttributes with
    | none =>
      simp only [ho] at h
      obtain rfl := Result.pure_eq_ok_iff.mp h
      exact moves_empty _
    | some o =>
      simp only [ho] at h
      obtain ⟨payload, -, h⟩ := Result.bind_eq_ok_iff.mp h
      cases hm : payload.bind (·.member? a.mapMember) with
      | none =>
        simp only [hm] at h
        obtain rfl := Result.pure_eq_ok_iff.mp h
        exact moves_empty _
      | some m =>
        simp only [hm] at h
        obtain rfl := Result.pure_eq_ok_iff.mp h
        exact ⟨_, fun t ht => attributeTransfers_within ht (by simp [Accessor.field]) (by simp),
          rfl⟩

end Responses

end Synthesizer

end ResourceGen
