import ResourceGen.Proofs.Cycles
import ResourceGen.Proofs.Listing

/-!
# When synthesis fails

A program begins inside of one or two structures (`base`): the input, or the output and what its
wrapper or its list holds. It copies some members of the innermost one (`RequestVisits`,
`AdoptionVisits`). It cannot be given exactly when these structures are one already, or when the
copies come to a structure that they are inside of (`Loops`).

Results:
* `copies_failAlong`: copying members fails exactly along such cycles.
* `fillInput_failsAlong`, `adoptOutput_failsAlong`: so do the programs for a payload.
* `Loops.isCycle`: what the reported path looks like.
* `synthesis_fails_along_cycles`: synthesis ends, and fails exactly on cycles.
-/

namespace ResourceGen

open Relation (ReflTransGen)

/-- A computation fails exactly when there is a cycle of a kind, and its error shows one. -/
structure FailsAlong {α : Type} (x : Result α) (Cycle : List Shape → Prop) : Prop where
  shows : ∀ err, x = .error err →
    ∃ shapes, Cycle shapes ∧ err = .shapeCycle (shapes.map (·.name))
  fails : ∀ shapes, Cycle shapes → ∃ err, x = .error err

namespace FailsAlong

variable {α β : Type} {x : Result α} {Cycle : List Shape → Prop}

/-- What always goes on from a result fails as the result does. -/
theorem bind_pure (h : FailsAlong x Cycle) (f : α → β) :
    FailsAlong (x >>= fun a => pure (f a)) Cycle where
  shows err herr := by
    rcases Result.bind_eq_error_iff.mp herr with herr | ⟨a, -, herr⟩
    · exact h.shows err herr
    · cases herr
  fails shapes hshapes := by
    obtain ⟨err, herr⟩ := h.fails shapes hshapes
    exact ⟨err, Result.bind_eq_error_iff.mpr (Or.inl herr)⟩

theorem of_ok {a : α} (h : x = .ok a) (hnone : ∀ shapes, ¬ Cycle shapes) : FailsAlong x Cycle where
  shows err herr := by
    rw [h] at herr
    cases herr
  fails shapes hshapes := absurd hshapes (hnone shapes)

theorem congr {Cycle' : List Shape → Prop} (h : FailsAlong x Cycle)
    (hiff : ∀ shapes, Cycle' shapes ↔ Cycle shapes) : FailsAlong x Cycle' where
  shows err herr := by
    obtain ⟨shapes, hshapes, heq⟩ := h.shows err herr
    exact ⟨shapes, (hiff shapes).mpr hshapes, heq⟩
  fails shapes hshapes := h.fails shapes ((hiff shapes).mp hshapes)

end FailsAlong

namespace ServiceModel

variable {m : ServiceModel} {visited : Member → Prop} {base shapes : List Shape}

/-- **Copying members inside of given structures comes to a cycle.** Two of the structures have one
name; or a member leads to a structure that the walk is inside of. -/
def Loops (m : ServiceModel) (visited : Member → Prop) (base shapes : List Shape) : Prop :=
  ¬ (base.map (·.name)).Nodup ∧ shapes = base ∨
    (base.map (·.name)).Nodup ∧ ∃ f t walk, visited f ∧ m.shape? f.target = some t ∧
      m.CycleAt (base.map (·.name)) t walk ∧ shapes = base ++ walk

/-- **Copying members fails exactly along cycles**, when the structures around have different
names. -/
theorem copies_failAlong (hresolves : m.Resolves) (hacyclic : m.PartsAcyclic) {α : Type}
    {x : Result α} (hnodup : (base.map (·.name)).Nodup)
    (hshows : ∀ err, x = .error err → ∃ f t, visited f ∧ m.shape? f.target = some t ∧
      m.layout (base.map (·.name)) t = .error err)
    (hfails : ∀ f t err, visited f → m.shape? f.target = some t →
      m.layout (base.map (·.name)) t = .error err → ∃ err', x = .error err') :
    FailsAlong x (m.Loops visited base) where
  shows err herr := by
    obtain ⟨f, t, hf, ht, hlayout⟩ := hshows err herr
    obtain ⟨walk, hwalk, rfl⟩ := cycleAt_of_layout_error hresolves hacyclic
      (Dict.mem_values_of_get? ht) hlayout
    exact ⟨base ++ walk, Or.inr ⟨hnodup, f, t, walk, hf, ht, hwalk, rfl⟩, by rw [List.map_append]⟩
  fails shapes hshapes := by
    rcases hshapes with ⟨hdup, -⟩ | ⟨-, f, t, walk, hf, ht, hwalk, -⟩
    · exact absurd hnodup hdup
    · obtain ⟨err, herr⟩ := hwalk.layout_error hacyclic (Dict.mem_values_of_get? ht)
      exact hfails f t err hf ht herr

/-- **The cycle that is reported** starts with the outermost structure. -/
theorem Loops.isCycle {first : Shape} (h : m.Loops visited base shapes)
    (hbase : base = [first] ∨ ∃ inner, base = [first, inner] ∧ m.Links first inner)
    (hvisited : ∀ f, visited f → ∃ inner, base.getLast? = some inner ∧ f ∈ inner.members) :
    m.IsCycle first shapes := by
  have hstart : base.head? = some first ∧ base.IsChain m.Links := by
    rcases hbase with rfl | ⟨inner, rfl, hlinks⟩
    · exact ⟨rfl, List.isChain_singleton first⟩
    · exact ⟨rfl, List.isChain_pair.mpr hlinks⟩
  rcases h with ⟨hdup, rfl⟩ | ⟨hnodup, f, t, walk, hf, ht, hwalk, rfl⟩
  · rcases hbase with rfl | ⟨inner, rfl, -⟩
    · exact absurd (List.nodup_singleton _) hdup
    · have hname : inner.name = first.name := by
        by_contra hne
        exact hdup (by simpa using fun h => hne h.symm)
      exact ⟨hstart.1, hstart.2, ⟨inner, rfl, by simp [hname]⟩, List.nodup_singleton _⟩
  · obtain ⟨inner, hinner, hmem⟩ := hvisited f hf
    exact hwalk.isCycle rfl hstart.1 hinner hstart.2 hnodup hmem ht

/-! ## Wrappers -/

/-- Where references resolve, a wrapper can be taken off, and leads to what it holds. -/
theorem unwrap_cases (hresolves : m.Resolves) {output : Shape}
    (houtput : output ∈ m.shapes.values) :
    ∃ u, m.unwrap output = .ok u ∧ (u.wrapper = none ∧ u.shape = output ∨
      ∃ wrapper, u.wrapper = some wrapper ∧ m.Links output u.shape) := by
  have hrefs := hresolves.shapes output houtput
  unfold unwrap
  split
  · rename_i f hmembers
    have hstructure : output.kind = .structure [f] := by
      unfold Shape.members at hmembers
      split at hmembers
      · rename_i hk
        rw [hk, hmembers]
      · cases hmembers
    split
    · rw [Shape.references, hstructure] at hrefs
      obtain ⟨inner, hinner⟩ := Option.isSome_iff_exists.mp (hrefs f.target (by simp))
      refine ⟨_, Result.bind_eq_ok_iff.mpr
        ⟨inner, resolve_eq_ok_iff.mpr hinner, rfl⟩, ?_⟩
      split
      · refine Or.inr ⟨f.name, rfl, f, ?_, inner, hinner, ReflTransGen.refl⟩
        rw [hmembers]
        exact List.mem_singleton.mpr rfl
      · exact Or.inl ⟨rfl, rfl⟩
    · exact ⟨_, rfl, Or.inl ⟨rfl, rfl⟩⟩
  · exact ⟨_, rfl, Or.inl ⟨rfl, rfl⟩⟩

/-- An output that is not unwrapped stays. -/
theorem shape_of_unwrap {output : Shape} {u : Unwrapped} (h : m.unwrap output = .ok u)
    (hw : u.wrapper = none) : u.shape = output := by
  unfold unwrap at h
  split at h
  · split at h
    · obtain ⟨inner, -, h⟩ := Result.bind_eq_ok_iff.mp h
      obtain rfl := Result.pure_eq_ok_iff.mp h
      split at hw
      · cases hw
      · rename_i hno
        rw [if_neg hno]
    · cases h
      rfl
  · cases h
    rfl

end ServiceModel

namespace Synthesizer

variable (s : Synthesizer) (r : Resource) (o : Operation)

/-! ## Which members are copied -/

/-- An input member that is filled from a Spec field. -/
def RequestVisits (input : Shape) (f : Member) : Prop :=
  ∃ key field, r.spec.get? key = some field ∧ field.isAttribute = false ∧
    s.inputMember? r o input ((s.requestMapMember r input).map (·.name)) key = some f

/-- A member of the innermost structure that is copied into a field. -/
def AdoptionVisits (target : InboundTarget) (base : List Shape) (f : Member) : Prop :=
  (∃ inner, base.getLast? = some inner ∧ f ∈ inner.members) ∧
    (s.config.attributesMap? r.name).any (·.mapMember == f.name) = false ∧
    (outputDest? r target (s.config.outputName r.name o.name f.name)).isSome = true

/-- The structures that a program for an output begins inside of, outermost first: the output, and
what its wrapper holds. -/
def unwrappedShapes (output : Shape) : Result (List Shape) := do
  let u ← s.model.unwrap output
  return if u.wrapper.isSome then [output, u.shape] else [output]

/-- The structures that the program for an output begins inside of: for a List operation with a
list of resources the output and the element of the list, and none at all when no list stands
out. -/
def adoptedShapes (role : Role) (output : Shape) : Result (Option (List Shape)) := do
  if role = .list then
    match ← s.resourceList r output with
    | .found l => return some [output, l.element]
    | .ambiguous => return none
    | .absent => return some (← s.unwrappedShapes output)
  else return some (← s.unwrappedShapes output)

/-- A cycle that the request for an input comes to. -/
def RequestCycle (role : Role) (input : Shape) (shapes : List Shape) : Prop :=
  ∃ o reference, r.operations.get? role = some o ∧ o.input = some reference ∧
    s.model.shape? reference = some input ∧
    s.model.Loops (s.RequestVisits r o input) [input] shapes

/-- A cycle that taking over an output comes to. -/
def AdoptionCycle (role : Role) (target : InboundTarget) (output : Shape) (shapes : List Shape) :
    Prop :=
  ∃ o reference base, r.operations.get? role = some o ∧ o.output = some reference ∧
    s.model.shape? reference = some output ∧ s.adoptedShapes r role output = .ok (some base) ∧
    s.model.Loops (s.AdoptionVisits r o target base) base shapes

/-! ## One member -/

variable {s r o} {path : List String} {dest source : Accessor} {err : GeneratorError}

theorem copyOf_error_iff {shape : Shape} :
    s.copyOf path dest source shape = .error err ↔ s.model.layout path shape = .error err := by
  unfold copyOf
  rw [Result.bind_eq_error_iff, or_iff_left]
  rintro ⟨l, -, h⟩
  cases h

theorem specTransfer_error_iff {input : Shape} {mapMember : Option String}
    {request spec : Accessor} {key : String} {field : Field} :
    s.specTransfer r o input mapMember request spec key field = .error err ↔
      field.isAttribute = false ∧ ∃ f t, s.inputMember? r o input mapMember key = some f ∧
        s.model.shape? f.target = some t ∧ s.model.layout [input.name] t = .error err := by
  unfold specTransfer
  cases field.isAttribute with
  | true => simp
  | false =>
    cases hf : s.inputMember? r o input mapMember key with
    | none => simp
    | some f =>
      cases ht : s.model.shape? f.target with
      | none => simp [ht]
      | some t => simp [ht, copyOf_error_iff]

theorem memberTransfer_error_iff {target : InboundTarget} {f : Member} :
    s.memberTransfer r o path source target f = .error err ↔
      (s.config.attributesMap? r.name).any (·.mapMember == f.name) = false ∧
        (outputDest? r target (s.config.outputName r.name o.name f.name)).isSome = true ∧
        ∃ t, s.model.shape? f.target = some t ∧ s.model.layout path t = .error err := by
  unfold memberTransfer
  cases ht : s.model.shape? f.target with
  | none => simp
  | some t =>
    cases (s.config.attributesMap? r.name).any (·.mapMember == f.name) with
    | true => simp
    | false =>
      cases hdest : outputDest? r target (s.config.outputName r.name o.name f.name) with
      | none => simp [hdest]
      | some dest => simp [hdest, copyOf_error_iff]

/-! ## Payloads -/

section Payloads

variable (hresolves : s.model.Resolves) (hacyclic : s.model.PartsAcyclic)

include hresolves hacyclic

/-- **The program for an input fails exactly along cycles.** -/
theorem fillInput_failsAlong (input : Shape) (object request : Accessor) :
    FailsAlong (s.fillInput r o input object request)
      (s.model.Loops (s.RequestVisits r o input) [input]) := by
  have hnodup : ([input].map (·.name)).Nodup := List.nodup_singleton _
  unfold fillInput
  refine FailsAlong.bind_pure (ServiceModel.copies_failAlong hresolves hacyclic hnodup
    (fun err herr => ?_) fun f t err hf ht hlayout => ?_) _
  · obtain ⟨⟨key, field⟩, hentry, herr⟩ := Result.exists_of_mapM_eq_error herr
    obtain ⟨hattr, f, t, hf, ht, hlayout⟩ := specTransfer_error_iff.mp herr
    exact ⟨f, t, ⟨key, field, Dict.mem_entries_iff.mp hentry, hattr, hf⟩, ht, hlayout⟩
  · obtain ⟨key, field, hfield, hattr, hf⟩ := hf
    exact Result.exists_mapM_eq_error (Dict.mem_entries_iff.mpr hfield)
      (specTransfer_error_iff.mpr ⟨hattr, f, t, hf, ht, hlayout⟩)

/-- The transfers of the members of a structure fail exactly along cycles. -/
theorem memberTransfers_failsAlong {target : InboundTarget} {base : List Shape} {inner : Shape}
    (hinner : base.getLast? = some inner) (hnodup : (base.map (·.name)).Nodup)
    (source : Accessor) :
    FailsAlong (s.memberTransfers r o (base.map (·.name)) source target inner)
      (s.model.Loops (s.AdoptionVisits r o target base) base) := by
  unfold memberTransfers
  refine FailsAlong.bind_pure (ServiceModel.copies_failAlong hresolves hacyclic hnodup
    (fun err herr => ?_) fun f t err hf ht hlayout => ?_) _
  · obtain ⟨f, hf, herr⟩ := Result.exists_of_mapM_eq_error herr
    obtain ⟨hmap, hdest, t, ht, hlayout⟩ := memberTransfer_error_iff.mp herr
    exact ⟨f, t, ⟨⟨inner, hinner, hf⟩, hmap, hdest⟩, ht, hlayout⟩
  · obtain ⟨⟨inner', hinner', hf⟩, hmap, hdest⟩ := hf
    rw [hinner] at hinner'
    cases hinner'
    exact Result.exists_mapM_eq_error hf
      (memberTransfer_error_iff.mpr ⟨hmap, hdest, t, ht, hlayout⟩)

/-- Entering a second structure and copying its members fails exactly along cycles. -/
theorem enter_failsAlong {α : Type} {target : InboundTarget} (output inner : Shape)
    (source : Accessor) (f : List Transfer → α) :
    FailsAlong (do
        let path ← ServiceModel.enter [output.name] inner.name
        let ts ← s.memberTransfers r o path source target inner
        return f ts)
      (s.model.Loops (s.AdoptionVisits r o target [output, inner]) [output, inner]) := by
  by_cases hname : inner.name = output.name
  · -- the wrapper or the list leads back to the output
    have hdup : ¬ ([output, inner].map (·.name)).Nodup := by simp [hname]
    rw [ServiceModel.enter_of_mem (List.mem_singleton.mpr hname)]
    refine ⟨fun err herr => ?_, fun shapes _ => ⟨_, rfl⟩⟩
    cases herr
    exact ⟨[output, inner], Or.inl ⟨hdup, rfl⟩, rfl⟩
  · have hnodup : ([output, inner].map (·.name)).Nodup := by
      simpa using fun h => hname h.symm
    rw [ServiceModel.enter_of_not_mem (fun h => hname (List.mem_singleton.mp h))]
    have hinner : [output, inner].getLast? = some inner := rfl
    exact (memberTransfers_failsAlong hresolves hacyclic hinner hnodup source).bind_pure f

/-- The program for the members of an output fails exactly along cycles. -/
theorem adoptMembers_failsAlong {output : Shape} {base : List Shape}
    (hbase : s.unwrappedShapes output = .ok base) (response : Accessor) (target : InboundTarget) :
    FailsAlong (s.adoptMembers r o output response target)
      (s.model.Loops (s.AdoptionVisits r o target base) base) := by
  obtain ⟨u, hu, hbase⟩ := Result.bind_eq_ok_iff.mp hbase
  obtain rfl := Result.pure_eq_ok_iff.mp hbase
  unfold adoptMembers
  simp only [hu, bind, Except.bind]
  cases hw : u.wrapper with
  | none =>
    have hnodup : ([output].map (·.name)).Nodup := List.nodup_singleton _
    have hinner : [output].getLast? = some u.shape := by
      rw [ServiceModel.shape_of_unwrap hu hw]
      rfl
    exact (memberTransfers_failsAlong hresolves hacyclic hinner hnodup response).bind_pure _
  | some wrapper =>
    exact enter_failsAlong hresolves hacyclic output u.shape (response.field wrapper)
      (s.program .inbound [])

/-- **The program for an output fails exactly along cycles.** -/
theorem adoptOutput_failsAlong {role : Role} {output : Shape} {adopted : Option (List Shape)}
    (hadopted : s.adoptedShapes r role output = .ok adopted) (response : Accessor)
    (target : InboundTarget) :
    FailsAlong (s.adoptOutput r role o output response target) fun shapes =>
      ∃ base, adopted = some base ∧ s.model.Loops (s.AdoptionVisits r o target base) base shapes := by
  have hmembers {base : List Shape} (hbase : s.unwrappedShapes output = .ok base) :
      FailsAlong (s.adoptMembers r o output response target) fun shapes =>
        ∃ base', some base = some base' ∧
          s.model.Loops (s.AdoptionVisits r o target base') base' shapes :=
    (adoptMembers_failsAlong hresolves hacyclic hbase response target).congr fun shapes => by simp
  unfold adoptedShapes at hadopted
  unfold adoptOutput
  split at hadopted
  · rename_i hrole
    rw [if_pos hrole]
    obtain ⟨chosen, hchosen, hadopted⟩ := Result.bind_eq_ok_iff.mp hadopted
    rw [hchosen]
    cases chosen with
    | found l =>
      obtain rfl := Result.pure_eq_ok_iff.mp hadopted
      exact (enter_failsAlong hresolves hacyclic output l.element (.var onlyElementVar) _).congr
        fun shapes => by simp
    | ambiguous =>
      obtain rfl := Result.pure_eq_ok_iff.mp hadopted
      refine FailsAlong.of_ok rfl ?_
      rintro shapes ⟨base, hbase, -⟩
      cases hbase
    | absent =>
      obtain ⟨base, hbase, hadopted⟩ := Result.bind_eq_ok_iff.mp hadopted
      obtain rfl := Result.pure_eq_ok_iff.mp hadopted
      exact hmembers hbase
  · rename_i hrole
    rw [if_neg hrole]
    obtain ⟨base, hbase, hadopted⟩ := Result.bind_eq_ok_iff.mp hadopted
    obtain rfl := Result.pure_eq_ok_iff.mp hadopted
    exact hmembers hbase

end Payloads

/-! ## What programs begin inside of -/

/-- A program begins inside of one structure, or of another one that it leads to. -/
def IsBase (m : ServiceModel) (first : Shape) (base : List Shape) : Prop :=
  base = [first] ∨ ∃ inner, base = [first, inner] ∧ m.Links first inner

/-- An output leads to the elements of its lists. -/
theorem links_of_listMember {output : Shape} {m : Member} {l : ListMember}
    (hm : m ∈ output.members) (h : s.listMember m = .ok (some l)) :
    s.model.Links output l.element := by
  unfold listMember at h
  cases ht : s.model.shape? m.target with
  | none =>
    rw [ht] at h
    cases h
  | some shape =>
    simp only [ht] at h
    split at h
    · rename_i reference hk
      obtain ⟨e, he, h⟩ := Result.bind_eq_ok_iff.mp h
      have h := Result.pure_eq_ok_iff.mp h
      split at h
      · cases h
        exact ⟨m, hm, shape, ht, ReflTransGen.single
          (.element hk (ServiceModel.resolve_eq_ok_iff.mp he))⟩
      · cases h
    · cases h

/-- Where references resolve, the lists of structures are found, and their elements are linked to
the output. -/
theorem exists_structureLists (hresolves : s.model.Resolves) (output : Shape) :
    ∃ ls, s.structureLists output = .ok ls ∧ ∀ l ∈ ls, s.model.Links output l.element := by
  have hmember : ∀ m ∈ output.members, ∃ x, s.listMember m = .ok x := by
    intro m _
    unfold listMember
    cases ht : s.model.shape? m.target with
    | none => exact ⟨none, rfl⟩
    | some shape =>
      have hrefs := hresolves.shapes shape (Dict.mem_values_of_get? ht)
      unfold Shape.references at hrefs
      cases hk : shape.kind with
      | list reference =>
        rw [hk] at hrefs
        obtain ⟨e, he⟩ := Option.isSome_iff_exists.mp (hrefs reference (by simp))
        simp only [hk]
        exact ⟨_, Result.bind_eq_ok_iff.mpr ⟨e, ServiceModel.resolve_eq_ok_iff.mpr he, rfl⟩⟩
      | _ => simp [hk]
  obtain ⟨found, hfound⟩ := Result.exists_mapM_eq_ok hmember
  refine ⟨found.filterMap id, Result.bind_eq_ok_iff.mpr ⟨found, hfound, rfl⟩, fun l hl => ?_⟩
  obtain ⟨x, hx, rfl⟩ := List.mem_filterMap.mp hl
  obtain ⟨m, hm, hlist⟩ := Result.exists_of_mem_mapM hfound hx
  exact links_of_listMember hm hlist

section Bases

variable (hresolves : s.model.Resolves) {output : Shape} (houtput : output ∈ s.model.shapes.values)

include hresolves houtput

theorem exists_unwrappedShapes :
    ∃ base, s.unwrappedShapes output = .ok base ∧ IsBase s.model output base := by
  obtain ⟨u, hu, hcases⟩ := ServiceModel.unwrap_cases hresolves houtput
  refine ⟨_, Result.bind_eq_ok_iff.mpr ⟨u, hu, rfl⟩, ?_⟩
  rcases hcases with ⟨hw, -⟩ | ⟨wrapper, hw, hlinks⟩
  · rw [hw]
    exact Or.inl rfl
  · rw [hw]
    exact Or.inr ⟨u.shape, rfl, hlinks⟩

theorem exists_adoptedShapes {created : Option String} (hcreated : s.createdShape r = .ok created)
    (role : Role) :
    ∃ adopted, s.adoptedShapes r role output = .ok adopted ∧
      ∀ base, adopted = some base → IsBase s.model output base := by
  obtain ⟨base, hbase, hisBase⟩ := exists_unwrappedShapes hresolves houtput
  obtain ⟨ls, hls, hlinks⟩ := exists_structureLists hresolves output
  have hunwrapped : ∀ base', some base = some base' → IsBase s.model output base' := by
    rintro _ ⟨⟩
    exact hisBase
  unfold adoptedShapes
  by_cases hrole : role = .list
  · rw [if_pos hrole, resourceList_eq hls hcreated]
    cases hchoice : choice r created ls with
    | found l =>
      refine ⟨some [output, l.element], rfl, ?_⟩
      rintro _ ⟨⟩
      have hl := Selects.mem (choice_eq_found_iff.mp hchoice)
      exact Or.inr ⟨l.element, rfl, hlinks l hl⟩
    | ambiguous =>
      refine ⟨none, rfl, ?_⟩
      rintro _ ⟨⟩
    | absent =>
      refine ⟨some base, ?_, hunwrapped⟩
      show (s.unwrappedShapes output >>= fun base => pure (some base)) = _
      rw [hbase]
      rfl
  · rw [if_neg hrole]
    exact ⟨some base, Result.bind_eq_ok_iff.mpr ⟨base, hbase, rfl⟩, hunwrapped⟩

end Bases

/-! ## Whole programs -/

section Programs

theorem requestCycle_iff {role : Role} {reference : String} {input input' : Shape}
    {shapes : List Shape} (ho : r.operations.get? role = some o) (href : o.input = some reference)
    (hinput : s.model.shape? reference = some input) :
    s.RequestCycle r role input' shapes ↔
      input = input' ∧ s.model.Loops (s.RequestVisits r o input) [input] shapes := by
  constructor
  · rintro ⟨o', reference', ho', href', hinput', h⟩
    obtain rfl := Option.some.inj (ho.symm.trans ho')
    obtain rfl := Option.some.inj (href.symm.trans href')
    obtain rfl := Option.some.inj (hinput.symm.trans hinput')
    exact ⟨rfl, h⟩
  · rintro ⟨rfl, h⟩
    exact ⟨o, reference, ho, href, hinput, h⟩

theorem adoptionCycle_iff {role : Role} {target : InboundTarget} {reference : String}
    {output output' : Shape} {shapes : List Shape} (ho : r.operations.get? role = some o)
    (href : o.output = some reference) (houtput : s.model.shape? reference = some output) :
    s.AdoptionCycle r role target output' shapes ↔
      output = output' ∧ ∃ base, s.adoptedShapes r role output = .ok (some base) ∧
        s.model.Loops (s.AdoptionVisits r o target base) base shapes := by
  constructor
  · rintro ⟨o', reference', base, ho', href', houtput', hbase, h⟩
    obtain rfl := Option.some.inj (ho.symm.trans ho')
    obtain rfl := Option.some.inj (href.symm.trans href')
    obtain rfl := Option.some.inj (houtput.symm.trans houtput')
    exact ⟨rfl, base, hbase, h⟩
  · rintro ⟨rfl, base, hbase, h⟩
    exact ⟨o, reference, base, ho, href, houtput, hbase, h⟩

variable (hresolves : s.model.Resolves) (hacyclic : s.model.PartsAcyclic) {role : Role}
  (hoperation : ∀ o, r.operations.get? role = some o → o ∈ s.model.operations.values)

include hresolves hacyclic hoperation

theorem fillRequest_failsAlong (object request : String) :
    FailsAlong (s.fillRequest r role object request) fun shapes =>
      ∃ input, s.RequestCycle r role input shapes := by
  unfold fillRequest payload
  cases ho : r.operations.get? role with
  | none =>
    refine FailsAlong.of_ok rfl ?_
    rintro shapes ⟨input, o, reference, ho', -⟩
    rw [ho] at ho'
    cases ho'
  | some o =>
    cases href : o.input with
    | none =>
      refine FailsAlong.of_ok (by simp only [href]; rfl) ?_
      rintro shapes ⟨input, o', reference, ho', href', -⟩
      rw [ho] at ho'
      cases ho'
      rw [href] at href'
      cases href'
    | some reference =>
      have hsome := hresolves.payloads o (hoperation o ho) reference (by simp [href])
      obtain ⟨input, hinput⟩ := Option.isSome_iff_exists.mp hsome
      have hresolve : s.model.resolve reference o.name = .ok input :=
        ServiceModel.resolve_eq_ok_iff.mpr hinput
      simp only [href, hresolve]
      refine (fillInput_failsAlong hresolves hacyclic input (.parse object) (.parse request)).congr
        fun shapes => ?_
      simp only [requestCycle_iff ho href hinput, exists_eq_left']

theorem adoptResponse_failsAlong {created : Option String}
    (hcreated : s.createdShape r = .ok created) (response : String) (target : InboundTarget) :
    FailsAlong (s.adoptResponse r role response target) fun shapes =>
      ∃ output, s.AdoptionCycle r role target output shapes := by
  cases ho : r.operations.get? role with
  | none =>
    refine FailsAlong.of_ok (by rw [adoptResponse, ho]; rfl) ?_
    rintro shapes ⟨output, o, reference, base, ho', -⟩
    rw [ho] at ho'
    cases ho'
  | some o =>
    cases href : o.output with
    | none =>
      refine FailsAlong.of_ok (by rw [adoptResponse, ho]; simp only [payload, href]; rfl) ?_
      rintro shapes ⟨output, o', reference, base, ho', href', -⟩
      rw [ho] at ho'
      cases ho'
      rw [href] at href'
      cases href'
    | some reference =>
      have hsome := hresolves.payloads o (hoperation o ho) reference (by simp [href])
      obtain ⟨output, houtput⟩ := Option.isSome_iff_exists.mp hsome
      obtain ⟨adopted, hadopted, -⟩ := exists_adoptedShapes hresolves
        (Dict.mem_values_of_get? houtput) hcreated role
      rw [adoptResponse_eq ho href houtput]
      refine (adoptOutput_failsAlong hresolves hacyclic hadopted (.parse response) target).congr
        fun shapes => ?_
      simp only [adoptionCycle_iff ho href houtput, exists_eq_left', hadopted, Except.ok.injEq]

end Programs

theorem RequestCycle.isCycle {role : Role} {input : Shape} {shapes : List Shape}
    (h : s.RequestCycle r role input shapes) : s.model.IsCycle input shapes := by
  obtain ⟨o, reference, -, -, -, h⟩ := h
  refine h.isCycle (Or.inl rfl) ?_
  rintro f ⟨key, field, -, -, hf⟩
  exact ⟨input, rfl, List.mem_of_find?_eq_some hf⟩

theorem AdoptionCycle.isCycle (hresolves : s.model.Resolves) {created : Option String}
    (hcreated : s.createdShape r = .ok created) {role : Role} {target : InboundTarget}
    {output : Shape} {shapes : List Shape} (h : s.AdoptionCycle r role target output shapes) :
    s.model.IsCycle output shapes := by
  obtain ⟨o, reference, base, -, -, houtput, hbase, h⟩ := h
  obtain ⟨adopted, hadopted, hisBase⟩ := exists_adoptedShapes hresolves
    (Dict.mem_values_of_get? houtput) hcreated role
  rw [hbase] at hadopted
  cases hadopted
  exact h.isCycle (hisBase base rfl) fun f hf => hf.1

end Synthesizer

namespace OperationIndex

/-- The operations of an index are operations of the model. -/
theorem mem_values_of_get? [PatternEngine] {m : ServiceModel} {c : Config} {classifier : Classifier}
    {index : OperationIndex} (h : ofModel m c classifier = .ok index) {role : Role}
    {resource : String} {o : Operation} (ho : index.get? role resource = some o) :
    o ∈ m.operations.values := by
  obtain ⟨overrides, -, h⟩ := Result.bind_eq_ok_iff.mp h
  obtain rfl := Result.pure_eq_ok_iff.mp h
  obtain ⟨entry, hentry, rfl⟩ := Option.map_eq_some_iff.mp ho
  have hmem := List.mem_of_mem_filter (List.mem_of_getLast? hentry)
  obtain ⟨o, hvalues, hclassify⟩ := List.mem_filterMap.mp hmem
  unfold classify at hclassify
  split at hclassify
  · cases hclassify
  · obtain ⟨⟨role', resource'⟩, -, rfl⟩ := Option.map_eq_some_iff.mp hclassify
    exact hvalues

end OperationIndex

theorem ResourceOperations.get?_ofIndex {index : OperationIndex} {name : String} {role : Role}
    {o : Operation} (h : (ofIndex index name).get? role = some o) :
    index.get? role name = some o := by
  cases role with
  | createBatch => cases h
  | _ => exact h

/-- **Synthesis ends, and fails exactly on cycles.** In a model where every reference resolves and
no list or map contains itself without a structure in between, types and layouts satisfy the
equations of their recursion, which goes down to smaller calls only. For every resource the
programs of every role fail exactly when the members that they copy lead to a structure that the
walk is inside of; the error names the structures along such a walk. -/
theorem Schema.synthesis_fails_along_cycles [PatternEngine] {model : ServiceModel} {config : Config}
    {classifier : Classifier} {schema : Schema}
    (hschema : build model config .standard classifier = .ok schema) {rs : List Resource}
    (hrs : schema.resources = .ok rs) {r : Resource} (hr : r ∈ rs) (hresolves : model.Resolves)
    (hacyclic : model.PartsAcyclic) :
    (WellFounded (fun t s => model.TypePart s t) ∧
      ∀ s, model.shapeType s = model.typeStep model.shapeType s) ∧
    (WellFounded (fun b a => model.Calls a b) ∧
      ∀ path, ∀ s ∈ model.shapes.values,
        model.layout path s = model.layoutStep model.layout path s) ∧
    ∀ role,
      (∀ object request,
        FailsAlong (schema.synthesizer.fillRequest r role object request) fun shapes =>
          ∃ input, schema.synthesizer.RequestCycle r role input shapes) ∧
      (∀ response target,
        FailsAlong (schema.synthesizer.adoptResponse r role response target) fun shapes =>
          ∃ output, schema.synthesizer.AdoptionCycle r role target output shapes) ∧
      (∀ input shapes, schema.synthesizer.RequestCycle r role input shapes →
        model.IsCycle input shapes) ∧
      ∀ target output shapes, schema.synthesizer.AdoptionCycle r role target output shapes →
        model.IsCycle output shapes := by
  obtain ⟨index, hindex, hschema⟩ := Result.bind_eq_ok_iff.mp hschema
  obtain rfl := Result.pure_eq_ok_iff.mp hschema
  obtain ⟨name, -, hderive⟩ := derive_of_mem_resources hrs hr
  obtain ⟨-, hoperations, create, -, -, outputs, hcreate, -, -, houtputs, -⟩ :=
    DerivationScope.derive_cases keepsRaw_standard hderive
  obtain ⟨created, hcreated⟩ := Synthesizer.exists_createdShape
    (s := synthesizer ⟨model, config, .standard, index⟩) rfl hcreate houtputs
  have hmodel : (synthesizer ⟨model, config, .standard, index⟩).model.Resolves := hresolves
  have hparts : (synthesizer ⟨model, config, .standard, index⟩).model.PartsAcyclic := hacyclic
  have hoperation (role : Role) (o : Operation) (ho : r.operations.get? role = some o) :
      o ∈ model.operations.values := by
    rw [hoperations] at ho
    exact OperationIndex.mem_values_of_get? hindex (ResourceOperations.get?_ofIndex ho)
  refine ⟨⟨ServiceModel.wellFounded_typePart hacyclic, ServiceModel.shapeType_eq hacyclic⟩,
    ⟨ServiceModel.wellFounded_calls hacyclic, fun path s hs =>
      ServiceModel.layout_eq hacyclic path hs⟩, fun role => ⟨?_, ?_, ?_, ?_⟩⟩
  · exact Synthesizer.fillRequest_failsAlong hmodel hparts (hoperation role)
  · exact Synthesizer.adoptResponse_failsAlong hmodel hparts (hoperation role) hcreated
  · exact fun input shapes h => h.isCycle
  · exact fun target output shapes h => h.isCycle hmodel hcreated

/-- The operation that creates a tree. -/
def createTree : Operation where
  name := "CreateTree"
  input := some "CreateTreeRequest"
  output := some "CreateTreeResponse"

/-- What creating a tree takes. -/
def createTreeRequest : Shape where
  name := "CreateTreeRequest"
  kind := .structure [{ name := "root", target := "Node" }]

/-- A service of trees: a node has its children in a list. -/
def treeModel : ServiceModel :=
  (([{ name := "Text", kind := .scalar .string }, createTreeRequest,
    { name := "Node", kind := .structure
        [{ name := "label", target := "Text" }, { name := "children", target := "Nodes" }] },
    { name := "Nodes", kind := .list "Node" },
    { name := "CreateTreeResponse", kind := .structure
        [{ name := "treeId", target := "Text" }, { name := "root", target := "Node" }] }].foldl
      ServiceModel.addShape (.new "Trees")).addOperation createTree).finish

/-- The schema of the service. -/
def treeSchema : Schema where
  model := treeModel
  config := {}
  namer := .standard
  index := ⟨[⟨.create, "Tree", createTree⟩]⟩

/-- The resource of the service. -/
def treeResource : Resource where
  names := Naming.standardNames "Tree"
  plural := "Trees"
  operations := { create := some createTree }
  spec := .ofList
    [("root", ⟨Naming.standardNames "root", .structure "Node", some "Node", .member "root"⟩)]
  status := .ofList
    [("treeId", ⟨Naming.standardNames "treeId", .string, some "Text", .member "treeId"⟩)]

theorem resources_treeSchema : treeSchema.resources = .ok [treeResource] :=
  Schema.resources_of_single (show treeSchema.resourceNames = ["Tree"] from rfl) rfl

/-- The children of a node lead back to it. -/
theorem synthesis_fails_along_children :
    ∃ shapes, treeModel.IsCycle createTreeRequest shapes ∧
      shapes.map (·.name) = ["CreateTreeRequest", "Node", "Node"] ∧
      treeSchema.synthesizer.fillRequest treeResource .create "ko" "res" =
        .error (.shapeCycle (shapes.map (·.name))) := by
  have hresolves : treeModel.Resolves := ⟨by decide, by decide⟩
  have hacyclic : treeModel.PartsAcyclic :=
    ServiceModel.partsAcyclic_of_size (fun s => if s.isStructure then 0 else 1) (by decide)
  have hbuild : Schema.build treeModel {} .standard (.byConvention .standard) = .ok treeSchema :=
    rfl
  have hfails : treeSchema.synthesizer.fillRequest treeResource .create "ko" "res" =
      .error (.shapeCycle ["CreateTreeRequest", "Node", "Node"]) := rfl
  obtain ⟨-, -, hroles⟩ := Schema.synthesis_fails_along_cycles hbuild resources_treeSchema
    List.mem_cons_self hresolves hacyclic
  obtain ⟨hrequest, -, hcycle, -⟩ := hroles .create
  obtain ⟨shapes, ⟨input, h⟩, heq⟩ := (hrequest "ko" "res").shows _ hfails
  have hinput : input = createTreeRequest := by
    obtain ⟨o, reference, ho, href, hinput, -⟩ := h
    cases ho
    cases href
    cases hinput
    rfl
  have hnames : ["CreateTreeRequest", "Node", "Node"] = shapes.map (·.name) :=
    GeneratorError.shapeCycle.inj heq
  exact ⟨shapes, hinput ▸ hcycle input shapes h, hnames.symm, hnames ▸ hfails⟩

end ResourceGen
