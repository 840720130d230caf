import ResourceGen.Proofs.Likeness
import ResourceGen.Proofs.Partition

/-!
# Resources of models that agree

Operations are indexed by their names. When a service has other operations of the same names, the
index holds these in their places (`OperationIndex.ofModel_map`), and so do the resources. The
rest of a resource is what its Create operation takes and gives; where the models agree on that,
the resource is the same (`DerivationScope.eq_of_derive`).

Results:
* `OperationIndex.ofModel_map`, `ResourceOperations.ofIndex_map`: operations in their places.
* `DerivationScope.eq_of_derive`, `Schema.eq_of_resources`: derived resources.
-/

namespace ResourceGen

/-! ## Operations -/

/-- The operations, each changed. -/
def ResourceOperations.map (f : Operation → Operation) (x : ResourceOperations) :
    ResourceOperations where
  create := x.create.map f
  readOne := x.readOne.map f
  readMany := x.readMany.map f
  update := x.update.map f
  delete := x.delete.map f
  getAttributes := x.getAttributes.map f
  setAttributes := x.setAttributes.map f

theorem ResourceOperations.get?_map (f : Operation → Operation) (x : ResourceOperations)
    (role : Role) : (x.map f).get? role = (x.get? role).map f := by
  cases role <;> rfl

/-- The resource with its operations changed. -/
def Resource.mapOperations (f : Operation → Operation) (r : Resource) : Resource :=
  r.withOperations (r.operations.map f)

namespace OperationIndex

variable {f : Operation → Operation}

/-- The index with its operations changed. -/
def map (f : Operation → Operation) (x : OperationIndex) : OperationIndex :=
  ⟨x.entries.map fun e => { e with operation := f e.operation }⟩

theorem get?_map (x : OperationIndex) (role : Role) (resource : String) :
    (x.map f).get? role resource = (x.get? role resource).map f := by
  have hfilter : (x.map f).entries.filter (isFor role resource) =
      (x.entries.filter (isFor role resource)).map fun e =>
        { e with operation := f e.operation } := List.filter_map
  rw [get?, get?, hfilter, List.getLast?_map, Option.map_map, Option.map_map]
  rfl

theorem resources_map (x : OperationIndex) (role : Role) :
    (x.map f).resources role = x.resources role := by
  unfold resources map
  rw [List.filter_map, List.map_map]
  rfl

theorem classify_map (hname : ∀ o, (f o).name = o.name) (c : Config) (classifier : Classifier)
    (o : Operation) :
    classify c classifier (f o) =
      (classify c classifier o).map fun e => { e with operation := f e.operation } := by
  unfold classify
  rw [hname]
  split
  · rfl
  · rw [Option.map_map]
    rfl

/-- **Operations are indexed by their names.** -/
theorem ofModel_map [PatternEngine] {m m' : ServiceModel} {c : Config} {classifier : Classifier}
    {x : OperationIndex} (hname : ∀ o, (f o).name = o.name)
    (hvalues : m'.operations.values = m.operations.values.map f)
    (hx : ofModel m c classifier = .ok x) : ofModel m' c classifier = .ok (x.map f) := by
  obtain ⟨overrides, hoverrides, hx⟩ := Result.bind_eq_ok_iff.mp hx
  obtain rfl := Result.pure_eq_ok_iff.mp hx
  refine Result.bind_eq_ok_iff.mpr ⟨overrides, hoverrides, Result.pure_eq_ok_iff.mpr ?_⟩
  rw [map, hvalues, List.filterMap_map, List.map_filterMap]
  exact congrArg mk (List.filterMap_congr fun o _ => classify_map hname c _ o)

end OperationIndex

theorem ResourceOperations.ofIndex_map (f : Operation → Operation) (x : OperationIndex)
    (resource : String) : ofIndex (x.map f) resource = (ofIndex x resource).map f := by
  unfold ofIndex map
  simp only [OperationIndex.get?_map]

/-! ## Fields -/

theorem TypeResolver.eq_of_fieldType {types : TypeResolver} {m : ServiceModel} {name : String}
    (h : types.model.AgreesBeside name m) {s s' : Shape} (hs : name ∉ s.references)
    (hlike : s.Like s') {side : Side} {t t' : Option FieldType}
    (ht : types.fieldType side s = .ok t) (ht' : (types.withModel m).fieldType side s' = .ok t') :
    t' = t := by
  obtain ⟨type, htype, ht⟩ := Result.bind_eq_ok_iff.mp ht
  obtain ⟨type', htype', ht'⟩ := Result.bind_eq_ok_iff.mp ht'
  cases h.eq_of_shapeType hs hlike htype htype'
  exact Except.ok.inj (ht'.symm.trans ht)

namespace DerivationScope

variable {d : DerivationScope} {m : ServiceModel} {name resource : String}

/-- The scope with its names and its configuration, for another service. -/
def withModel (d : DerivationScope) (m : ServiceModel) : DerivationScope :=
  { d with model := m, types := d.types.withModel m }

section Fields

variable (h : d.model.AgreesBeside name m) (htypes : d.types.model = d.model)

include h htypes

theorem eq_of_memberField {key member : String} {s s' : Shape} (hs : name ∉ s.references)
    (hlike : s.Like s') {g g' : Option Field} (hg : d.memberField key member s = .ok g)
    (hg' : (d.withModel m).memberField key member s' = .ok g') : g' = g := by
  obtain ⟨t, ht, rfl⟩ := memberField_eq_ok_iff.mp hg
  obtain ⟨t', ht', rfl⟩ := memberField_eq_ok_iff.mp hg'
  cases TypeResolver.eq_of_fieldType (htypes ▸ h) hs hlike ht ht'
  rw [hlike.name]
  rfl

theorem eq_of_inputField {create : String} {mapMember : Option String} {input input' : Shape}
    {f : Member} (hne : f.target ≠ name) {g g' : Option Field}
    (hg : d.inputField resource create mapMember input f = .ok g)
    (hg' : (d.withModel m).inputField resource create mapMember input' f = .ok g') : g' = g := by
  obtain ⟨s, hs, hg⟩ := Result.bind_eq_ok_iff.mp hg
  obtain ⟨s', hs', hg'⟩ := Result.bind_eq_ok_iff.mp hg'
  have hs := ServiceModel.resolve_eq_ok_iff.mp hs
  have hlike := h.like hne hs (ServiceModel.resolve_eq_ok_iff.mp hs')
  split at hg
  · rename_i hmap
    rw [if_pos hmap] at hg'
    exact Except.ok.inj (hg'.symm.trans hg)
  · rename_i hmap
    rw [if_neg hmap] at hg'
    exact eq_of_memberField h htypes (h.unreferenced s (Dict.mem_values_of_get? hs)) hlike hg hg'

theorem eq_of_outputPart {create : String} {mapMember : Option String} {spec : Dict Field}
    {output output' : Shape} {f : Member} (hne : f.target ≠ name) {part part' : OutputPart}
    (hpart : d.outputPart resource create mapMember spec output f = .ok part)
    (hpart' : (d.withModel m).outputPart resource create mapMember spec output' f =
      .ok part') : part' = part := by
  obtain ⟨s, hs, hpart⟩ := Result.bind_eq_ok_iff.mp hpart
  obtain ⟨s', hs', hpart'⟩ := Result.bind_eq_ok_iff.mp hpart'
  have hs := ServiceModel.resolve_eq_ok_iff.mp hs
  have hlike := h.like hne hs (ServiceModel.resolve_eq_ok_iff.mp hs')
  have hconfig : (d.withModel m).config = d.config := rfl
  simp only at hpart
  simp only [hconfig] at hpart'
  split at hpart
  · rename_i hfield
    rw [if_pos hfield] at hpart'
    exact Except.ok.inj (hpart'.symm.trans hpart)
  · rename_i hfield
    rw [if_neg hfield] at hpart'
    split at hpart
    · rename_i harn
      rw [if_pos harn] at hpart'
      exact Except.ok.inj (hpart'.symm.trans hpart)
    · rename_i harn
      rw [if_neg harn] at hpart'
      obtain ⟨g, hg, hpart⟩ := Result.bind_eq_ok_iff.mp hpart
      obtain ⟨g', hg', hpart'⟩ := Result.bind_eq_ok_iff.mp hpart'
      cases eq_of_memberField h htypes (h.unreferenced s (Dict.mem_values_of_get? hs)) hlike hg hg'
      exact Except.ok.inj (hpart'.symm.trans hpart)

theorem eq_of_inputFields {create create' : Operation} (hname : create'.name = create.name)
    (hinput : create'.input = create.input) (hne : create.input ≠ some name)
    {mapMember : Option String} {fs fs' : List Field}
    (hfs : d.inputFields resource create mapMember = .ok fs)
    (hfs' : (d.withModel m).inputFields resource create' mapMember = .ok fs') : fs' = fs := by
  unfold inputFields at hfs hfs'
  rw [hinput, hname] at hfs'
  cases href : create.input with
  | none => rw [href] at hfs; cases hfs
  | some reference =>
    rw [href] at hne hfs hfs'
    have hne : reference ≠ name := fun heq => hne (congrArg some heq)
    obtain ⟨s, hs, hfs⟩ := Result.bind_eq_ok_iff.mp hfs
    obtain ⟨s', hs', hfs'⟩ := Result.bind_eq_ok_iff.mp hfs'
    have hs := ServiceModel.resolve_eq_ok_iff.mp hs
    have hlike := h.like hne hs (ServiceModel.resolve_eq_ok_iff.mp hs')
    obtain ⟨gs, hgs, hfs⟩ := Result.bind_eq_ok_iff.mp hfs
    obtain ⟨gs', hgs', hfs'⟩ := Result.bind_eq_ok_iff.mp hfs'
    rw [hlike.members] at hgs'
    have hrefs := h.unreferenced s (Dict.mem_values_of_get? hs)
    have heq : gs' = gs := Result.eq_of_mapM hgs hgs' fun g hg o o' ho ho' =>
      eq_of_inputField h htypes (Shape.target_ne hrefs hg) ho ho'
    rw [heq] at hfs'
    exact Except.ok.inj (hfs'.symm.trans hfs)

theorem eq_of_outputParts {create create' : Operation} (hname : create'.name = create.name)
    (houtputs : ∀ ms ms', d.createdMembers create = .ok ms →
      (d.withModel m).createdMembers create' = .ok ms' → ms' = ms ∧ ∀ g ∈ ms, g.target ≠ name)
    {mapMember : Option String} {spec : Dict Field} {parts parts' : List OutputPart}
    (hparts : d.outputParts resource create mapMember spec = .ok parts)
    (hparts' : (d.withModel m).outputParts resource create' mapMember spec = .ok parts') :
    parts' = parts := by
  obtain ⟨ms, output, hms, hparts⟩ := outputParts_eq_mapM hparts
  obtain ⟨ms', output', hms', hparts'⟩ := outputParts_eq_mapM hparts'
  obtain ⟨rfl, htargets⟩ := houtputs ms ms' hms hms'
  rw [hname] at hparts'
  exact Result.eq_of_mapM hparts hparts' fun g hg part part' hp hp' =>
    eq_of_outputPart h htypes (htargets g hg) hp hp'

end Fields

/-! ## Resources -/

/-- Entering an output member does not look at the operations. -/
theorem addOutputPart_withOperations (create : String) (r : Resource) (x : ResourceOperations)
    (part : OutputPart) :
    addOutputPart create (r.withOperations x) part =
      (addOutputPart create r part).withOperations x := by
  cases part with
  | nothing => rfl
  | arn member => rfl
  | field f =>
    show (r.withOperations x).addStatusField f = (r.addStatusField f).withOperations x
    unfold Resource.addStatusField
    split <;> rfl

theorem addStatusKey_withOperations (r : Resource) (x : ResourceOperations) (key : String) :
    d.addStatusKey (r.withOperations x) key = (d.addStatusKey r key).withOperations x := by
  have hfree : ((r.withOperations x).spec.contains key ||
      (r.withOperations x).status.contains key) =
        (r.spec.contains key || r.status.contains key) := rfl
  unfold addStatusKey
  rw [hfree]
  split
  · rfl
  · exact addOutputPart_withOperations "" r x (.field (d.attributeField key))

theorem withRoutes_withOperations (r : Resource) (x : ResourceOperations) :
    d.withRoutes resource (r.withOperations x) = (d.withRoutes resource r).withOperations x := by
  unfold withRoutes
  cases d.config.attributesMap? resource with
  | none => rfl
  | some a =>
    have hkeys : (AttributeRoutes.ofConfig a).status.foldl d.addStatusKey (r.withOperations x) =
        ((AttributeRoutes.ofConfig a).status.foldl d.addStatusKey r).withOperations x :=
      List.foldl_hom (·.withOperations x) fun b key => addStatusKey_withOperations b x key
    simp only [addRoutes, hkeys]
    cases (AttributeRoutes.ofConfig a).primaryIdentifier <;> rfl

variable {f : Operation → Operation} {index : OperationIndex} {r r' : Resource}

/-- **Where the models agree on what Create takes and gives, they have the same resource.** -/
theorem eq_of_derive (h : d.model.AgreesBeside name m) (htypes : d.types.model = d.model)
    (hname : ∀ o, (f o).name = o.name) (hinput : ∀ o, (f o).input = o.input)
    (hcreate : ∀ create, index.get? .create resource = some create →
      create.input ≠ some name ∧ ∀ ms ms', d.createdMembers create = .ok ms →
        (d.withModel m).createdMembers (f create) = .ok ms' →
        ms' = ms ∧ ∀ g ∈ ms, g.target ≠ name)
    (hr : d.derive index resource = .ok r)
    (hr' : (d.withModel m).derive (index.map f) resource = .ok r') :
    r' = r.mapOperations f := by
  obtain ⟨create, fs, parts, hc, hfs, hparts, rfl⟩ := derive_steps hr
  obtain ⟨create', fs', parts', hc', hfs', hparts', rfl⟩ := derive_steps hr'
  rw [ResourceOperations.ofIndex_map] at hc'
  obtain ⟨_, hget, rfl⟩ := Option.map_eq_some_iff.mp hc'
  cases hc.symm.trans hget
  obtain ⟨hne, houtputs⟩ := hcreate create hc
  cases eq_of_inputFields h htypes (hname create) (hinput create) hne hfs hfs'
  have hspec : (d.withModel m).withSpec resource (index.map f) fs =
      (d.withSpec resource index fs).withOperations (.ofIndex (index.map f) resource) := by
    unfold withSpec
    rw [Resource.foldl_addSpecField, Resource.foldl_addSpecField]
    rfl
  rw [hspec] at hparts' ⊢
  cases eq_of_outputParts h htypes (hname create) houtputs hparts hparts'
  have hoperations : (d.withRoutes resource
      (parts.foldl (addOutputPart create.name) (d.withSpec resource index fs))).operations =
        .ofIndex index resource := by
    have hparts := Resource.extends_foldl (extends_addOutputPart create.name) parts
      (d.withSpec resource index fs)
    rw [(extends_withRoutes _).operations, hparts.operations, withSpec_eq]
    rfl
  have hfold : parts.foldl (addOutputPart create.name)
      ((d.withSpec resource index fs).withOperations (.ofIndex (index.map f) resource)) =
        (parts.foldl (addOutputPart create.name) (d.withSpec resource index fs)).withOperations
          (.ofIndex (index.map f) resource) :=
    List.foldl_hom (Resource.withOperations · (.ofIndex (index.map f) resource))
      fun b part => addOutputPart_withOperations create.name b _ part
  rw [Resource.mapOperations, hoperations, ← ResourceOperations.ofIndex_map, hname, hfold]
  exact withRoutes_withOperations (d := d) _ _

end DerivationScope

namespace Schema

variable (schema : Schema) (m : ServiceModel) (f : Operation → Operation)

/-- The schema of another service, with other operations of the same names. -/
def mapOperations : Schema := ⟨m, schema.config, schema.namer, schema.index.map f⟩

theorem resourceNames_mapOperations :
    (schema.mapOperations m f).resourceNames = schema.resourceNames := by
  unfold resourceNames mapOperations
  rw [OperationIndex.resources_map]

theorem types_mapOperations :
    (schema.mapOperations m f).types = schema.types.withModel m := by
  unfold types kinds
  rw [resourceNames_mapOperations]
  rfl

theorem derivation_mapOperations :
    (schema.mapOperations m f).derivation = schema.derivation.withModel m := by
  unfold derivation
  rw [types_mapOperations]
  rfl

theorem synthesizer_mapOperations :
    (schema.mapOperations m f).synthesizer = schema.synthesizer.withModel m := by
  unfold synthesizer
  rw [types_mapOperations]
  rfl

variable {schema m f}

/-- **Where the models agree on what the Create operations take and give**, they have the same
resources, each with its operations in their places. -/
theorem eq_of_resources {name : String} (h : schema.model.AgreesBeside name m)
    (hname : ∀ o, (f o).name = o.name) (hinput : ∀ o, (f o).input = o.input)
    (hcreate : ∀ resource create, schema.index.get? .create resource = some create →
      create.input ≠ some name ∧ ∀ ms ms', schema.derivation.createdMembers create = .ok ms →
        (schema.derivation.withModel m).createdMembers (f create) = .ok ms' →
        ms' = ms ∧ ∀ g ∈ ms, g.target ≠ name)
    {rs rs' : List Resource} (hrs : schema.resources = .ok rs)
    (hrs' : (schema.mapOperations m f).resources = .ok rs') : rs' = rs.map (.mapOperations f) := by
  unfold resources at hrs hrs'
  rw [resourceNames_mapOperations, derivation_mapOperations] at hrs'
  obtain ⟨ds, hds, hrs⟩ := Result.bind_eq_ok_iff.mp hrs
  obtain ⟨ds', hds', hrs'⟩ := Result.bind_eq_ok_iff.mp hrs'
  obtain rfl := Result.pure_eq_ok_iff.mp hrs
  obtain rfl := Result.pure_eq_ok_iff.mp hrs'
  have hmap : ds' = ds.map (.mapOperations f) :=
    Result.map_of_mapM hds hds' fun resource _ r r' hr hr' =>
      DerivationScope.eq_of_derive h rfl hname hinput (hcreate resource) hr hr'
  rw [hmap, sortByKind, sortByKind]
  -- changing the operations of a resource leaves its kind
  have hkind (r : Resource) : (r.mapOperations f).kind = r.kind := rfl
  exact (List.map_mergeSort fun a _ b _ => by rw [hkind, hkind]).symm

end Schema

end ResourceGen
