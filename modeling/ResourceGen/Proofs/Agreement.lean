import ResourceGen.Proofs.Descriptions
import ResourceGen.Proofs.Result

/-!
# Both descriptions give one model

An API description and a Smithy model are read by programs of their own. If the Smithy model
describes the service of the API description, both programs give the same service model: every
operation and every shape is read the same, the order in which they are added does not matter, and
the flags that depend on the whole graph are derived from the same graph.

Results:
* `operation_of_same`, `toShape?_of_same`: an operation and a shape are read the same.
* `Describes.operations`, `Describes.shapes`: so are all operations and all shapes.
* `ServiceModel.assembled_congr`: a model does not depend on the order of its parts.
* `toService_agrees`: both descriptions are read, and as the same model.
-/

namespace ResourceGen

open Json (Value)

/-! ## One operation, one shape -/

/-- An operation with the names of its errors, as read from either description. -/
def ApiOperation.ReadAs (o : ApiOperation) (name : String) (b : Operation × List String) : Prop :=
  b.1 = o.toOperation name ∧ ∀ e, e ∈ b.2 ↔ ∃ r ∈ o.errors, e = r.shape

namespace SmithyDocument

variable {ns : String}

theorem documentationOf_eq {doc : Option String} {t : Traits} (h : Documented doc t) :
    documentationOf t = doc := by
  unfold documentationOf
  rw [h]
  cases doc <;> rfl

theorem map_localName_of_same (hns : '#' ∉ ns.toList) (hne : ns ≠ "smithy.api")
    {r : Option ApiReference} {id : Option String} (h : SameReference ns r id)
    (hname : ∀ ref ∈ r, '#' ∉ ref.shape.toList) :
    (nonUnit id).map localName = r.map (·.shape) := by
  cases r with
  | none => rcases h with rfl | rfl <;> rfl
  | some ref =>
    cases h
    rw [nonUnit_shapeId hns hne, Option.map_some, Option.map_some,
      localName_shapeId (hname ref rfl)]

/-- **An operation is read the same from both descriptions.** -/
theorem operation_of_same (hns : '#' ∉ ns.toList) (hne : ns ≠ "smithy.api") {s : SmithyDocument}
    {name : String} {o : ApiOperation} {t : SmithyShape} (h : SameOperation ns o t)
    (hget : s.shapes.get? (shapeId ns name) = some t) (hname : '#' ∉ name.toList)
    (hrefs : ∀ ref ∈ o.referenceNames, '#' ∉ ref.toList) :
    ∃ b, s.operation (shapeId ns name) = .ok b ∧ o.ReadAs name b := by
  have hinput : ∀ r ∈ o.input, '#' ∉ r.shape.toList := fun r hr =>
    hrefs _ (ApiOperation.mem_referenceNames (Or.inl hr))
  have houtput : ∀ r ∈ o.output, '#' ∉ r.shape.toList := fun r hr =>
    hrefs _ (ApiOperation.mem_referenceNames (Or.inr (Or.inl hr)))
  have herror : ∀ r ∈ o.errors, '#' ∉ r.shape.toList := fun r hr =>
    hrefs _ (ApiOperation.mem_referenceNames (Or.inr (Or.inr hr)))
  cases h with
  | @intro input output errors traits input_same output_same errors_same documented =>
    refine ⟨(o.toOperation name, errors.map localName), ?_, rfl, fun e => ?_⟩
    · unfold operation
      simp only [hget]
      rw [map_localName_of_same hns hne input_same hinput,
        map_localName_of_same hns hne output_same houtput, documentationOf_eq documented,
        localName_shapeId hname]
      rfl
    · constructor
      · intro he
        obtain ⟨id, hid, rfl⟩ := List.mem_map.mp he
        obtain ⟨r, hr, rfl⟩ := (errors_same id).mp hid
        exact ⟨r, hr, localName_shapeId (herror r hr)⟩
      · rintro ⟨r, hr, rfl⟩
        exact List.mem_map.mpr
          ⟨shapeId ns r.shape, (errors_same _).mpr ⟨r, hr, rfl⟩, localName_shapeId (herror r hr)⟩

theorem toMember_of_same {sh : ApiShape} {name : String} {r : ApiReference} {m : SmithyMember}
    (h : SameMember ns sh name r m) (href : '#' ∉ r.shape.toList) :
    toMember name m = sh.toMember name r := by
  unfold toMember ApiShape.toMember
  rw [h.target, h.required, documentationOf_eq h.documented, localName_shapeId href]

/-- The members are read the same. -/
theorem map_toMember_of_same {sh : ApiShape} {members : Dict SmithyMember}
    (here : ∀ name r, sh.members.get? name = some r →
      ∃ m, members.get? name = some m ∧ SameMember ns sh name r m)
    (there : ∀ name m, members.get? name = some m → sh.members.contains name = true)
    (hrefs : ∀ r ∈ sh.members.values, '#' ∉ r.shape.toList) :
    members.entries.map (fun e => toMember e.1 e.2) =
      sh.members.entries.map fun e => sh.toMember e.1 e.2 := by
  have hget (name : String) :
      (members.get? name).map (toMember name) = (sh.members.get? name).map (sh.toMember name) := by
    cases hr : sh.members.get? name with
    | some r =>
      obtain ⟨m, hm, hsame⟩ := here name r hr
      rw [hm, Option.map_some, Option.map_some,
        toMember_of_same hsame (hrefs r (Dict.mem_values_of_get? hr))]
    | none =>
      cases hm : members.get? name with
      | none => rfl
      | some m =>
        have hcontains := there name m hm
        rw [Dict.contains, hr] at hcontains
        cases hcontains
  have hdict : members.mapValues toMember = sh.members.mapValues sh.toMember :=
    Dict.ext_get? fun name v => by rw [Dict.get?_mapValues, Dict.get?_mapValues, hget]
  rw [← Dict.values_mapValues, ← Dict.values_mapValues, hdict]

theorem kind_of_same {sh : ApiShape} {t : SmithyShape} (h : SameKind ns sh t) (name : String)
    (hrefs : ∀ ref ∈ sh.referenceNames, '#' ∉ ref.toList) :
    ∃ kind, sh.kind name = .ok kind ∧ kind? t = some kind := by
  cases h with
  | @ofStructure members traits type here there =>
    have hmembers : ∀ r ∈ sh.members.values, '#' ∉ r.shape.toList := fun r hr =>
      hrefs _ (ApiShape.mem_referenceNames (Or.inl hr))
    refine ⟨_, ?_, congrArg (some ∘ ShapeKind.structure)
      (map_toMember_of_same here there hmembers)⟩
    unfold ApiShape.kind
    rw [type]
    rfl
  | @ofList r traits type member =>
    have href : '#' ∉ r.shape.toList :=
      hrefs _ (ApiShape.mem_referenceNames (Or.inr (Or.inl member)))
    refine ⟨.list r.shape, ?_, ?_⟩
    · unfold ApiShape.kind
      rw [type, member]
      rfl
    · rw [kind?, localName_shapeId href]
  | @ofMap k v traits type key value =>
    have hkey : '#' ∉ k.shape.toList :=
      hrefs _ (ApiShape.mem_referenceNames (Or.inr (Or.inr (Or.inl key))))
    have hvalue : '#' ∉ v.shape.toList :=
      hrefs _ (ApiShape.mem_referenceNames (Or.inr (Or.inr (Or.inr value))))
    refine ⟨.map k.shape v.shape, ?_, ?_⟩
    · unfold ApiShape.kind
      rw [type, key, value]
      rfl
    · rw [kind?, localName_shapeId hkey, localName_shapeId hvalue]
  | @ofScalar type traits label =>
    refine ⟨.scalar type, ?_, congrArg some type.scalarKind_smithy⟩
    unfold ApiShape.kind
    rw [label]
    cases type <;> rfl

/-- **A shape is read the same from both descriptions.** -/
theorem toShape?_of_same {sh : ApiShape} {t : SmithyShape} (h : SameShape ns sh t) {name : String}
    (hname : '#' ∉ name.toList) (hrefs : ∀ ref ∈ sh.referenceNames, '#' ∉ ref.toList)
    {errors errors' : List String} (herrors : ∀ e, e ∈ errors ↔ e ∈ errors') :
    ∃ x, sh.toShape errors name = .ok x ∧ toShape? errors' (shapeId ns name) t = some x := by
  obtain ⟨kind, hkind, hkind'⟩ := kind_of_same h.kind name hrefs
  obtain ⟨traits, htraits⟩ : ∃ traits, t.traits? = some traits := by
    cases h.kind <;> exact ⟨_, rfl⟩
  have hcontains : errors'.contains name = errors.contains name := by
    rw [Bool.eq_iff_iff, List.contains_iff_mem, List.contains_iff_mem, herrors]
  refine ⟨_, Result.bind_eq_ok_iff.mpr ⟨kind, hkind, rfl⟩, ?_⟩
  unfold toShape?
  simp only [hkind', htraits, localName_shapeId hname, Option.map_some, Option.any_some,
    Option.bind_some, h.error traits htraits, documentationOf_eq (h.documented traits htraits),
    hcontains]

/-- A shape refers to no shape of the prelude. -/
theorem inPrelude_of_mem_targets (hns : '#' ∉ ns.toList) (hne : ns ≠ "smithy.api") {sh : ApiShape}
    {t : SmithyShape} (h : SameKind ns sh t) {id : String} (hid : id ∈ targets t) :
    inPrelude id = false := by
  obtain ⟨name, rfl⟩ : ∃ name, id = shapeId ns name := by
    cases h with
    | @ofStructure members traits type here there =>
      obtain ⟨m, hm, rfl⟩ := List.mem_map.mp hid
      obtain ⟨name, hget⟩ := Dict.exists_get?_of_mem_values hm
      obtain ⟨r, hr⟩ := Option.isSome_iff_exists.mp (there name m hget)
      obtain ⟨m', hm', hsame⟩ := here name r hr
      rw [hget] at hm'
      cases hm'
      exact ⟨_, hsame.target⟩
    | ofList => exact ⟨_, List.mem_singleton.mp hid⟩
    | ofMap =>
      rcases List.mem_cons.mp hid with rfl | hid
      · exact ⟨_, rfl⟩
      · exact ⟨_, List.mem_singleton.mp hid⟩
    | ofScalar => cases hid
  exact inPrelude_shapeId hns hne

/-! ## The whole service -/

variable {s : SmithyDocument} {service : String} {d : ApiDocument}

/-- What stands under an id is the service, an operation or a shape. -/
theorem Describes.cases (h : s.Describes ns service d) {id : String} {t : SmithyShape}
    (hget : s.shapes.get? id = some t) :
    (id = shapeId ns service ∧ isService t = true) ∨
      (∃ name o, d.operations.get? name = some o ∧ id = shapeId ns name ∧ SameOperation ns o t) ∨
      ∃ name sh, d.shapes.get? name = some sh ∧ id = shapeId ns name ∧ SameShape ns sh t := by
  obtain ⟨name, hname, rfl⟩ := h.only id t hget
  rcases List.mem_cons.mp hname with rfl | hname
  · obtain ⟨operations, traits, hservice, -⟩ := h.has_service
    rw [hget] at hservice
    cases hservice
    exact Or.inl ⟨rfl, rfl⟩
  · rcases List.mem_append.mp hname with hname | hname
    · obtain ⟨o, ho⟩ := Dict.mem_keys_iff.mp hname
      obtain ⟨t', ht', hsame⟩ := h.has_operation name o ho
      rw [hget] at ht'
      cases ht'
      exact Or.inr (Or.inl ⟨name, o, ho, rfl, hsame⟩)
    · obtain ⟨sh, hsh⟩ := Dict.mem_keys_iff.mp hname
      obtain ⟨t', ht', hsame⟩ := h.has_shape name sh hsh
      rw [hget] at ht'
      cases ht'
      exact Or.inr (Or.inr ⟨name, sh, hsh, rfl, hsame⟩)

/-- The service that is found is the one that is described. -/
theorem Describes.service? (h : s.Describes ns service d) :
    ∃ operations t,
      s.service? = some (shapeId ns service, .service d.metadata.apiVersion operations [] t) ∧
        (∀ id, id ∈ operations ↔ ∃ name ∈ d.operations.keys, id = shapeId ns name) ∧
        (t.get? "aws.api#service").bind (Value.field? · "sdkId") = d.serviceId?.map .str := by
  obtain ⟨operations, t, hget, hoperations, hid⟩ := h.has_service
  refine ⟨operations, t, ?_, hoperations, hid⟩
  cases hfound : s.service? with
  | none =>
    have hnone := List.find?_eq_none.mp hfound _ (Dict.mem_entries_iff.mpr hget)
    exact absurd rfl hnone
  | some e =>
    obtain ⟨id, t'⟩ := e
    have hservice : isService t' = true :=
      List.find?_some (p := fun e : String × SmithyShape => isService e.2) hfound
    have hentry := Dict.mem_entries_iff.mp (List.mem_of_find?_eq_some hfound)
    -- neither an operation nor a data shape is a service
    rcases h.cases hentry with ⟨rfl, -⟩ | ⟨name, o, -, -, hsame⟩ | ⟨name, sh, -, -, hsame⟩
    · rw [hget] at hentry
      cases hentry
      rfl
    · cases hsame
      cases hservice
    · cases hsame.kind <;> cases hservice

theorem mem_operationIds {operations : List String} {id : String} :
    id ∈ s.operationIds operations [] ↔ id ∈ operations := by
  have hnone : s.resourceOperations (s.shapes.size + 1) [] = [] := rfl
  rw [operationIds, hnone, List.append_nil, Dict.mem_sortedKeys]

/-- An operation of the description is found, with its errors. -/
theorem Describes.operation (h : s.Describes ns service d) (hnames : d.NamesFit ns) {name : String}
    {o : ApiOperation} (ho : d.operations.get? name = some o) :
    ∃ b, s.operation (shapeId ns name) = .ok b ∧ o.ReadAs name b := by
  obtain ⟨t, hget, hsame⟩ := h.has_operation name o ho
  obtain ⟨hname, hrefs⟩ := hnames.operation ho
  exact operation_of_same hnames.namespace_plain hnames.foreign hsame hget hname hrefs

/-- A shape of the description is found. -/
theorem Describes.shape (h : s.Describes ns service d) (hnames : d.NamesFit ns) {name : String}
    {sh : ApiShape} (hsh : d.shapes.get? name = some sh) {errors errors' : List String}
    (herrors : ∀ e, e ∈ errors ↔ e ∈ errors') :
    ∃ t x, s.shapes.get? (shapeId ns name) = some t ∧ sh.toShape errors name = .ok x ∧
      toShape? errors' (shapeId ns name) t = some x := by
  obtain ⟨t, hget, hsame⟩ := h.has_shape name sh hsh
  obtain ⟨hname, hrefs⟩ := hnames.shape hsh
  obtain ⟨x, hx, hx'⟩ := toShape?_of_same hsame hname hrefs herrors
  exact ⟨t, x, hget, hx, hx'⟩

/-- What the service binds are the operations of the description, each with its errors. -/
theorem Describes.bound (h : s.Describes ns service d) (hnames : d.NamesFit ns)
    {operations : List String}
    (hoperations : ∀ id, id ∈ operations ↔ ∃ name ∈ d.operations.keys, id = shapeId ns name) :
    ∃ bound, (s.operationIds operations []).mapM s.operation = .ok bound ∧
      (∀ b ∈ bound, ∃ name o, d.operations.get? name = some o ∧ o.ReadAs name b) ∧
      ∀ name o, d.operations.get? name = some o → ∃ b ∈ bound, o.ReadAs name b := by
  have hid : ∀ id ∈ s.operationIds operations [], ∃ name o, d.operations.get? name = some o ∧
      id = shapeId ns name := by
    intro id hid
    obtain ⟨name, hname, rfl⟩ := (hoperations id).mp (mem_operationIds.mp hid)
    obtain ⟨o, ho⟩ := Dict.mem_keys_iff.mp hname
    exact ⟨name, o, ho, rfl⟩
  obtain ⟨bound, hbound⟩ :
      ∃ bound, (s.operationIds operations []).mapM s.operation = .ok bound := by
    refine Result.exists_mapM_eq_ok fun id h' => ?_
    obtain ⟨name, o, ho, rfl⟩ := hid id h'
    obtain ⟨b, hb, -⟩ := h.operation hnames ho
    exact ⟨b, hb⟩
  refine ⟨bound, hbound, fun b hb => ?_, fun name o ho => ?_⟩
  · obtain ⟨id, hmem, hop⟩ := Result.exists_of_mem_mapM hbound hb
    obtain ⟨name, o, ho, rfl⟩ := hid id hmem
    obtain ⟨b', hop', hread⟩ := h.operation hnames ho
    rw [hop] at hop'
    cases hop'
    exact ⟨name, o, ho, hread⟩
  · have hmem : shapeId ns name ∈ s.operationIds operations [] := mem_operationIds.mpr
      ((hoperations _).mpr ⟨name, Dict.mem_keys_iff.mpr ⟨o, ho⟩, rfl⟩)
    obtain ⟨b, hb, hop⟩ := Result.exists_of_mem_of_mapM hbound hmem
    obtain ⟨b', hop', hread⟩ := h.operation hnames ho
    rw [hop] at hop'
    cases hop'
    exact ⟨b, hb, hread⟩

/-- The operations of the service are those of the description, with the same errors. -/
theorem Describes.operations (h : s.Describes ns service d) (hnames : d.NamesFit ns)
    {operations : List String}
    (hoperations : ∀ id, id ∈ operations ↔ ∃ name ∈ d.operations.keys, id = shapeId ns name) :
    ∃ bound, (s.operationIds operations []).mapM s.operation = .ok bound ∧
      (∀ x, x ∈ bound.map (·.1) ↔ x ∈ d.operations.entries.map fun e => e.2.toOperation e.1) ∧
      ∀ e, e ∈ bound.flatMap (·.2) ↔ e ∈ d.errorNames := by
  obtain ⟨bound, hbound, hfrom, hto⟩ := h.bound hnames hoperations
  refine ⟨bound, hbound, fun x => ⟨fun hx => ?_, fun hx => ?_⟩,
    fun e => ⟨fun he => ?_, fun he => ?_⟩⟩
  · obtain ⟨b, hb, rfl⟩ := List.mem_map.mp hx
    obtain ⟨name, o, ho, hread, -⟩ := hfrom b hb
    exact List.mem_map.mpr ⟨(name, o), Dict.mem_entries_iff.mpr ho, hread.symm⟩
  · obtain ⟨⟨name, o⟩, hmem, rfl⟩ := List.mem_map.mp hx
    obtain ⟨b, hb, hread, -⟩ := hto name o (Dict.mem_entries_iff.mp hmem)
    exact List.mem_map.mpr ⟨b, hb, hread⟩
  · obtain ⟨b, hb, he⟩ := List.mem_flatMap.mp he
    obtain ⟨name, o, ho, -, herrors⟩ := hfrom b hb
    obtain ⟨r, hr, rfl⟩ := (herrors e).mp he
    exact List.mem_flatMap.mpr ⟨o, Dict.mem_values_of_get? ho, List.mem_map_of_mem hr⟩
  · obtain ⟨o, ho, he⟩ := List.mem_flatMap.mp he
    obtain ⟨name, hname⟩ := Dict.exists_get?_of_mem_values ho
    obtain ⟨r, hr, rfl⟩ := List.mem_map.mp he
    obtain ⟨b, hb, -, herrors⟩ := hto name o hname
    exact List.mem_flatMap.mpr ⟨b, hb, (herrors _).mpr ⟨r, hr, rfl⟩⟩

/-- The shapes of the service are those of the description. -/
theorem Describes.shapes (h : s.Describes ns service d) (hnames : d.NamesFit ns)
    {errors errors' : List String} (herrors : ∀ e, e ∈ errors ↔ e ∈ errors') :
    ∃ shapes, d.shapes.entries.mapM (fun e => e.2.toShape errors e.1) = .ok shapes ∧
      ∀ x, x ∈ s.shapes.entries.filterMap (fun e => toShape? errors' e.1 e.2) ↔ x ∈ shapes := by
  obtain ⟨shapes, hshapes⟩ : ∃ shapes,
      d.shapes.entries.mapM (fun e => e.2.toShape errors e.1) = .ok shapes := by
    refine Result.exists_mapM_eq_ok fun e he => ?_
    obtain ⟨t, x, -, hx, -⟩ := h.shape hnames (Dict.mem_entries_iff.mp he) herrors
    exact ⟨x, hx⟩
  refine ⟨shapes, hshapes, fun x => ⟨fun hx => ?_, fun hx => ?_⟩⟩
  · obtain ⟨⟨id, t⟩, hmem, hx⟩ := List.mem_filterMap.mp hx
    rcases h.cases (Dict.mem_entries_iff.mp hmem) with
      ⟨-, hservice⟩ | ⟨name, o, -, -, hsame⟩ | ⟨name, sh, hsh, rfl, -⟩
    · cases t <;> cases hservice
      cases hx
    · cases hsame
      cases hx
    · obtain ⟨t', x', hget, hx', hto⟩ := h.shape hnames hsh herrors
      rw [Dict.mem_entries_iff.mp hmem] at hget
      cases hget
      have hx : toShape? errors' (shapeId ns name) t = some x := hx
      rw [hx] at hto
      cases hto
      obtain ⟨y, hy, hy'⟩ := Result.exists_of_mem_of_mapM hshapes (Dict.mem_entries_iff.mpr hsh)
      rw [hx'] at hy'
      cases hy'
      exact hy
  · obtain ⟨⟨name, sh⟩, hmem, hx⟩ := Result.exists_of_mem_mapM hshapes hx
    obtain ⟨t, x', hget, hx', hto⟩ := h.shape hnames (Dict.mem_entries_iff.mp hmem) herrors
    have hx : sh.toShape errors name = .ok x := hx
    rw [hx] at hx'
    cases hx'
    exact List.mem_filterMap.mpr ⟨(shapeId ns name, t), Dict.mem_entries_iff.mpr hget, hto⟩

/-- Nothing of the prelude is needed. -/
theorem Describes.preludeNames (h : s.Describes ns service d) (hnames : d.NamesFit ns) :
    s.preludeNames = [] := by
  have hnone : (s.shapes.values.flatMap targets).filter inPrelude = [] := by
    refine List.filter_eq_nil_iff.mpr fun id hid => ?_
    obtain ⟨t, ht, hid⟩ := List.mem_flatMap.mp hid
    obtain ⟨key, hget⟩ := Dict.exists_get?_of_mem_values ht
    rcases h.cases hget with ⟨-, hservice⟩ | ⟨name, o, -, -, hsame⟩ | ⟨name, sh, -, -, hsame⟩
    · cases t <;> cases hservice
      cases hid
    · cases hsame
      cases hid
    · rw [inPrelude_of_mem_targets hnames.namespace_plain hnames.foreign hsame.kind hid]
      decide
  show Dict.sortedKeys (((s.shapes.values.flatMap targets).filter inPrelude).map localName) = []
  rw [hnone]
  rfl

end SmithyDocument

/-! ## The assembled model -/

namespace ServiceModel

/-- The finished model with given operations and shapes. -/
def assembled (id : String) (version : Option String) (os : List Operation) (ss : List Shape) :
    ServiceModel :=
  (ss.foldl addShape (os.foldl addOperation { new id with apiVersion := version })).finish

theorem foldl_addOperation (os : List Operation) (m : ServiceModel) :
    os.foldl addOperation m =
      { m with operations := os.foldl (fun d o => d.insert o.name o) m.operations } := by
  induction os generalizing m with
  | nil => rfl
  | cons o rest ih => exact ih (m.addOperation o)

theorem foldl_addShape (ss : List Shape) (m : ServiceModel) :
    ss.foldl addShape m =
      { m with shapes := ss.foldl (fun d s => d.insert s.name s) m.shapes } := by
  induction ss generalizing m with
  | nil => rfl
  | cons s rest ih => exact ih (m.addShape s)

/-- The order does not matter in which operations and shapes are added. -/
theorem assembled_congr {os os' : List Operation} {ss ss' : List Shape}
    (hos : ∀ x, x ∈ os ↔ x ∈ os') (hss : ∀ x, x ∈ ss ↔ x ∈ ss')
    (hoperation : ∀ x ∈ os, ∀ y ∈ os, x.name = y.name → x = y)
    (hshape : ∀ x ∈ ss, ∀ y ∈ ss, x.name = y.name → x = y) (id : String)
    (version : Option String) : assembled id version os ss = assembled id version os' ss' := by
  unfold assembled
  rw [foldl_addShape, foldl_addShape, foldl_addOperation, foldl_addOperation]
  show finish { new id with
    apiVersion := version
    operations := os.foldl (fun d o => d.insert o.name o) .empty
    shapes := ss.foldl (fun d s => d.insert s.name s) .empty } = _
  rw [Dict.foldl_insert_congr hos hoperation, Dict.foldl_insert_congr hss hshape]
  rfl

/-- How a service model came about: from the operations that the service binds, the shapes of the
Smithy model, and those of the prelude. -/
theorem toService_eq_ok {d : SmithyDocument} {m : ServiceModel} (h : d.toService = .ok m) :
    ∃ id version operations resources traits bound base,
      d.service? = some (id, .service version operations resources traits) ∧
      (d.operationIds operations resources).mapM d.operation = .ok bound ∧
      base.operations = (bound.map (·.1)).foldl (fun os o => os.insert o.name o) .empty ∧
      base.shapes = .empty ∧
      m = (d.preludeNames.foldl SmithyDocument.addPrelude
        ((d.shapes.entries.filterMap fun e =>
          SmithyDocument.toShape? (bound.flatMap (·.2)) e.1 e.2).foldl .addShape base)).finish := by
  unfold SmithyDocument.toService at h
  split at h
  · rename_i id version operations resources traits hservice
    obtain ⟨bound, hbound, h⟩ := Result.bind_eq_ok_iff.mp h
    refine ⟨id, version, operations, resources, traits, bound, _, hservice, hbound, ?_, ?_,
      (Result.pure_eq_ok_iff.mp h).symm⟩
    · rw [foldl_addOperation]
      rfl
    · rw [foldl_addOperation]
      rfl
  · cases h

end ServiceModel

namespace ApiDocument

theorem name_of_toShape {sh : ApiShape} {errors : List String} {name : String} {x : Shape}
    (h : sh.toShape errors name = .ok x) : x.name = name := by
  obtain ⟨kind, -, h⟩ := Result.bind_eq_ok_iff.mp h
  obtain rfl := Result.pure_eq_ok_iff.mp h
  rfl

/-- Operations of a description with one name are one. -/
theorem toOperation_eq_of_name {d : ApiDocument} {x y : Operation}
    (hx : x ∈ d.operations.entries.map fun e => e.2.toOperation e.1)
    (hy : y ∈ d.operations.entries.map fun e => e.2.toOperation e.1) (h : x.name = y.name) :
    x = y := by
  obtain ⟨⟨name, o⟩, ho, rfl⟩ := List.mem_map.mp hx
  obtain ⟨⟨name', o'⟩, ho', rfl⟩ := List.mem_map.mp hy
  obtain rfl : name = name' := h
  have heq := (Dict.mem_entries_iff.mp ho).symm.trans (Dict.mem_entries_iff.mp ho')
  cases heq
  rfl

/-- Shapes of a description with one name are one. -/
theorem toShape_eq_of_name {d : ApiDocument} {errors : List String} {shapes : List Shape}
    (hshapes : d.shapes.entries.mapM (fun e => e.2.toShape errors e.1) = .ok shapes) {x y : Shape}
    (hx : x ∈ shapes) (hy : y ∈ shapes) (h : x.name = y.name) : x = y := by
  obtain ⟨⟨name, sh⟩, hsh, hx⟩ := Result.exists_of_mem_mapM hshapes hx
  obtain ⟨⟨name', sh'⟩, hsh', hy⟩ := Result.exists_of_mem_mapM hshapes hy
  obtain rfl : name = name' := (name_of_toShape hx).symm.trans (h.trans (name_of_toShape hy))
  have heq := (Dict.mem_entries_iff.mp hsh).symm.trans (Dict.mem_entries_iff.mp hsh')
  cases heq
  rw [hx] at hy
  cases hy
  rfl

end ApiDocument

/-! ## Both readings -/

/-- A model that describes the service is read as the description is. -/
theorem SmithyDocument.Describes.exists_toService {s : SmithyDocument} {ns service id : String}
    {d : ApiDocument} (h : s.Describes ns service d) (hnames : d.NamesFit ns)
    (hid : d.serviceId? = some id) :
    ∃ m, s.toService = .ok m ∧ d.toService = .ok m := by
  obtain ⟨operations, t, hservice, hoperations, hsdk⟩ := h.service?
  obtain ⟨bound, hbound, hops, herrors⟩ := h.operations hnames hoperations
  obtain ⟨shapes, hshapes, hsame⟩ := h.shapes hnames fun e => (herrors e).symm
  have hsdkId : sdkId (shapeId ns service) t = id := by
    rw [sdkId, hsdk, hid]
    rfl
  have hsmithy : s.toService = .ok (.assembled id d.metadata.apiVersion (bound.map (·.1))
      (s.shapes.entries.filterMap fun e => toShape? (bound.flatMap (·.2)) e.1 e.2)) := by
    unfold toService
    simp only [hservice]
    refine Result.bind_eq_ok_iff.mpr ⟨bound, hbound, ?_⟩
    rw [Result.pure_eq_ok_iff, h.preludeNames hnames, List.foldl_nil, hsdkId]
    rfl
  have hapi : d.toService = .ok (.assembled id d.metadata.apiVersion
      (d.operations.entries.map fun e => e.2.toOperation e.1) shapes) := by
    unfold ApiDocument.toService
    simp only [hid]
    exact Result.bind_eq_ok_iff.mpr ⟨shapes, hshapes, rfl⟩
  -- the ids and the names may come in different orders, with the same operations and shapes
  refine ⟨_, ?_, hapi⟩
  rw [hsmithy, ServiceModel.assembled_congr (fun x => (hops x).symm) (fun x => (hsame x).symm)
    (fun x hx y hy => ApiDocument.toOperation_eq_of_name hx hy)
    fun x hx y hy => ApiDocument.toShape_eq_of_name hshapes hx hy]

/-- **Both descriptions of a service give the same model.** An API description with a service
identifier is read, where its shapes are of types that both formats have, its names are distinct
and can be told from ids; and whatever Smithy model describes the same service is read as the same
service model. There is such a model. -/
theorem ApiDocument.toService_agrees {d : ApiDocument} {ns service id : String}
    (hid : d.serviceId? = some id) (hshapes : ∀ sh ∈ d.shapes.values, sh.isShared = true)
    (hdistinct : (service :: d.names).Nodup) (hnames : d.NamesFit ns) :
    ∃ m, d.toService = .ok m ∧
      (SmithyDocument.ofApi ns service d).Describes ns service d ∧
      ∀ s : SmithyDocument, s.Describes ns service d → s.toService = .ok m := by
  have hwritten : (SmithyDocument.ofApi ns service d).Describes ns service d :=
    SmithyDocument.describes_ofApi hdistinct hshapes
  obtain ⟨m, -, hm⟩ := hwritten.exists_toService hnames hid
  refine ⟨m, hm, hwritten, fun s hs => ?_⟩
  obtain ⟨m', hs', hm'⟩ := hs.exists_toService hnames hid
  rw [hm] at hm'
  cases hm'
  exact hs'

/-- A reference without documentation. -/
def plainReference (shape : String) : ApiReference := ⟨shape, none, none⟩

/-- The description of a service of queues with tags, which refuses to create a queue twice. -/
def queueDocument : ApiDocument where
  metadata := ⟨some "2012-11-05", some "Queues", none, none, none⟩
  operations := .ofList
    [("CreateQueue", ⟨some (plainReference "NewQueue"), some (plainReference "Queue"),
        [plainReference "QueueExists"], some "Creates a queue."⟩),
      ("DeleteQueue", ⟨some (plainReference "Queue"), none, [], none⟩)]
  shapes := .ofList
    [("Text", ⟨"string", .empty, [], none, none, none, false, false, none⟩),
      ("TagMap", ⟨"map", .empty, [], none, some (plainReference "Text"),
        some (plainReference "Text"), false, false, none⟩),
      ("UrlList", ⟨"list", .empty, [], some (plainReference "Text"), none, none, false, false,
        none⟩),
      ("NewQueue", ⟨"structure", .ofList
        [("QueueName", ⟨"Text", none, some "The name of the queue."⟩),
          ("Tags", plainReference "TagMap")],
        ["QueueName"], none, none, none, false, false, none⟩),
      ("Queue", ⟨"structure", .ofList [("Urls", plainReference "UrlList")], [], none, none, none,
        false, false, some "A queue."⟩),
      ("QueueExists", ⟨"structure", .empty, [], none, none, none, true, false, none⟩)]
  documentation := none

/-- The service of queues is read the same from both descriptions. -/
theorem toService_agrees_queues :
    ∃ m, queueDocument.toService = .ok m ∧
      (SmithyDocument.ofApi "example.queues" "QueueService" queueDocument).toService = .ok m ∧
      m.operations.keys = ["CreateQueue", "DeleteQueue"] ∧
      m.shapes.keys = ["NewQueue", "Queue", "QueueExists", "TagMap", "Text", "UrlList"] ∧
      (m.shapes.values.filter (·.exception)).map (·.name) = ["QueueExists"] ∧
      (m.shapes.values.filter (·.usedAsOutput)).map (·.name) = ["Queue"] := by
  have hnames : queueDocument.NamesFit "example.queues" :=
    { foreign := by decide
      namespace_plain := by decide
      plain := by decide }
  obtain ⟨m, hm, hwritten, hall⟩ := ApiDocument.toService_agrees
    (show queueDocument.serviceId? = some "Queues" from rfl) (by decide)
    (show ("QueueService" :: queueDocument.names).Nodup by decide) hnames
  refine ⟨m, hm, hall _ hwritten, ?_⟩
  obtain rfl : _ = m := Except.ok.inj hm
  exact ⟨rfl, rfl, rfl, rfl⟩

end ResourceGen
