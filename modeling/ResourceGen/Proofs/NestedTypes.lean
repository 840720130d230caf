import ResourceGen.Proofs.Builds
import ResourceGen.Proofs.TypeNames

/-!
# Types that resources and programs refer to

Field types and programs name a generated type for every structure shape that they meet, while not
every structure has a type definition: exceptions, payloads of operations, structures named like a
kind, and structures without a member that has a type are left out (`Schema.HasOwnType`). So a name
that is referred to is always the one that the definition of its structure has
(`Schema.NamesTypeOf`), and whether there is such a definition is told from the structure alone.

The name of a kind is the worst case, since that type exists and is about something else.

Results:
* `exists_pathTo_of_at?`: every structure inside the type of a shape is a structure shape that the
  same steps lead to.
* `adoptResponse_builds`: every structure that a response program builds copies a structure shape
  inside the output.
* `exists_defines_iff`: the structures with a type definition.
* `nested_types_named`: programs, fields and attributes refer to the types of the structures that
  they are about.
* `nested_types_missing`: some of these are not defined.
-/

namespace ResourceGen

/-! ## Inside a type -/

/-- The part of a type to which some steps lead. -/
def FieldType.at? : FieldType → List Step → Option FieldType
  | t, [] => some t
  | .list element, .element :: steps => element.at? steps
  | .map k _, .key :: steps => k.at? steps
  | .map _ v, .value :: steps => v.at? steps
  | _, _ :: _ => none

namespace ServiceModel

variable {m : ServiceModel}

/-- **The structures inside a type are structure shapes**, found by the same steps. -/
theorem exists_pathTo_of_at? {f : String → String} {d : Nat} {s : Shape} {type : FieldType}
    (htype : m.typeWithin d s = .ok (some type)) {steps : List Step} {name : String}
    (hat : (type.renamed f).at? steps = some (.structure name)) :
    ∃ t, m.PathTo s steps t ∧ t.isStructure = true ∧ name = f t.name := by
  induction d generalizing s type steps with
  | zero => cases htype
  | succ d ih =>
    cases hkind : s.kind with
    | scalar t =>
      rw [typeWithin, hkind] at htype
      cases htype
      cases t <;> cases steps <;> simp [FieldType.ofScalar, FieldType.renamed, FieldType.at?] at hat
    | «structure» members =>
      rw [typeWithin, hkind] at htype
      cases htype
      cases steps with
      | nil =>
        cases hat
        exact ⟨s, .here s, isStructure_iff.mpr ⟨members, hkind⟩, rfl⟩
      | cons step steps => cases step <;> simp [FieldType.renamed, FieldType.at?] at hat
    | list element =>
      obtain ⟨e, et, he, het, rfl⟩ := (typeWithin_list_iff hkind).mp htype
      cases steps with
      | nil => simp [FieldType.renamed, FieldType.at?] at hat
      | cons step steps =>
        cases step with
        | element =>
          obtain ⟨t, hpath, ht⟩ := ih het hat
          exact ⟨t, .cons (.element hkind he) hpath, ht⟩
        | _ => simp [FieldType.renamed, FieldType.at?] at hat
    | map key value =>
      obtain ⟨ks, vs, k, v, hks, hvs, hk, hv, rfl⟩ := (typeWithin_map_iff hkind).mp htype
      cases steps with
      | nil => simp [FieldType.renamed, FieldType.at?] at hat
      | cons step steps =>
        cases step with
        | key =>
          obtain ⟨t, hpath, ht⟩ := ih hk hat
          exact ⟨t, .cons (.key hkind hks) hpath, ht⟩
        | value =>
          obtain ⟨t, hpath, ht⟩ := ih hv hat
          exact ⟨t, .cons (.value hkind hvs) hpath, ht⟩
        | _ => simp [FieldType.renamed, FieldType.at?] at hat
    | unsupported label =>
      rw [typeWithin, hkind] at htype
      cases htype

/-- The wrapper of an output leads to what is inside. -/
theorem pathTo_of_unwrap {s : Shape} {u : Unwrapped} (h : m.unwrap s = .ok u) :
    m.PathTo s (u.wrapper.toList.map .member) u.shape := by
  unfold unwrap at h
  split at h
  · rename_i f hmembers
    split at h
    · obtain ⟨inner, hinner, h⟩ := Result.bind_eq_ok_iff.mp h
      obtain rfl := Result.pure_eq_ok_iff.mp h
      split
      · have hf : f ∈ s.members := by rw [hmembers]; exact List.mem_singleton_self f
        exact .cons (.member hf rfl (resolve_eq_ok_iff.mp hinner)) (.here inner)
      · exact .here s
    · cases h
      exact .here s
  · cases h
    exact .here s

end ServiceModel

theorem TypeResolver.exists_pathTo_of_at? {types : TypeResolver} {side : Side} {s : Shape}
    {type : FieldType} (htype : types.fieldType side s = .ok (some type)) {steps : List Step}
    {name : String} (hat : type.at? steps = some (.structure name)) :
    ∃ t, types.model.PathTo s steps t ∧ t.isStructure = true ∧
      name = types.typeName side t.name := by
  obtain ⟨o, ho, h⟩ := Result.bind_eq_ok_iff.mp htype
  obtain ⟨inner, rfl, rfl⟩ := Option.map_eq_some_iff.mp (Result.pure_eq_ok_iff.mp h)
  exact ServiceModel.exists_pathTo_of_at? ho hat

/-! ## Inside a response program -/

namespace Synthesizer

open Statement (buildsOf)

variable {s : Synthesizer} {r : Resource} {o : Operation} {target : InboundTarget}
  {path : List String} {source : Accessor} {b : Build}

/-- A member that is copied is copied from its own place, by the layout of its shape. -/
theorem memberTransfer_copied {m : Member} {dest source' : Accessor} {l : Layout}
    (h : s.memberTransfer r o path source target m = .ok (some (.copied dest source' l))) :
    ∃ t, s.model.shape? m.target = some t ∧ source' = source.field m.name ∧
      l.Unfolds s.model t := by
  unfold memberTransfer at h
  cases hshape : s.model.shape? m.target with
  | none => simp only [hshape] at h; cases h
  | some t =>
    simp only [hshape] at h
    split at h
    · cases h
    · cases hdest : outputDest? r target (s.config.outputName r.name o.name m.name) with
      | none =>
        simp only [hdest] at h
        split at h <;> cases h
      | some dest =>
        simp only [hdest] at h
        rcases copyOf_cases h with ⟨-, h⟩ | ⟨-, l, hl, h⟩
        · cases h
        · cases h
          exact ⟨t, rfl, rfl, hl⟩

/-- What is built for the members of a structure copies parts of it. -/
theorem memberTransfers_builds {shape : Shape} {ts : List Transfer}
    (h : s.memberTransfers r o path source target shape = .ok ts) {scope : Scope}
    {here : Option Place}
    (hb : b ∈ buildsOf scope here (s.program .inbound [] ts).statements) :
    (Copier.mk .inbound s.types).BuildsPart shape (source.placeIn scope) b := by
  obtain ⟨dest, source', l, k, hmem, hb⟩ := Copier.builds_transfers hb
  unfold memberTransfers at h
  obtain ⟨os, hos, h⟩ := Result.bind_eq_ok_iff.mp h
  obtain rfl := Result.pure_eq_ok_iff.mp h
  obtain ⟨o, ho, hid⟩ := List.mem_filterMap.mp hmem
  obtain rfl : o = some _ := hid
  obtain ⟨m, hm, hmember⟩ := Result.exists_of_mem_mapM hos ho
  obtain ⟨t, ht, rfl, hl⟩ := memberTransfer_copied hmember
  have hpart := Copier.builds_copy rfl hl scope dest (source.field m.name) k here hb
  rw [Accessor.placeIn_field] at hpart
  exact hpart.of_path (.cons (.member hm rfl ht) (.here _))

theorem adoptMembers_builds {output : Shape} {response : Accessor} {p : Program}
    (h : s.adoptMembers r o output response target = .ok p) (hb : b ∈ p.builds) :
    (Copier.mk .inbound s.types).BuildsPart output response.place b := by
  unfold adoptMembers at h
  obtain ⟨u, hu, h⟩ := Result.bind_eq_ok_iff.mp h
  have hpath := ServiceModel.pathTo_of_unwrap hu
  cases hw : u.wrapper with
  | none =>
    simp only [hw] at h hpath
    obtain ⟨ts, hts, h⟩ := Result.bind_eq_ok_iff.mp h
    obtain rfl := Result.pure_eq_ok_iff.mp h
    have hpart := memberTransfers_builds hts hb
    rw [← Place.extend_nil (Accessor.placeIn _ _)] at hpart
    exact hpart.of_path hpath
  | some wrapper =>
    simp only [hw] at h hpath
    obtain ⟨path, -, h⟩ := Result.bind_eq_ok_iff.mp h
    obtain ⟨ts, hts, h⟩ := Result.bind_eq_ok_iff.mp h
    obtain rfl := Result.pure_eq_ok_iff.mp h
    have hpart := memberTransfers_builds hts hb
    rw [Accessor.placeIn_field] at hpart
    exact hpart.of_path hpath

/-- A list of structures leads to its elements. -/
theorem pathTo_of_listMember {output : Shape} {m : Member} (hm : m ∈ output.members)
    {l : ListMember} (h : s.listMember m = .ok (some l)) :
    s.model.PathTo output [.member l.name, .element] l.element := by
  unfold listMember at h
  cases hshape : s.model.shape? m.target with
  | none => simp only [hshape] at h; cases h
  | some t =>
    simp only [hshape] at h
    split at h
    · rename_i reference hkind
      obtain ⟨element, helement, h⟩ := Result.bind_eq_ok_iff.mp h
      have h := Result.pure_eq_ok_iff.mp h
      split at h
      · cases h
        exact .cons (.member hm rfl hshape)
          (.cons (.element hkind (ServiceModel.resolve_eq_ok_iff.mp helement)) (.here element))
      · cases h
    · cases h

/-- The list that is taken over is a member of the output. -/
theorem pathTo_of_resourceList {output : Shape} {l : ListMember}
    (h : s.resourceList r output = .ok (.found l)) :
    s.model.PathTo output [.member l.name, .element] l.element := by
  have hmem : ∃ ls, output.members.mapM s.listMember = .ok ls ∧ l ∈ ls.filterMap id := by
    unfold resourceList at h
    obtain ⟨ls, hls, h⟩ := Result.bind_eq_ok_iff.mp h
    refine ⟨ls, hls, ?_⟩
    split at h
    · cases h
    · rename_i only honly
      cases h
      rw [honly]
      exact List.mem_singleton_self l
    · obtain ⟨created, -, h⟩ := Result.bind_eq_ok_iff.mp h
      split at h
      · rename_i hfound
        cases h
        exact List.mem_of_find?_eq_some hfound
      · rename_i hfound
        cases h
        exact List.mem_of_find?_eq_some hfound
      · cases h
  obtain ⟨ls, hls, hl⟩ := hmem
  obtain ⟨o, ho, hid⟩ := List.mem_filterMap.mp hl
  obtain rfl : o = some l := hid
  obtain ⟨m, hm, hlist⟩ := Result.exists_of_mem_mapM hls ho
  exact pathTo_of_listMember hm hlist

theorem adoptElement_builds {output : Shape} {response : Accessor} {l : ListMember} {p : Program}
    (hpath : s.model.PathTo output [.member l.name, .element] l.element)
    (h : s.adoptElement r o output response target l = .ok p) (hb : b ∈ p.builds) :
    (Copier.mk .inbound s.types).BuildsPart output response.place b := by
  unfold adoptElement at h
  obtain ⟨path, -, h⟩ := Result.bind_eq_ok_iff.mp h
  obtain ⟨ts, hts, h⟩ := Result.bind_eq_ok_iff.mp h
  obtain rfl := Result.pure_eq_ok_iff.mp h
  rw [Program.builds, Statement.buildsOf_singleton, Statement.builds] at hb
  have hpart := memberTransfers_builds hts hb
  rw [Accessor.placeIn_var, Function.update_self, Accessor.placeIn_field, Place.extend_extend]
    at hpart
  exact hpart.of_path hpath

theorem reference_of_payload {reference? : Option String} {shape : Shape}
    (h : s.payload o reference? = .ok (some shape)) :
    ∃ reference, reference? = some reference ∧ s.model.shape? reference = some shape := by
  unfold payload at h
  cases reference? with
  | none => cases h
  | some reference =>
    cases hresolve : s.model.resolve reference o.name with
    | error err =>
      simp only [hresolve] at h
      cases h
    | ok t =>
      simp only [hresolve] at h
      cases h
      exact ⟨reference, rfl, ServiceModel.resolve_eq_ok_iff.mp hresolve⟩

/-- **What a response program builds copies parts of the output.** -/
theorem adoptResponse_builds {role : Role} {response : String} {p : Program}
    (h : s.adoptResponse r role response target = .ok p) (hb : b ∈ p.builds) :
    ∃ o reference output, r.operations.get? role = some o ∧ o.output = some reference ∧
      s.model.shape? reference = some output ∧
      (Copier.mk .inbound s.types).BuildsPart output (Accessor.parse response).place b := by
  have hempty : b ∉ (Program.empty .inbound).builds := List.not_mem_nil
  unfold adoptResponse at h
  cases ho : r.operations.get? role with
  | none =>
    simp only [ho] at h
    obtain rfl := Result.pure_eq_ok_iff.mp h
    exact absurd hb hempty
  | some o =>
    simp only [ho] at h
    obtain ⟨payload, hpayload, h⟩ := Result.bind_eq_ok_iff.mp h
    cases payload with
    | none =>
      obtain rfl := Result.pure_eq_ok_iff.mp h
      exact absurd hb hempty
    | some output =>
      obtain ⟨reference, href, houtput⟩ := reference_of_payload hpayload
      refine ⟨o, reference, output, rfl, href, houtput, ?_⟩
      simp only at h
      unfold adoptOutput at h
      split at h
      · obtain ⟨found, hfound, h⟩ := Result.bind_eq_ok_iff.mp h
        cases found with
        | found l => exact adoptElement_builds (pathTo_of_resourceList hfound) h hb
        | ambiguous =>
          obtain rfl := Result.pure_eq_ok_iff.mp h
          exact absurd hb hempty
        | absent => exact adoptMembers_builds h hb
      · exact adoptMembers_builds h hb

end Synthesizer

/-! ## Structures with a type definition -/

namespace TypeDef

variable {types : TypeResolver} {s : Shape} {attributes : Dict TypeAttribute}

/-- The attribute is that of a member with a shape: the type is that of the shape on the side of
the resources. -/
def IsAttributeOf (types : TypeResolver) (m : Member) (t : Shape) (a : TypeAttribute) : Prop :=
  ∃ type, types.model.shape? m.target = some t ∧ types.fieldType .resource t = .ok (some type) ∧
    a = ⟨types.namer.names m.name, type, t.name⟩

/-- What becomes of a member: an attribute under its name, or nothing without a type. -/
theorem memberAttribute_cases {m : Member} {o : Option (String × TypeAttribute)}
    (h : memberAttribute types s m = .ok o) :
    ∃ t, types.model.shape? m.target = some t ∧
      ((o = none ∧ types.model.isTyped t = false) ∨
        ∃ a, o = some (m.name, a) ∧ IsAttributeOf types m t a) := by
  obtain ⟨t, ht, h⟩ := Result.bind_eq_ok_iff.mp h
  obtain ⟨type?, htype, h⟩ := Result.bind_eq_ok_iff.mp h
  obtain rfl := Result.pure_eq_ok_iff.mp h
  have ht := ServiceModel.resolve_eq_ok_iff.mp ht
  refine ⟨t, ht, ?_⟩
  cases type? with
  | some type => exact Or.inr ⟨_, rfl, type, ht, htype, rfl⟩
  | none =>
    refine Or.inl ⟨rfl, Bool.eq_false_iff.mpr fun htyped => ?_⟩
    obtain ⟨type, hsome⟩ := (Copier.isTyped_iff_fieldType types .resource t).mp htyped
    rw [htype] at hsome
    cases hsome

/-- What is entered for the members of a structure. -/
theorem attributesOf_steps (h : attributesOf types s = .ok attributes) :
    ∃ os, s.members.mapM (memberAttribute types s) = .ok os ∧
      attributes = Dict.ofList (os.filterMap id) := by
  obtain ⟨os, hos, h⟩ := Result.bind_eq_ok_iff.mp h
  exact ⟨os, hos, (Result.pure_eq_ok_iff.mp h).symm⟩

/-- Every attribute is that of a member. -/
theorem exists_member_of_mem_attributes (h : attributesOf types s = .ok attributes)
    {a : TypeAttribute} (ha : a ∈ attributes.values) :
    ∃ m ∈ s.members, ∃ t, IsAttributeOf types m t a := by
  obtain ⟨os, hos, rfl⟩ := attributesOf_steps h
  obtain ⟨key, hkey⟩ := Dict.exists_get?_of_mem_values ha
  rcases Dict.get?_foldl_insert Prod.fst Prod.snd hkey with ⟨p, hp, -, rfl⟩ | hnone
  · obtain ⟨o, ho, hid⟩ := List.mem_filterMap.mp hp
    obtain rfl : o = some p := hid
    obtain ⟨m, hm, hmember⟩ := Result.exists_of_mem_mapM hos ho
    obtain ⟨t, -, ⟨hnone, -⟩ | ⟨a, hsome, horigin⟩⟩ := memberAttribute_cases hmember
    · cases hnone
    · cases hsome
      exact ⟨m, hm, t, horigin⟩
  · cases hnone

/-- **Every member with a type has an attribute of its name.** -/
theorem exists_attribute (h : attributesOf types s = .ok attributes) {m : Member}
    (hm : m ∈ s.members) {t : Shape} (ht : types.model.shape? m.target = some t)
    (htyped : types.model.isTyped t = true) :
    ∃ a ∈ attributes.values, a.names = types.namer.names m.name := by
  obtain ⟨os, hos, rfl⟩ := attributesOf_steps h
  have hentered {m : Member} {o : Option (String × TypeAttribute)}
      (hmember : memberAttribute types s m = .ok o) {p : String × TypeAttribute} (hp : o = some p) :
      p.1 = m.name ∧ p.2.names = types.namer.names m.name := by
    obtain ⟨t, -, ⟨hnone, -⟩ | ⟨a, hsome, type, -, -, rfl⟩⟩ := memberAttribute_cases hmember
    · rw [hnone] at hp
      cases hp
    · rw [hsome] at hp
      cases hp
      exact ⟨rfl, rfl⟩
  obtain ⟨o, ho, hmember⟩ := Result.exists_of_mem_of_mapM hos hm
  obtain ⟨p, rfl⟩ : ∃ p, o = some p := by
    obtain ⟨t', ht', ⟨-, huntyped⟩ | ⟨a, hsome, -⟩⟩ := memberAttribute_cases hmember
    · rw [ht] at ht'
      cases ht'
      rw [htyped] at huntyped
      cases huntyped
    · exact ⟨_, hsome⟩
  have hcontains : (Dict.ofList (os.filterMap id)).contains m.name = true :=
    Dict.contains_foldl_insert Prod.fst Prod.snd
      (Or.inr ⟨p, List.mem_filterMap.mpr ⟨_, ho, rfl⟩, (hentered hmember rfl).1⟩)
  obtain ⟨a, ha⟩ := Option.isSome_iff_exists.mp hcontains
  refine ⟨a, Dict.mem_values_of_get? ha, ?_⟩
  -- the attribute that is found may be that of another member of the same name
  rcases Dict.get?_foldl_insert Prod.fst Prod.snd ha with ⟨q, hq, hname, rfl⟩ | hnone
  · obtain ⟨o', ho', hid⟩ := List.mem_filterMap.mp hq
    obtain ⟨m', -, hmember'⟩ := Result.exists_of_mem_mapM hos ho'
    obtain ⟨hkey, hnames⟩ := hentered hmember' hid
    rw [hnames, ← hkey, hname]
  · cases hnone

end TypeDef

namespace Schema

variable {schema : Schema} {rs : List Resource} {defs : List TypeDef} {s : Shape}

/-- One of the type definitions is made from a structure. -/
structure Defines (schema : Schema) (defs : List TypeDef) (s : Shape) (d : TypeDef) : Prop where
  mem : d ∈ defs
  candidate : TypeDef.isCandidate schema.types schema.config schema.kinds s = true
  ofShape : TypeDef.ofShape schema.types s = .ok (some d)

/-- A structure that is no exception, no payload and not named like a resource, with a member that
has a type. -/
structure HasOwnType (schema : Schema) (rs : List Resource) (s : Shape) : Prop where
  isStructure : s.isStructure = true
  not_exception : s.exception = false
  not_payload : ∀ o ∈ schema.model.operations.values,
    o.input ≠ some s.name ∧ o.output ≠ some s.name
  not_kind : ∀ r ∈ rs, r.kind ≠ (schema.namer.names s.name).camel
  typed_member : ∃ m ∈ s.members, ∃ t, schema.model.shape? m.target = some t ∧
    schema.model.isTyped t = true

theorem mem_payloadNames_iff {m : ServiceModel} {name : String} :
    name ∈ m.payloadNames ↔
      ∃ o ∈ m.operations.values, o.input = some name ∨ o.output = some name := by
  unfold ServiceModel.payloadNames
  rw [Dict.mem_sortedKeys, List.mem_flatMap]
  simp only [List.mem_append, Option.mem_toList]

/-- Without ignored shapes, what may have a type definition is told from the structure and the
kinds. -/
theorem isCandidate_iff (hignored : schema.config.ignore.shapeNames = [])
    (hrs : schema.resources = .ok rs) :
    TypeDef.isCandidate schema.types schema.config schema.kinds s = true ↔
      s.isStructure = true ∧ s.exception = false ∧
        (∀ o ∈ schema.model.operations.values,
          o.input ≠ some s.name ∧ o.output ≠ some s.name) ∧
        ∀ r ∈ rs, r.kind ≠ (schema.namer.names s.name).camel := by
  have hpayload : schema.model.payloadNames.contains s.name = false ↔
      ∀ o ∈ schema.model.operations.values,
        o.input ≠ some s.name ∧ o.output ≠ some s.name := by
    rw [← Bool.not_eq_true, List.contains_iff_mem, mem_payloadNames_iff]
    simp only [not_exists, not_and, not_or]
  have hkind : schema.kinds.contains (schema.namer.names s.name).camel = false ↔
      ∀ r ∈ rs, r.kind ≠ (schema.namer.names s.name).camel := by
    rw [← Bool.not_eq_true, List.contains_iff_mem, mem_kinds_iff hrs]
    simp only [not_exists, not_and]
  have hshape : schema.config.isIgnoredShape s.name = false := by
    rw [Config.isIgnoredShape, hignored]
    rfl
  rw [← hpayload, ← hkind]
  show (s.isStructure && !(s.exception || schema.model.payloadNames.contains s.name ||
    schema.config.isIgnoredShape s.name) &&
    !schema.kinds.contains (schema.namer.names s.name).camel) = true ↔ _
  rw [hshape]
  simp [and_assoc]

/-- **The structures with a type definition.** -/
theorem exists_defines_iff (hignored : schema.config.ignore.shapeNames = [])
    (hrs : schema.resources = .ok rs) (hdefs : schema.typeDefs = .ok defs)
    (hs : s ∈ schema.model.shapes.values) :
    (∃ d, schema.Defines defs s d) ↔ schema.HasOwnType rs s := by
  constructor
  · rintro ⟨d, -, hcandidate, hof⟩
    obtain ⟨hstructure, hexception, hpayload, hkind⟩ := (isCandidate_iff hignored hrs).mp hcandidate
    obtain ⟨-, -, hattributes, hempty⟩ := TypeDef.ofShape_eq_some hof
    refine ⟨hstructure, hexception, hpayload, hkind, ?_⟩
    obtain ⟨a, ha⟩ : ∃ a, a ∈ d.attributes.values := by
      refine List.exists_mem_of_ne_nil _ fun hnil => ?_
      rw [Dict.isEmpty, List.map_eq_nil_iff.mp hnil] at hempty
      cases hempty
    obtain ⟨m, hm, t, type, ht, htype, -⟩ := TypeDef.exists_member_of_mem_attributes hattributes ha
    exact ⟨m, hm, t, ht, (Copier.isTyped_iff_fieldType schema.types .resource t).mpr ⟨type, htype⟩⟩
  · rintro ⟨hstructure, hexception, hpayload, hkind, m, hm, t, ht, htyped⟩
    have hcandidate := (isCandidate_iff hignored hrs).mpr ⟨hstructure, hexception, hpayload, hkind⟩
    obtain ⟨o, hof⟩ : ∃ o, TypeDef.ofShape schema.types s = .ok o := by
      unfold typeDefs TypeDef.all at hdefs
      obtain ⟨found, hfound, -⟩ := Result.bind_eq_ok_iff.mp hdefs
      obtain ⟨o, -, ho⟩ := Result.exists_of_mem_of_mapM hfound (List.mem_filter.mpr ⟨hs, hcandidate⟩)
      exact ⟨o, ho⟩
    obtain ⟨attributes, hattributes, h⟩ := Result.bind_eq_ok_iff.mp hof
    have h := Result.pure_eq_ok_iff.mp h
    split at h
    · rename_i hempty
      obtain ⟨a, ha, -⟩ := TypeDef.exists_attribute hattributes hm ht htyped
      obtain ⟨entry, hentry, -⟩ := List.mem_map.mp ha
      rw [Dict.isEmpty, List.isEmpty_iff] at hempty
      rw [hempty] at hentry
      cases hentry
    · subst h
      exact ⟨_, (mem_typeDefs_iff hdefs).mpr ⟨s, hs, hcandidate, hof⟩, hcandidate, hof⟩

/-- A name is that of the type of a structure: the structure has a type definition exactly when it
has a type of its own, and then this is the name. -/
structure NamesTypeOf (schema : Schema) (rs : List Resource) (defs : List TypeDef) (name : String)
    (s : Shape) : Prop where
  mem : s ∈ schema.model.shapes.values
  isStructure : s.isStructure = true
  defined_iff : (∃ d, schema.Defines defs s d) ↔ schema.HasOwnType rs s
  typeName : ∀ d, schema.Defines defs s d → d.typeName = name

theorem namesTypeOf (hignored : schema.config.ignore.shapeNames = [])
    (hrs : schema.resources = .ok rs) (hdefs : schema.typeDefs = .ok defs)
    (hs : s ∈ schema.model.shapes.values) (hstructure : s.isStructure = true) {name : String}
    (hname : name = schema.types.resourceTypeName s.name) :
    schema.NamesTypeOf rs defs name s :=
  ⟨hs, hstructure, exists_defines_iff hignored hrs hdefs hs, fun _ hd =>
    (TypeDef.ofShape_eq_some hd.ofShape).2.1.trans hname.symm⟩

/-- The structures inside the type of a shape. -/
theorem namesTypeOf_of_at? (hignored : schema.config.ignore.shapeNames = [])
    (hrs : schema.resources = .ok rs) (hdefs : schema.typeDefs = .ok defs) {t : Shape}
    (ht : t ∈ schema.model.shapes.values) {type : FieldType}
    (htype : schema.types.fieldType .resource t = .ok (some type)) {steps : List Step}
    {name : String} (hat : type.at? steps = some (.structure name)) :
    ∃ s, schema.model.PathTo t steps s ∧ schema.NamesTypeOf rs defs name s := by
  obtain ⟨s, hpath, hstructure, hname⟩ := TypeResolver.exists_pathTo_of_at? htype hat
  exact ⟨s, hpath, namesTypeOf hignored hrs hdefs (hpath.mem_values ht) hstructure hname⟩

/-- A field is that of a key, or its type is that of a shape. -/
theorem exists_shape_of_field [PatternEngine] {model : ServiceModel} {config : Config}
    {classifier : Classifier} (hschema : build model config .standard classifier = .ok schema)
    (hrs : schema.resources = .ok rs) {r : Resource} (hr : r ∈ rs) {f : Field}
    (hf : f ∈ r.spec.values ++ r.status.values) :
    f.type = .string ∨ ∃ t ∈ model.shapes.values, f.shapeName = some t.name ∧
      schema.types.fieldType .resource t = .ok (some f.type) := by
  obtain ⟨create, reference, input, outputs, -, -, -, -, hpartition⟩ :=
    resources_partition hschema hrs hr
  obtain ⟨index, rfl⟩ := build_eq_ok hschema
  have hmember {m : Member} {key : String}
      (h : (derivation ⟨model, config, .standard, index⟩).IsFieldOf m key f) :
      ∃ t ∈ model.shapes.values, f.shapeName = some t.name ∧
        (types ⟨model, config, .standard, index⟩).fieldType .resource t = .ok (some f.type) := by
    obtain ⟨t, type, ht, htype, rfl⟩ := h
    exact ⟨t, Dict.mem_values_of_get? ht, rfl, htype⟩
  rcases List.mem_append.mp hf with hf | hf
  · obtain ⟨key, hkey⟩ := Dict.exists_get?_of_mem_values hf
    rcases hpartition.spec_origin key f hkey with ⟨m, -, -, -, horigin⟩ | ⟨-, rfl⟩
    · exact Or.inr (hmember horigin)
    · exact Or.inl rfl
  · obtain ⟨key, hkey⟩ := Dict.exists_get?_of_mem_values hf
    rcases hpartition.status_origin key f hkey with ⟨m, -, -, -, -, horigin⟩ | ⟨-, rfl⟩
    · exact Or.inr (hmember horigin)
    · exact Or.inl rfl

/-- **Programs, fields and attributes refer to the types of the structures that they are about.**
Where no shapes are ignored:
* every structure that a response program builds copies a structure shape inside the output, and has
  the name of its type; if that type is defined, then it has an attribute for every member that is
  written;
* every structure inside the type of a Spec or Status field, or of an attribute of a type
  definition, has the name of the type of the structure shape that it comes from.

Such a type is defined exactly when the structure has a type of its own. -/
theorem nested_types_named [PatternEngine] {model : ServiceModel} {config : Config}
    {classifier : Classifier} (hschema : build model config .standard classifier = .ok schema)
    (hignored : config.ignore.shapeNames = []) (hrs : schema.resources = .ok rs)
    (hdefs : schema.typeDefs = .ok defs) :
    (∀ r ∈ rs, ∀ role target response p,
      schema.synthesizer.adoptResponse r role response target = .ok p →
      ∀ b ∈ p.builds, ∃ o reference output steps s, r.operations.get? role = some o ∧
        o.output = some reference ∧ model.shape? reference = some output ∧
        b.place = some ((Accessor.parse response).place.extend steps) ∧
        model.PathTo output steps s ∧ schema.NamesTypeOf rs defs b.typeName s ∧
        ∀ d, schema.Defines defs s d →
          ∀ name ∈ b.members, ∃ a ∈ d.attributes.values, a.names.camel = name) ∧
    (∀ r ∈ rs, ∀ f ∈ r.spec.values ++ r.status.values, ∀ steps name,
      f.type.at? steps = some (.structure name) →
      ∃ t ∈ model.shapes.values, ∃ s, f.shapeName = some t.name ∧ model.PathTo t steps s ∧
        schema.NamesTypeOf rs defs name s) ∧
    ∀ d ∈ defs, ∀ a ∈ d.attributes.values, ∀ steps name,
      a.type.at? steps = some (.structure name) →
      ∃ t ∈ model.shapes.values, ∃ s, a.shapeName = t.name ∧ model.PathTo t steps s ∧
        schema.NamesTypeOf rs defs name s := by
  obtain ⟨index, hindex⟩ := build_eq_ok hschema
  have hmodel : schema.model = model := by rw [hindex]
  have hconfig : schema.config.ignore.shapeNames = [] := by rw [hindex]; exact hignored
  subst hmodel
  refine ⟨fun r _ role target response p hp b hb => ?_, fun r hr f hf steps name hat => ?_,
    fun d hd a ha steps name hat => ?_⟩
  · obtain ⟨o, reference, output, ho, href, houtput, steps, s, hplace, hpath, hbuilds⟩ :=
      Synthesizer.adoptResponse_builds hp hb
    have hs := hpath.mem_values (Dict.mem_values_of_get? houtput)
    refine ⟨o, reference, output, steps, s, ho, href, houtput, hplace, hpath,
      namesTypeOf hconfig hrs hdefs hs hbuilds.isStructure hbuilds.typeName,
      fun d hd name hname => ?_⟩
    obtain ⟨m, hm, t, ht, htyped, rfl⟩ := hbuilds.members name hname
    obtain ⟨a, ha, hnames⟩ :=
      TypeDef.exists_attribute (TypeDef.ofShape_eq_some hd.ofShape).2.2.1 hm ht htyped
    exact ⟨a, ha, by rw [hnames]; rfl⟩
  · rcases exists_shape_of_field hschema hrs hr hf with hstring | ⟨t, ht, hname, htype⟩
    · rw [hstring] at hat
      cases steps <;> simp [FieldType.at?] at hat
    · obtain ⟨s, hpath, hs⟩ := namesTypeOf_of_at? hconfig hrs hdefs ht htype hat
      exact ⟨t, ht, s, hname, hpath, hs⟩
  · obtain ⟨shape, -, -, hof⟩ := (mem_typeDefs_iff hdefs).mp hd
    obtain ⟨m, -, t, type, ht, htype, rfl⟩ :=
      TypeDef.exists_member_of_mem_attributes (TypeDef.ofShape_eq_some hof).2.2.1 ha
    have ht := Dict.mem_values_of_get? ht
    obtain ⟨s, hpath, hs⟩ := namesTypeOf_of_at? hconfig hrs hdefs ht htype hat
    exact ⟨t, ht, s, rfl, hpath, hs⟩

end Schema

/-- The schema of a service where a queue has settings. -/
def settingsSchema : Schema where
  model := relatedModel "Settings"
  config := {}
  namer := .standard
  index := ⟨[⟨.create, "Queue", createQueue⟩]⟩

/-- The resource of the service. -/
def settingsQueue : Resource where
  names := Naming.standardNames "Queue"
  plural := "Queues"
  operations := { create := some createQueue }
  spec := .ofList
    [("QueueName", ⟨Naming.standardNames "QueueName", .string, some "Text", .member "QueueName"⟩)]
  status := .ofList
    [("Related", ⟨Naming.standardNames "Related", .structure "Settings", some "Settings",
      .member "Related"⟩)]
  primaryIdentifier := some (.member "CreateQueue" "QueueArn")

/-- What creating a queue with settings returns. -/
def settingsResponse : Shape where
  name := "CreateQueueResponse"
  kind := .structure
    [{ name := "Related", target := "Settings" },
      { name := "QueueArn", target := "Text", indirection := true }]
  usedAsOutput := true

/-- The settings of a queue. -/
def settings : Shape where
  name := "Settings"
  kind := .structure [{ name := "Next", target := "Text", indirection := true }]

/-- The type of the settings. -/
def settingsType : TypeDef where
  names := Naming.standardNames "Settings"
  typeName := "Settings"
  attributes := .ofList [("Next", ⟨Naming.standardNames "Next", .string, "Text"⟩)]

/-- The program that takes over a new queue. -/
def settingsProgram : Program :=
  settingsSchema.synthesizer.program .inbound []
    [.copied ((Accessor.parse "ko.Status").field "Related") ((Accessor.parse "resp").field "Related")
        (.structure "Settings" [("Next", .scalar .string)]),
      .handed (arnSlot (.parse "ko.Status")) ((Accessor.parse "resp").field "QueueArn")
        .resourceArn]

theorem builds_settingsProgram :
    settingsProgram.builds =
      [⟨"f0", "Settings", some ⟨"resp", [.member "Related"]⟩, ["Next"]⟩] := by
  have htype : settingsSchema.synthesizer.types.typeName .resource "Settings" = "Settings" := rfl
  have hcamel : (settingsSchema.synthesizer.types.namer.names "Next").camel = "Next" := rfl
  have hvar : Copier.temporary 0 = "f0" := rfl
  have hplace : ((Accessor.parse "resp").field "Related").placeIn .initial =
      ⟨"resp", [.member "Related"]⟩ := rfl
  have hmember : ((Accessor.var "f0").field "Next").memberOf "f0" = ["Next"] := rfl
  simp [settingsProgram, Synthesizer.program, Copier.transfers, Copier.transfer, Copier.copy,
    Copier.bind, Copier.bindMembers, Copier.side, Copier.destName, Copier.sourceName,
    Copier.publish, guarded, Program.builds, Statement.buildsOf, Statement.builds,
    Statement.membersOf, Statement.guardedWrites, Statement.writesOf, Statement.writes, htype,
    hcamel, hvar, hplace, hmember]

/-- A queue and its settings: the program that takes over a new queue builds settings, and these
have a type with the member that is written. -/
theorem nested_types_named_settings :
    Schema.standard (relatedModel "Settings") {} = .ok settingsSchema ∧
      settingsSchema.resources = .ok [settingsQueue] ∧
      settingsSchema.typeDefs = .ok [settingsType] ∧
      settingsSchema.synthesizer.adoptResponse settingsQueue .create "resp" (.status "ko.Status") =
        .ok settingsProgram ∧
      settingsProgram.builds =
        [⟨"f0", "Settings", some ⟨"resp", [.member "Related"]⟩, ["Next"]⟩] ∧
      settingsSchema.Defines [settingsType] settings settingsType ∧
      settingsSchema.NamesTypeOf [settingsQueue] [settingsType] "Settings" settings ∧
      ∃ a ∈ settingsType.attributes.values, a.names.camel = "Next" := by
  have hschema : Schema.standard (relatedModel "Settings") {} = .ok settingsSchema := rfl
  have hrs : settingsSchema.resources = .ok [settingsQueue] :=
    Schema.resources_of_single (show settingsSchema.resourceNames = ["Queue"] from rfl) rfl
  have hdefs : settingsSchema.typeDefs = .ok [settingsType] :=
    Schema.typeDefs_of_single (s := settings) rfl rfl
  have hdefines : settingsSchema.Defines [settingsType] settings settingsType :=
    ⟨List.mem_singleton_self _, rfl, rfl⟩
  have hp : settingsSchema.synthesizer.adoptResponse settingsQueue .create "resp"
      (.status "ko.Status") = .ok settingsProgram := rfl
  have hbuilds := builds_settingsProgram
  obtain ⟨o, reference, output, steps, s, ho, href, houtput, hplace, hpath, hnames, hmembers⟩ :=
    (Schema.nested_types_named hschema rfl hrs hdefs).1 _ (List.mem_singleton_self _) .create
      (.status "ko.Status") "resp" _ hp _ (hbuilds ▸ List.mem_singleton_self _)
  -- the structure that is copied is the one to which the member of the response refers
  have hs : s = settings := by
    cases ho
    cases href
    have hresponse :
        (relatedModel "Settings").shape? "CreateQueueResponse" = some settingsResponse := rfl
    have hsettings : (relatedModel "Settings").shape? "Settings" = some settings := rfl
    obtain rfl : settingsResponse = output := Option.some.inj (hresponse.symm.trans houtput)
    obtain rfl : steps = [.member "Related"] := (congrArg Place.steps (Option.some.inj hplace)).symm
    cases hpath with
    | cons hstep hrest =>
      cases hrest
      cases hstep with
      | member hf hname ht =>
        rcases List.mem_pair.mp hf with rfl | rfl
        · exact Option.some.inj (ht.symm.trans hsettings)
        · exact absurd hname (by decide)
  subst hs
  exact ⟨hschema, hrs, hdefs, hp, hbuilds, hdefines, hnames,
    hmembers _ hdefines "Next" (List.mem_singleton_self _)⟩

/-- The operation that deletes a queue. -/
def deleteQueue : Operation where
  name := "DeleteQueue"
  input := some "DeleteQueueRequest"

/-- A service where creating a queue tells of structures without a type of their own: one that is
called like the kind, an exception, a payload, and one without members. -/
def untypedModel : ServiceModel :=
  ((([{ name := "Text", kind := .scalar .string },
    { name := "CreateQueueRequest", kind := .structure
        [{ name := "QueueName", target := "Text" }] },
    { name := "DeleteQueueRequest", kind := .structure
        [{ name := "QueueName", target := "Text" }] },
    { name := "CreateQueueResponse", kind := .structure
        [{ name := "Source", target := "Queue" }, { name := "Problem", target := "Fault" },
          { name := "Undo", target := "DeleteQueueRequest" }, { name := "Marker", target := "Empty" },
          { name := "QueueArn", target := "Text" }] },
    { name := "Queue", kind := .structure [{ name := "Next", target := "Text" }] },
    { name := "Fault", kind := .structure [{ name := "Message", target := "Text" }],
      exception := true },
    { name := "Empty", kind := .structure [] }].foldl
      ServiceModel.addShape (.new "Queues")).addOperation createQueue).addOperation
        deleteQueue).finish

/-- The schema of the service. -/
def untypedSchema : Schema where
  model := untypedModel
  config := {}
  namer := .standard
  index := ⟨[⟨.create, "Queue", createQueue⟩, ⟨.delete, "Queue", deleteQueue⟩]⟩

/-- The Status field that holds one of the structures. -/
def untypedField (member shape : String) : String × Field :=
  (member, ⟨Naming.standardNames member, .structure shape, some shape, .member member⟩)

/-- The resource of the service. -/
def untypedQueue : Resource where
  names := Naming.standardNames "Queue"
  plural := "Queues"
  operations := { create := some createQueue, delete := some deleteQueue }
  spec := .ofList
    [("QueueName", ⟨Naming.standardNames "QueueName", .string, some "Text", .member "QueueName"⟩)]
  status := .ofList
    [untypedField "Source" "Queue", untypedField "Problem" "Fault",
      untypedField "Undo" "DeleteQueueRequest", untypedField "Marker" "Empty"]
  primaryIdentifier := some (.member "CreateQueue" "QueueArn")

/-- The program that takes over a new queue. -/
def untypedProgram : Program :=
  let status := Accessor.parse "ko.Status"
  let resp := Accessor.parse "resp"
  untypedSchema.synthesizer.program .inbound []
    [.copied (status.field "Source") (resp.field "Source")
        (.structure "Queue" [("Next", .scalar .string)]),
      .copied (status.field "Problem") (resp.field "Problem")
        (.structure "Fault" [("Message", .scalar .string)]),
      .copied (status.field "Undo") (resp.field "Undo")
        (.structure "DeleteQueueRequest" [("QueueName", .scalar .string)]),
      .copied (status.field "Marker") (resp.field "Marker") (.structure "Empty" []),
      .handed (arnSlot status) (resp.field "QueueArn") .resourceArn]

/-- **Some of the types are not defined**: those of structures called like a kind, of exceptions, of
payloads and of structures without members. The program builds one of each, and there is no type
definition at all. -/
theorem nested_types_missing :
    Schema.standard untypedModel {} = .ok untypedSchema ∧
      untypedSchema.resources = .ok [untypedQueue] ∧ untypedSchema.typeDefs = .ok [] ∧
      untypedSchema.synthesizer.adoptResponse untypedQueue .create "resp" (.status "ko.Status") =
        .ok untypedProgram ∧
      untypedProgram.builds.map (·.typeName) =
        ["Queue", "Fault", "DeleteQueueRequest", "Empty"] ∧
      untypedQueue.status.values.map (·.type) =
        [.structure "Empty", .structure "Fault", .structure "Queue",
          .structure "DeleteQueueRequest"] := by
  have htype : ∀ name ∈ ["Queue", "Fault", "DeleteQueueRequest", "Empty"],
      untypedSchema.synthesizer.types.typeName .resource name = name := by decide
  have hdefs : untypedSchema.typeDefs = .ok [] := by
    show Except.ok (List.mergeSort [] _) = Except.ok []
    rw [List.mergeSort_nil]
  refine ⟨rfl, ?_, hdefs, rfl, ?_, rfl⟩
  · exact Schema.resources_of_single
      (show untypedSchema.resourceNames = ["Queue"] from rfl) rfl
  · simp [untypedProgram, Synthesizer.program, Copier.transfers, Copier.transfer, Copier.copy,
      Copier.bind, Copier.bindMembers, Copier.side, Copier.publish, guarded, Program.builds,
      Statement.buildsOf, Statement.builds, htype]

end ResourceGen
