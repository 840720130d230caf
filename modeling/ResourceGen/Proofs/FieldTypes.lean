import ResourceGen.Proofs.Copying
import ResourceGen.Proofs.Partition
import ResourceGen.Proofs.Recursion

/-!
# Exact field types

The type of a shape is found along lists and maps only: a structure ends it, by its name. So what
`TypeResolver.fieldType` answers depends on the shape and the parts of its type, and on nothing
else. It is an error exactly if some list or map among them refers to an undefined shape
(`Dangles`); a part that is without a type does not hide this. Otherwise there is no type exactly
if one of them is of a kind without types, and else the type is the one that goes along with the
shape (`HasFieldType`).

The argument is on `ServiceModel.shapeType`, by induction along the parts. The side comes in last,
when structures get their names, so it never decides whether there is a type.

Results:
* `exists_dangles_of_shapeType`, `shapeType_of_part`: errors come from parts, and all of them do.
* `exists_unsupported_of_shapeType`: a missing type comes from a part.
* `hasFieldType_iff`: types that are found, in any model.
* `Exact`, `exact_fieldType`: all of this for the field type of a shape on a side.
* `Schema.fieldTypes_exact`: and so no field of a resource is left out for lack of a type.
-/

namespace ResourceGen

open Relation (ReflTransGen)

namespace ServiceModel

/-- A list or map refers to a shape that is not defined. The reference is given, and where it
stands. -/
inductive Dangles (m : ServiceModel) (s : Shape) : String → String → Prop where
  | element {element : String} (hkind : s.kind = .list element) (h : m.shape? element = none) :
      Dangles m s element (s.name ++ ".member")
  | key {key value : String} (hkind : s.kind = .map key value) (h : m.shape? key = none) :
      Dangles m s key (s.name ++ ".key")
  | value {key value : String} (hkind : s.kind = .map key value) (h : m.shape? value = none) :
      Dangles m s value (s.name ++ ".value")

/-- No list or map among a shape and the parts of its type refers to an undefined shape. -/
def PartsDefined (m : ServiceModel) (s : Shape) : Prop :=
  ∀ t, ReflTransGen m.TypePart s t → ∀ reference context, ¬ m.Dangles t reference context

/-- Neither a shape nor a part of its type is of a kind without types. -/
def PartsSupported (m : ServiceModel) (s : Shape) : Prop :=
  ∀ t, ReflTransGen m.TypePart s t → ∀ label, t.kind ≠ .unsupported label

variable {m : ServiceModel} {s t : Shape}

theorem resolve_eq_error_iff {reference context : String} {err : GeneratorError} :
    m.resolve reference context = .error err ↔
      m.shape? reference = none ∧ err = .nilShapePointer reference context := by
  unfold resolve
  cases m.shape? reference <;> simp [eq_comm]

/-! ## One level -/

section Level

variable (hacyclic : m.PartsAcyclic)

include hacyclic

/-- The type of a list, if there is no error. -/
theorem shapeType_list_eq_ok {element : String} (hkind : s.kind = .list element)
    {o : Option FieldType} (h : m.shapeType s = .ok o) :
    ∃ e type, m.shape? element = some e ∧ m.shapeType e = .ok type ∧ o = type.map .list := by
  rw [shapeType_eq hacyclic, typeStep, hkind] at h
  obtain ⟨e, he, h⟩ := Result.bind_eq_ok_iff.mp h
  obtain ⟨type, htype, h⟩ := Result.bind_eq_ok_iff.mp h
  exact ⟨e, type, resolve_eq_ok_iff.mp he, htype, (Result.pure_eq_ok_iff.mp h).symm⟩

/-- The type of a map, if there is no error. -/
theorem shapeType_map_eq_ok {key value : String} (hkind : s.kind = .map key value)
    {o : Option FieldType} (h : m.shapeType s = .ok o) :
    ∃ ks vs k v, m.shape? key = some ks ∧ m.shape? value = some vs ∧ m.shapeType ks = .ok k ∧
      m.shapeType vs = .ok v ∧ o = k.bind fun k => v.map (.map k) := by
  rw [shapeType_eq hacyclic, typeStep, hkind] at h
  obtain ⟨ks, hks, h⟩ := Result.bind_eq_ok_iff.mp h
  obtain ⟨vs, hvs, h⟩ := Result.bind_eq_ok_iff.mp h
  obtain ⟨k, hk, h⟩ := Result.bind_eq_ok_iff.mp h
  obtain ⟨v, hv, h⟩ := Result.bind_eq_ok_iff.mp h
  refine ⟨ks, vs, k, v, resolve_eq_ok_iff.mp hks, resolve_eq_ok_iff.mp hvs, hk, hv, ?_⟩
  cases k <;> cases v <;> cases h <;> rfl

/-- What comes to an answer refers to defined shapes. -/
theorem not_dangles_of_shapeType {o : Option FieldType} (h : m.shapeType s = .ok o)
    (reference context : String) : ¬ m.Dangles s reference context := by
  intro hdangles
  cases hdangles with
  | element hkind hnone =>
    obtain ⟨e, -, he, -⟩ := shapeType_list_eq_ok hacyclic hkind h
    rw [hnone] at he
    cases he
  | key hkind hnone =>
    obtain ⟨ks, -, -, -, hks, -⟩ := shapeType_map_eq_ok hacyclic hkind h
    rw [hnone] at hks
    cases hks
  | value hkind hnone =>
    obtain ⟨-, vs, -, -, -, hvs, -⟩ := shapeType_map_eq_ok hacyclic hkind h
    rw [hnone] at hvs
    cases hvs

/-- What comes to an answer has asked for its parts; one without a type leaves the whole without
one. -/
theorem exists_shapeType_of_typePart {o : Option FieldType} (h : m.shapeType s = .ok o)
    (ht : m.TypePart s t) : ∃ part, m.shapeType t = .ok part ∧ (part = none → o = none) := by
  cases ht with
  | held ht =>
    cases ht with
    | element hkind ht =>
      obtain ⟨e, type, he, htype, rfl⟩ := shapeType_list_eq_ok hacyclic hkind h
      cases he.symm.trans ht
      refine ⟨type, htype, fun hnone => ?_⟩
      rw [hnone, Option.map_none]
    | value hkind ht =>
      obtain ⟨ks, vs, k, v, -, hvs, -, hv, rfl⟩ := shapeType_map_eq_ok hacyclic hkind h
      cases hvs.symm.trans ht
      refine ⟨v, hv, fun hnone => ?_⟩
      rw [hnone]
      cases k <;> rfl
  | key hkind ht =>
    obtain ⟨ks, vs, k, v, hks, -, hk, -, rfl⟩ := shapeType_map_eq_ok hacyclic hkind h
    cases hks.symm.trans ht
    refine ⟨k, hk, fun hnone => ?_⟩
    rw [hnone, Option.bind_none]

/-! ## All parts -/

/-- **What comes to an answer has asked for every part.** -/
theorem shapeType_of_part {o : Option FieldType} (h : m.shapeType s = .ok o)
    (ht : ReflTransGen m.TypePart s t) :
    ∃ part, m.shapeType t = .ok part ∧ (part = none → o = none) := by
  induction ht with
  | refl => exact ⟨o, h, id⟩
  | tail _ hpart ih =>
    obtain ⟨type, htype, hnone⟩ := ih
    obtain ⟨part, hpart, hnone'⟩ := exists_shapeType_of_typePart hacyclic htype hpart
    exact ⟨part, hpart, hnone ∘ hnone'⟩

/-- **An error comes from a reference of some part** that leads nowhere. -/
theorem exists_dangles_of_shapeType {err : GeneratorError} (h : m.shapeType s = .error err) :
    ∃ t reference context, ReflTransGen m.TypePart s t ∧ m.Dangles t reference context ∧
      err = .nilShapePointer reference context := by
  induction s using (wellFounded_typePart hacyclic).induction with
  | _ s ih =>
    have hpart {t : Shape} (ht : m.TypePart s t) (h : m.shapeType t = .error err) :
        ∃ t reference context, ReflTransGen m.TypePart s t ∧ m.Dangles t reference context ∧
          err = .nilShapePointer reference context := by
      obtain ⟨u, reference, context, hu, hdangles, rfl⟩ := ih t ht h
      exact ⟨u, reference, context, hu.head ht, hdangles, rfl⟩
    rw [shapeType_eq hacyclic, typeStep] at h
    cases hkind : s.kind with
    | list element =>
      rw [hkind] at h
      rcases Result.bind_eq_error_iff.mp h with h | ⟨e, he, h⟩
      · obtain ⟨hnone, rfl⟩ := resolve_eq_error_iff.mp h
        exact ⟨s, _, _, .refl, .element hkind hnone, rfl⟩
      · rcases Result.bind_eq_error_iff.mp h with h | ⟨type, -, h⟩
        · exact hpart (.held (.element hkind (resolve_eq_ok_iff.mp he))) h
        · cases h
    | map key value =>
      rw [hkind] at h
      rcases Result.bind_eq_error_iff.mp h with h | ⟨ks, hks, h⟩
      · obtain ⟨hnone, rfl⟩ := resolve_eq_error_iff.mp h
        exact ⟨s, _, _, .refl, .key hkind hnone, rfl⟩
      rcases Result.bind_eq_error_iff.mp h with h | ⟨vs, hvs, h⟩
      · obtain ⟨hnone, rfl⟩ := resolve_eq_error_iff.mp h
        exact ⟨s, _, _, .refl, .value hkind hnone, rfl⟩
      rcases Result.bind_eq_error_iff.mp h with h | ⟨k, -, h⟩
      · exact hpart (.key hkind (resolve_eq_ok_iff.mp hks)) h
      rcases Result.bind_eq_error_iff.mp h with h | ⟨v, -, h⟩
      · exact hpart (.held (.value hkind (resolve_eq_ok_iff.mp hvs))) h
      · cases k <;> cases v <;> cases h
    | _ =>
      rw [hkind] at h
      cases h

/-- **A missing type comes from some part** of a kind without types. -/
theorem exists_unsupported_of_shapeType (h : m.shapeType s = .ok none) :
    ∃ t label, ReflTransGen m.TypePart s t ∧ t.kind = .unsupported label := by
  induction s using (wellFounded_typePart hacyclic).induction with
  | _ s ih =>
    have hpart {t : Shape} (ht : m.TypePart s t) (h : m.shapeType t = .ok none) :
        ∃ t label, ReflTransGen m.TypePart s t ∧ t.kind = .unsupported label := by
      obtain ⟨u, label, hu, hlabel⟩ := ih t ht h
      exact ⟨u, label, hu.head ht, hlabel⟩
    cases hkind : s.kind with
    | unsupported label => exact ⟨s, label, .refl, hkind⟩
    | list element =>
      obtain ⟨e, type, he, htype, hmap⟩ := shapeType_list_eq_ok hacyclic hkind h
      obtain rfl := Option.map_eq_none_iff.mp hmap.symm
      exact hpart (.held (.element hkind he)) htype
    | map key value =>
      obtain ⟨ks, vs, k, v, hks, hvs, hk, hv, hmap⟩ := shapeType_map_eq_ok hacyclic hkind h
      cases k with
      | none => exact hpart (.key hkind hks) hk
      | some k =>
        obtain rfl := Option.map_eq_none_iff.mp hmap.symm
        exact hpart (.held (.value hkind hvs)) hv
    | _ =>
      rw [shapeType_eq hacyclic, typeStep, hkind] at h
      cases h

theorem shapeType_unsupported {label : String} (hkind : s.kind = .unsupported label) :
    m.shapeType s = .ok none := by
  rw [shapeType_eq hacyclic, typeStep, hkind]

theorem exists_shapeType_iff : (∃ o, m.shapeType s = .ok o) ↔ m.PartsDefined s := by
  constructor
  · rintro ⟨o, h⟩ t ht reference context
    obtain ⟨part, hpart, -⟩ := shapeType_of_part hacyclic h ht
    exact not_dangles_of_shapeType hacyclic hpart reference context
  · intro hdefined
    cases h : m.shapeType s with
    | ok o => exact ⟨o, rfl⟩
    | error err =>
      obtain ⟨t, reference, context, ht, hdangles, -⟩ := exists_dangles_of_shapeType hacyclic h
      exact absurd hdangles (hdefined t ht reference context)

/-- A shape whose references are defined has a type unless some part is of a kind without. -/
theorem eq_none_iff_of_shapeType {o : Option FieldType} (h : m.shapeType s = .ok o) :
    o = none ↔ ¬ m.PartsSupported s := by
  constructor
  · rintro rfl hsupported
    obtain ⟨t, label, ht, hkind⟩ := exists_unsupported_of_shapeType hacyclic h
    exact hsupported t ht label hkind
  · intro hsupported
    unfold PartsSupported at hsupported
    push Not at hsupported
    obtain ⟨t, ht, label, hkind⟩ := hsupported
    obtain ⟨part, hpart, hnone⟩ := shapeType_of_part hacyclic h ht
    rw [shapeType_unsupported hacyclic hkind] at hpart
    cases hpart
    exact hnone rfl

end Level

end ServiceModel

namespace TypeResolver

/-- **Field types along shapes.** Scalars have their own types, structures the type of their name
on a side, and lists and maps are lists and maps of what they hold. -/
inductive HasFieldType (r : TypeResolver) (side : Side) : Shape → FieldType → Prop where
  | scalar {s : Shape} {type : ScalarType} (hkind : s.kind = .scalar type) :
      HasFieldType r side s (.ofScalar type)
  | structure {s : Shape} {members : List Member} (hkind : s.kind = .structure members) :
      HasFieldType r side s (.structure (r.typeName side s.name))
  | list {s e : Shape} {element : String} {type : FieldType} (hkind : s.kind = .list element)
      (he : r.model.shape? element = some e) (htype : HasFieldType r side e type) :
      HasFieldType r side s (.list type)
  | map {s ks vs : Shape} {key value : String} {k v : FieldType}
      (hkind : s.kind = .map key value) (hks : r.model.shape? key = some ks)
      (hvs : r.model.shape? value = some vs) (hk : HasFieldType r side ks k)
      (hv : HasFieldType r side vs v) : HasFieldType r side s (.map k v)

variable {r : TypeResolver} {side : Side} {s : Shape}

/-- The field type on a side is the type with the names of the side. -/
theorem fieldType_eq_map (r : TypeResolver) (side : Side) (s : Shape) :
    r.fieldType side s =
      (r.model.shapeType s).map fun type => type.map (·.renamed (r.typeName side)) := by
  unfold fieldType
  cases r.model.shapeType s <;> rfl

theorem fieldType_eq_some_iff {type : FieldType} :
    r.fieldType side s = .ok (some type) ↔
      ∃ t, r.model.shapeType s = .ok (some t) ∧ type = t.renamed (r.typeName side) := by
  rw [fieldType_eq_map, Result.map_eq_ok_iff]
  constructor
  · rintro ⟨o, ho, hmap⟩
    obtain ⟨t, rfl, rfl⟩ := Option.map_eq_some_iff.mp hmap
    exact ⟨t, ho, rfl⟩
  · rintro ⟨t, ht, rfl⟩
    exact ⟨some t, ht, rfl⟩

/-- A type that is found within some number of steps goes along with the shape. -/
theorem hasFieldType_of_typeWithin {d : Nat} {t : FieldType}
    (h : r.model.typeWithin d s = .ok (some t)) :
    r.HasFieldType side s (t.renamed (r.typeName side)) := by
  induction d generalizing s t with
  | zero => cases h
  | succ d ih =>
    cases hkind : s.kind with
    | list element =>
      obtain ⟨e, t, he, ht, rfl⟩ := (ServiceModel.typeWithin_list_iff hkind).mp h
      exact .list hkind he (ih ht)
    | map key value =>
      obtain ⟨ks, vs, k, v, hks, hvs, hk, hv, rfl⟩ := (ServiceModel.typeWithin_map_iff hkind).mp h
      exact .map hkind hks hvs (ih hk) (ih hv)
    | scalar type =>
      rw [ServiceModel.typeWithin, hkind] at h
      cases h
      have hsame : (FieldType.ofScalar type).renamed (r.typeName side) = .ofScalar type := by
        cases type <;> rfl
      rw [hsame]
      exact .scalar hkind
    | «structure» members =>
      rw [ServiceModel.typeWithin, hkind] at h
      cases h
      exact .structure hkind
    | unsupported label =>
      rw [ServiceModel.typeWithin, hkind] at h
      cases h

/-- A type that goes along with the shape is found. -/
theorem HasFieldType.exists_shapeType {type : FieldType} (h : r.HasFieldType side s type) :
    ∃ t, r.model.shapeType s = .ok (some t) ∧ type = t.renamed (r.typeName side) := by
  induction h with
  | @scalar s type hkind =>
    refine ⟨.ofScalar type, ?_, by cases type <;> rfl⟩
    rw [ServiceModel.shapeType, ServiceModel.typeWithin, hkind]
  | @«structure» s members hkind =>
    refine ⟨.structure s.name, ?_, rfl⟩
    rw [ServiceModel.shapeType, ServiceModel.typeWithin, hkind]
  | list hkind he _ ih =>
    obtain ⟨t, ht, rfl⟩ := ih
    exact ⟨.list t, ServiceModel.shapeType_eq_some_iff.mpr
      ⟨_, (ServiceModel.typeWithin_list_iff hkind).mpr ⟨_, t, he, ht, rfl⟩⟩, rfl⟩
  | map hkind hks hvs _ _ ihk ihv =>
    obtain ⟨k, hk, rfl⟩ := ihk
    obtain ⟨v, hv, rfl⟩ := ihv
    exact ⟨.map k v, ServiceModel.shapeType_eq_some_iff.mpr
      ⟨_, (ServiceModel.typeWithin_map_iff hkind).mpr ⟨_, _, k, v, hks, hvs, hk, hv, rfl⟩⟩, rfl⟩

/-- **The types that are found** are those that go along with the shape, in any model. -/
theorem hasFieldType_iff {type : FieldType} :
    r.HasFieldType side s type ↔ r.fieldType side s = .ok (some type) := by
  rw [fieldType_eq_some_iff]
  constructor
  · exact HasFieldType.exists_shapeType
  · rintro ⟨t, ht, rfl⟩
    exact hasFieldType_of_typeWithin ht

/-- What the field type of a shape on a side is: an error, none or a type. -/
structure Exact (r : TypeResolver) (side : Side) (s : Shape) : Prop where
  error_iff : (∃ err, r.fieldType side s = .error err) ↔ ¬ r.model.PartsDefined s
  /-- An error names a reference that leads nowhere. -/
  fault : ∀ err, r.fieldType side s = .error err →
    ∃ t reference context, ReflTransGen r.model.TypePart s t ∧
      r.model.Dangles t reference context ∧ err = .nilShapePointer reference context
  none_iff : r.fieldType side s = .ok none ↔
    r.model.PartsDefined s ∧ ¬ r.model.PartsSupported s
  some_iff : (∃ type, r.fieldType side s = .ok (some type)) ↔
    r.model.PartsDefined s ∧ r.model.PartsSupported s
  type_iff : ∀ type, r.fieldType side s = .ok (some type) ↔ r.HasFieldType side s type

/-- The three answers, by the shape and the parts of its type. -/
theorem fieldType_cases (hacyclic : r.model.PartsAcyclic) (side : Side) (s : Shape) :
    (¬ r.model.PartsDefined s ∧ ∃ err, r.fieldType side s = .error err) ∨
      (r.model.PartsDefined s ∧ ¬ r.model.PartsSupported s ∧ r.fieldType side s = .ok none) ∨
      (r.model.PartsDefined s ∧ r.model.PartsSupported s ∧
        ∃ type, r.fieldType side s = .ok (some type)) := by
  have hdefined := ServiceModel.exists_shapeType_iff hacyclic (s := s)
  rw [fieldType_eq_map]
  cases hs : r.model.shapeType s with
  | error err =>
    rw [hs] at hdefined
    exact Or.inl ⟨fun h => by simpa using hdefined.mpr h, err, rfl⟩
  | ok o =>
    have hdefined : r.model.PartsDefined s := hdefined.mp ⟨o, hs⟩
    have hnone := ServiceModel.eq_none_iff_of_shapeType hacyclic hs
    cases o with
    | none => exact Or.inr (Or.inl ⟨hdefined, hnone.mp rfl, rfl⟩)
    | some type =>
      have hsupported : r.model.PartsSupported s := by
        by_contra h
        cases hnone.mpr h
      exact Or.inr (Or.inr ⟨hdefined, hsupported, _, rfl⟩)

/-- An error of a field type names a reference that leads nowhere. -/
theorem exists_dangles_of_fieldType (hacyclic : r.model.PartsAcyclic) {err : GeneratorError}
    (h : r.fieldType side s = .error err) :
    ∃ t reference context, ReflTransGen r.model.TypePart s t ∧
      r.model.Dangles t reference context ∧ err = .nilShapePointer reference context := by
  rw [fieldType_eq_map] at h
  cases hs : r.model.shapeType s with
  | ok o =>
    rw [hs] at h
    cases h
  | error err' =>
    rw [hs] at h
    cases h
    exact ServiceModel.exists_dangles_of_shapeType hacyclic hs

/-- **Field types are exact** where no list or map contains itself. -/
theorem exact_fieldType (hacyclic : r.model.PartsAcyclic) (side : Side) (s : Shape) :
    r.Exact side s where
  error_iff := by
    rcases fieldType_cases hacyclic side s with ⟨h, herr⟩ | ⟨h, -, hok⟩ | ⟨h, -, type, hok⟩
    · simp [h, herr]
    · simp [h, hok]
    · simp [h, hok]
  fault := fun _ h => exists_dangles_of_fieldType hacyclic h
  none_iff := by
    rcases fieldType_cases hacyclic side s with ⟨h, err, herr⟩ | ⟨h, hs, hok⟩ | ⟨h, hs, type, hok⟩
    · simp [h, herr]
    · simp [h, hs, hok]
    · simp [hs, hok]
  some_iff := by
    rcases fieldType_cases hacyclic side s with ⟨h, err, herr⟩ | ⟨h, hs, hok⟩ | ⟨h, hs, type, hok⟩
    · simp [h, herr]
    · simp [hs, hok]
    · simp [h, hs, hok]
  type_iff := fun _ => hasFieldType_iff.symm

/-- Whether a shape has a field type is the same on both sides. -/
theorem isSome_fieldType (r : TypeResolver) (side : Side) (s : Shape) :
    (r.fieldType side s).map (·.isSome) = (r.model.shapeType s).map (·.isSome) := by
  rw [fieldType_eq_map]
  cases r.model.shapeType s with
  | error err => rfl
  | ok o => cases o <;> rfl

end TypeResolver

/-- What copies a value of a shape with a field type is a transfer, whatever the side. -/
theorem Synthesizer.ne_none_of_copyOf {s : Synthesizer} {side : Side} {shape : Shape}
    {type : FieldType} (htype : s.types.fieldType side shape = .ok (some type))
    {path : List String} {dest source : Accessor} {t : Option Transfer}
    (h : s.copyOf path dest source shape = .ok t) : t ≠ none := by
  rintro rfl
  have htyped : s.model.isTyped shape = true :=
    (Copier.isTyped_iff_fieldType s.types side shape).mpr ⟨type, htype⟩
  rcases copyOf_cases h with ⟨hno, -⟩ | ⟨-, l, -, hsome⟩
  · rw [htyped] at hno
    cases hno
  · cases hsome

namespace Schema

/-- A payload member that became a field of a resource: its shape has the type of the field, and
a type on the side of the service as well, and a copy of its value is never left out. -/
structure MemberOf (schema : Schema) (f : Field) (m : Member) (shape : Shape) : Prop where
  source : f.source = .member m.name
  defined : schema.model.shape? m.target = some shape
  resourceType : schema.types.fieldType .resource shape = .ok (some f.type)
  serviceType : ∃ type, schema.types.fieldType .service shape = .ok (some type)
  copied : ∀ path dest source t, schema.synthesizer.copyOf path dest source shape = .ok t →
    t ≠ none

/-- A member that gives a field is copied. -/
theorem exists_memberOf {schema : Schema} {m : Member} {key : String} {f : Field}
    (h : schema.derivation.IsFieldOf m key f) : ∃ shape, schema.MemberOf f m shape := by
  obtain ⟨shape, type, hshape, htype, rfl⟩ := h
  have htyped := (Copier.isTyped_iff_fieldType schema.types .resource shape).mpr ⟨type, htype⟩
  exact ⟨shape, rfl, hshape, htype, (Copier.isTyped_iff_fieldType _ .service shape).mp htyped,
    fun _ _ _ _ hcopy => Synthesizer.ne_none_of_copyOf (s := schema.synthesizer) htype hcopy⟩

/-- **Field types are exact, and the same shapes have them on both sides.** In a model where no list
or map contains itself, every resolver gives every shape the type that goes along with it; whether
there is one does not depend on the side. So every field of a resource that is no key of the
attribute map comes from a member of a Create payload that is copied wherever its value is. -/
theorem fieldTypes_exact [PatternEngine] {model : ServiceModel} (hacyclic : model.PartsAcyclic) :
    (∀ r : TypeResolver, r.model = model → ∀ s,
      (∀ side, r.Exact side s) ∧
        (r.fieldType .resource s).map (·.isSome) = (r.fieldType .service s).map (·.isSome)) ∧
      ∀ (config : Config) (classifier : Classifier) (schema : Schema) (rs : List Resource),
        build model config .standard classifier = .ok schema → schema.resources = .ok rs →
        ∀ r ∈ rs, ∃ create reference input outputs, r.operations.create = some create ∧
          create.input = some reference ∧ model.shape? reference = some input ∧
          schema.derivation.createdMembers create = .ok outputs ∧
          (∀ f ∈ r.spec.values, f.isAttribute = false →
            ∃ m ∈ input.members, ∃ shape, schema.MemberOf f m shape) ∧
          ∀ f ∈ r.status.values, f.isAttribute = false →
            ∃ m ∈ outputs, ∃ shape, schema.MemberOf f m shape := by
  refine ⟨fun r hr s => ⟨fun side => ?_, ?_⟩, fun config classifier schema rs hschema hrs r hr => ?_⟩
  · exact TypeResolver.exact_fieldType (hr ▸ hacyclic) side s
  · rw [TypeResolver.isSome_fieldType, TypeResolver.isSome_fieldType]
  · obtain ⟨create, reference, input, outputs, hcreate, href, hinput, houtputs, hpartition⟩ :=
      resources_partition hschema hrs hr
    refine ⟨create, reference, input, outputs, hcreate, href, hinput, houtputs, ?_, ?_⟩
    · intro f hf hmember
      obtain ⟨key, hkey⟩ := Dict.exists_get?_of_mem_values hf
      rcases hpartition.spec_origin key f hkey with ⟨m, hm, -, -, hfield⟩ | ⟨-, rfl⟩
      · exact ⟨m, hm, exists_memberOf hfield⟩
      · cases hmember
    · intro f hf hmember
      obtain ⟨key, hkey⟩ := Dict.exists_get?_of_mem_values hf
      rcases hpartition.status_origin key f hkey with ⟨m, hm, -, -, -, hfield⟩ | ⟨-, rfl⟩
      · exact ⟨m, hm, exists_memberOf hfield⟩
      · cases hmember

/-- The map of tags of a queue has the same type on both sides, and the tags are copied. -/
theorem fieldTypes_exact_queue :
    queueSchema.types.fieldType .service { name := "TextMap", kind := .map "Text" "Text" } =
        .ok (some (.map .string .string)) ∧
      ∃ f ∈ queue.spec.values, ∃ m ∈ createQueueRequest.members, ∃ shape,
        f.names.raw = "tags" ∧ queueSchema.MemberOf f m shape := by
  have hacyclic : queueModel.PartsAcyclic :=
    ServiceModel.partsAcyclic_of_size
      (fun s => if s.kind = .map "Text" "Text" then 1 else 0) (by decide)
  obtain ⟨hexact, hfields⟩ := fieldTypes_exact hacyclic
  have hkind : Shape.kind { name := "Text", kind := .scalar .string } = .scalar .string := rfl
  have htext : queueSchema.types.HasFieldType .service { name := "Text", kind := .scalar .string }
      .string := .scalar hkind
  refine ⟨((hexact queueSchema.types rfl _).1 .service).type_iff _ |>.mpr
    (.map rfl rfl rfl htext htext), ?_⟩
  obtain ⟨create, reference, input, outputs, hcreate, href, hinput, -, hspec, -⟩ :=
    hfields queueConfig _ queueSchema [queue] build_queueSchema resources_queueSchema queue
      List.mem_cons_self
  cases hcreate
  cases href
  cases hinput
  obtain ⟨f, hf, hattribute, hraw⟩ : ∃ f ∈ queue.spec.values, f.isAttribute = false ∧
      f.names.raw = "tags" := by decide
  obtain ⟨m, hm, shape, hmember⟩ := hspec f hf hattribute
  exact ⟨f, hf, m, hm, shape, hraw, hmember⟩

end Schema

end ResourceGen
