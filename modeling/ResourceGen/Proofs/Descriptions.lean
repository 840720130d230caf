import ResourceGen.ApiDocument.Service
import ResourceGen.Proofs.Dictionary
import ResourceGen.SmithyDocument.Service

/-!
# Two descriptions of one service

A service can be described by its API or by a Smithy model. `SmithyDocument.Describes` says when a
Smithy model has the shapes and the operations of an API description: under ids in one namespace,
with flags and documentation as traits. `SmithyDocument.ofApi` writes such a model.

Results:
* `localName_shapeId`, `inPrelude_shapeId`: names are read off ids, and the prelude stays apart.
* `sameShape_ofShape`, `sameOperation_ofOperation`: a shape and an operation are written the same.
* `describes_ofApi`: the model that is written describes the service.
-/
namespace ResourceGen

open Json (Value)

/-! ## Ids -/

namespace SmithyDocument

/-- The id of a name in a namespace. -/
def shapeId (ns name : String) : String := ns ++ "#" ++ name

variable {ns name : String}

theorem toList_shapeId : (shapeId ns name).toList = ns.toList ++ '#' :: name.toList := by
  rw [shapeId, String.toList_append, String.toList_append]
  simp

/-- What stands before the first separator. -/
theorem takeWhile_append_hash {l : List Char} (h : '#' ∉ l) (r : List Char) :
    (l ++ '#' :: r).takeWhile (· != '#') = l := by
  have hall : ∀ c ∈ l, (c != '#') = true := by
    intro c hc
    rw [bne_iff_ne]
    rintro rfl
    exact h hc
  rw [List.takeWhile_append_of_pos hall, List.takeWhile_cons_of_neg (by decide), List.append_nil]

/-- The name is what stands behind the namespace. -/
theorem localName_shapeId (h : '#' ∉ name.toList) : localName (shapeId ns name) = name := by
  have hreverse : '#' ∉ name.toList.reverse := fun hc => h (List.mem_reverse.mp hc)
  rw [localName, toList_shapeId, List.reverse_append, List.reverse_cons, List.append_assoc,
    List.singleton_append, takeWhile_append_hash hreverse, List.reverse_reverse,
    String.ofList_toList]

theorem shapeId_inj {name' : String} : shapeId ns name = shapeId ns name' ↔ name = name' := by
  rw [← String.toList_inj, toList_shapeId, toList_shapeId, List.append_cancel_left_eq,
    List.cons_inj_right, String.toList_inj]

/-- Ids of another namespace do not belong to the prelude. -/
theorem inPrelude_shapeId (hns : '#' ∉ ns.toList) (hne : ns ≠ "smithy.api") :
    inPrelude (shapeId ns name) = false := by
  rw [Bool.eq_false_iff]
  intro h
  obtain ⟨rest, hrest⟩ := List.isPrefixOf_iff_prefix.mp h
  have hsplit : "smithy.api".toList ++ '#' :: rest = ns.toList ++ '#' :: name.toList := by
    rw [← toList_shapeId, ← hrest]
    rfl
  -- either namespace is what stands before the first separator
  have heq := congrArg (List.takeWhile (· != '#')) hsplit
  rw [takeWhile_append_hash (by decide), takeWhile_append_hash hns, String.toList_inj] at heq
  exact hne heq.symm

theorem nonUnit_shapeId (hns : '#' ∉ ns.toList) (hne : ns ≠ "smithy.api") :
    nonUnit (some (shapeId ns name)) = some (shapeId ns name) := by
  have hunit : shapeId ns name ≠ unitId := by
    intro h
    have hprelude : inPrelude (shapeId ns name) = true := by
      rw [h]
      decide
    rw [inPrelude_shapeId hns hne] at hprelude
    cases hprelude
  exact Option.filter_some_pos (decide_eq_true hunit)

end SmithyDocument

/-! ## What the descriptions have in common -/

namespace ScalarType

/-- The Smithy type of the same label. -/
def smithy : ScalarType → SmithyScalar
  | string => .string
  | integer => .integer
  | long => .long
  | float => .float
  | double => .double
  | boolean => .boolean
  | timestamp => .timestamp
  | blob => .blob

theorem scalarKind_smithy (t : ScalarType) : SmithyDocument.scalarKind t.smithy = .scalar t := by
  cases t <;> rfl

end ScalarType

namespace SmithyDocument

variable (ns : String)

/-- The traits document what is documented. -/
def Documented (doc : Option String) (t : Traits) : Prop :=
  t.get? "smithy.api#documentation" = doc.map .str

/-- A reference of an operation, or none: then it is absent or stands for nothing. -/
def SameReference : Option ApiReference → Option String → Prop
  | some r, id => id = some (shapeId ns r.shape)
  | none, id => id = none ∨ id = some unitId

/-- A member refers to the same shape with the same flag and documentation. -/
structure SameMember (sh : ApiShape) (name : String) (r : ApiReference) (m : SmithyMember) :
    Prop where
  target : m.target = shapeId ns r.shape
  required : m.traits.contains "smithy.api#required" = sh.required.contains name
  documented : Documented r.documentation m.traits

/-- A shape is of the same type and refers to the same shapes. -/
inductive SameKind (sh : ApiShape) : SmithyShape → Prop
  | ofStructure {members : Dict SmithyMember} {t : Traits} (type : sh.type = "structure")
    (here : ∀ name r, sh.members.get? name = some r →
      ∃ m, members.get? name = some m ∧ SameMember ns sh name r m)
    (there : ∀ name m, members.get? name = some m → sh.members.contains name = true) :
    SameKind sh (.structure members t)
  | ofList {r : ApiReference} {t : Traits} (type : sh.type = "list") (member : sh.member = some r) :
    SameKind sh (.list (shapeId ns r.shape) t)
  | ofMap {k v : ApiReference} {t : Traits} (type : sh.type = "map") (key : sh.key = some k)
    (value : sh.value = some v) : SameKind sh (.map (shapeId ns k.shape) (shapeId ns v.shape) t)
  | ofScalar {type : ScalarType} {t : Traits} (label : sh.type = type.label) :
    SameKind sh (.scalar type.smithy t)

/-- A shape is the same, and it is an error where it is an exception or a fault. -/
structure SameShape (sh : ApiShape) (s : SmithyShape) : Prop where
  kind : SameKind ns sh s
  error : ∀ t, s.traits? = some t →
    t.contains "smithy.api#error" = (sh.exception || sh.fault)
  documented : ∀ t, s.traits? = some t → Documented sh.documentation t

/-- An operation has the same input, output and errors. -/
inductive SameOperation (o : ApiOperation) : SmithyShape → Prop
  | intro {input output : Option String} {errors : List String} {t : Traits}
    (input_same : SameReference ns o.input input) (output_same : SameReference ns o.output output)
    (errors_same : ∀ id, id ∈ errors ↔ ∃ r ∈ o.errors, id = shapeId ns r.shape)
    (documented : Documented o.documentation t) : SameOperation o (.operation input output errors t)

end SmithyDocument

namespace ApiOperation

/-- The names of the shapes that an operation refers to. -/
def referenceNames (o : ApiOperation) : List String :=
  (o.input.toList ++ o.output.toList ++ o.errors).map (·.shape)

theorem mem_referenceNames {o : ApiOperation} {r : ApiReference}
    (h : o.input = some r ∨ o.output = some r ∨ r ∈ o.errors) : r.shape ∈ o.referenceNames := by
  refine List.mem_map_of_mem ?_
  rw [List.mem_append, List.mem_append, Option.mem_toList, Option.mem_toList, or_assoc]
  exact h

end ApiOperation

namespace ApiShape

/-- A shape of a type that both formats have, with the references that it needs. -/
def isShared (s : ApiShape) : Bool :=
  match s.type with
  | "structure" => true
  | "list" => s.member.isSome
  | "map" => s.key.isSome && s.value.isSome
  | label => (ScalarType.ofLabel? label).isSome

/-- The names of the shapes that a shape refers to. -/
def referenceNames (s : ApiShape) : List String :=
  (s.members.values ++ s.member.toList ++ s.key.toList ++ s.value.toList).map (·.shape)

theorem mem_referenceNames {s : ApiShape} {r : ApiReference}
    (h : r ∈ s.members.values ∨ s.member = some r ∨ s.key = some r ∨ s.value = some r) :
    r.shape ∈ s.referenceNames := by
  refine List.mem_map_of_mem ?_
  rw [List.mem_append, List.mem_append, List.mem_append, Option.mem_toList, Option.mem_toList,
    Option.mem_toList, or_assoc, or_assoc]
  exact h

end ApiShape

namespace ApiDocument

/-- The names of operations and shapes. -/
def names (d : ApiDocument) : List String := d.operations.keys ++ d.shapes.keys

/-- The names that operations and shapes refer to. -/
def referenceNames (d : ApiDocument) : List String :=
  d.operations.values.flatMap (·.referenceNames) ++ d.shapes.values.flatMap (·.referenceNames)

end ApiDocument

namespace SmithyDocument

/-- **A Smithy model describes the same service as an API description**, under ids of one
namespace: it has a service with the operations and the identifier, the operations, the shapes, and
nothing else. -/
structure Describes (s : SmithyDocument) (ns service : String) (d : ApiDocument) : Prop where
  has_service : ∃ operations t,
    s.shapes.get? (shapeId ns service) =
        some (.service d.metadata.apiVersion operations [] t) ∧
      (∀ id, id ∈ operations ↔ ∃ name ∈ d.operations.keys, id = shapeId ns name) ∧
      (t.get? "aws.api#service").bind (Value.field? · "sdkId") = d.serviceId?.map .str
  has_operation : ∀ name o, d.operations.get? name = some o →
    ∃ t, s.shapes.get? (shapeId ns name) = some t ∧ SameOperation ns o t
  has_shape : ∀ name sh, d.shapes.get? name = some sh →
    ∃ t, s.shapes.get? (shapeId ns name) = some t ∧ SameShape ns sh t
  only : ∀ id t, s.shapes.get? id = some t → ∃ name ∈ service :: d.names, id = shapeId ns name

end SmithyDocument

/-- The names of a description can be told from ids in a namespace of its own. -/
structure ApiDocument.NamesFit (d : ApiDocument) (ns : String) : Prop where
  foreign : ns ≠ "smithy.api"
  namespace_plain : '#' ∉ ns.toList
  plain : ∀ name ∈ d.names ++ d.referenceNames, '#' ∉ name.toList

namespace ApiDocument.NamesFit

variable {d : ApiDocument} {ns name : String}

theorem operation (h : d.NamesFit ns) {o : ApiOperation} (ho : d.operations.get? name = some o) :
    '#' ∉ name.toList ∧ ∀ ref ∈ o.referenceNames, '#' ∉ ref.toList := by
  refine ⟨h.plain name (List.mem_append_left _ (List.mem_append_left _ ?_)), fun ref href =>
    h.plain ref (List.mem_append_right _ (List.mem_append_left _ ?_))⟩
  · exact Dict.mem_keys_iff.mpr ⟨o, ho⟩
  · exact List.mem_flatMap.mpr ⟨o, Dict.mem_values_of_get? ho, href⟩

theorem shape (h : d.NamesFit ns) {sh : ApiShape} (hsh : d.shapes.get? name = some sh) :
    '#' ∉ name.toList ∧ ∀ ref ∈ sh.referenceNames, '#' ∉ ref.toList := by
  refine ⟨h.plain name (List.mem_append_left _ (List.mem_append_right _ ?_)), fun ref href =>
    h.plain ref (List.mem_append_right _ (List.mem_append_right _ ?_))⟩
  · exact Dict.mem_keys_iff.mpr ⟨sh, hsh⟩
  · exact List.mem_flatMap.mpr ⟨sh, Dict.mem_values_of_get? hsh, href⟩

end ApiDocument.NamesFit

/-! ## The Smithy model of a description -/

namespace SmithyDocument

/-- Traits with one flag, if it is set. -/
def flagTraits (flag : String) (isSet : Bool) : Traits :=
  if isSet then Dict.empty.insert flag (.obj []) else .empty

/-- Traits with a documentation, if there is one. -/
def documentTraits (doc : Option String) (t : Traits) : Traits :=
  match doc with
  | some text => t.insert "smithy.api#documentation" (.str text)
  | none => t

/-- The Smithy member of an API member. -/
def ofMember (ns : String) (sh : ApiShape) (name : String) (r : ApiReference) : SmithyMember where
  target := shapeId ns r.shape
  traits := documentTraits r.documentation
    (flagTraits "smithy.api#required" (sh.required.contains name))

/-- The traits of an API shape. -/
def traitsOf (sh : ApiShape) : Traits :=
  documentTraits sh.documentation (flagTraits "smithy.api#error" (sh.exception || sh.fault))

/-- The Smithy shape of an API shape. -/
def ofShape (ns : String) (sh : ApiShape) : SmithyShape :=
  match sh.type with
  | "structure" => .structure (sh.members.mapValues (ofMember ns sh)) (traitsOf sh)
  | "list" =>
    match sh.member with
    | some r => .list (shapeId ns r.shape) (traitsOf sh)
    | none => .other
  | "map" =>
    match sh.key, sh.value with
    | some k, some v => .map (shapeId ns k.shape) (shapeId ns v.shape) (traitsOf sh)
    | _, _ => .other
  | label =>
    match ScalarType.ofLabel? label with
    | some type => .scalar type.smithy (traitsOf sh)
    | none => .other

/-- The Smithy operation of an API operation. -/
def ofOperation (ns : String) (o : ApiOperation) : SmithyShape :=
  .operation (o.input.map fun r => shapeId ns r.shape) (o.output.map fun r => shapeId ns r.shape)
    (o.errors.map fun r => shapeId ns r.shape) (documentTraits o.documentation .empty)

/-- The Smithy service of an API description. -/
def ofMetadata (ns : String) (d : ApiDocument) : SmithyShape :=
  .service d.metadata.apiVersion (d.operations.keys.map (shapeId ns)) []
    (Dict.empty.insert "aws.api#service"
      (.obj ((d.serviceId?.map fun id => ("sdkId", Value.str id)).toList)))

/-- What a Smithy model holds by name for an API description. -/
def namedShapes (ns service : String) (d : ApiDocument) : List (String × SmithyShape) :=
  (service, ofMetadata ns d) ::
    (d.operations.entries.map (fun e => (e.1, ofOperation ns e.2)) ++
      d.shapes.entries.map fun e => (e.1, ofShape ns e.2))

/-- **The Smithy model of an API description** in a namespace. -/
def ofApi (ns service : String) (d : ApiDocument) : SmithyDocument where
  smithy := "2.0"
  shapes := .ofList ((namedShapes ns service d).map fun e => (shapeId ns e.1, e.2))
  metadata := .empty

/-! ## The model describes the service -/

theorem documented_documentTraits {t : Traits} (h : t.get? "smithy.api#documentation" = none)
    (doc : Option String) : Documented doc (documentTraits doc t) := by
  cases doc with
  | none => exact h
  | some text => exact Dict.get?_insert_self _ _ _

theorem get?_flagTraits {flag key : String} (h : key ≠ flag) (isSet : Bool) :
    (flagTraits flag isSet).get? key = none := by
  cases isSet with
  | false => rfl
  | true => exact Dict.get?_insert_of_ne h _ _

theorem contains_flags {flag : String} (h : flag ≠ "smithy.api#documentation")
    (doc : Option String) (isSet : Bool) :
    (documentTraits doc (flagTraits flag isSet)).contains flag = isSet := by
  have hflag : (flagTraits flag isSet).contains flag = isSet := by
    cases isSet with
    | false => rfl
    | true => exact congrArg Option.isSome (Dict.get?_insert_self _ _ _)
  cases doc with
  | none => exact hflag
  | some text =>
    rw [documentTraits, Dict.contains_insert, decide_eq_false h, Bool.false_or, hflag]

theorem sameMember_ofMember (ns : String) (sh : ApiShape) (name : String) (r : ApiReference) :
    SameMember ns sh name r (ofMember ns sh name r) where
  target := rfl
  required := contains_flags (by decide) _ _
  documented := documented_documentTraits (get?_flagTraits (by decide) _) _

theorem label_of_ofLabel? {label : String} {t : ScalarType}
    (h : ScalarType.ofLabel? label = some t) : label = t.label := by
  unfold ScalarType.ofLabel? at h
  split at h <;> cases h <;> rfl

theorem sameKind_ofShape (ns : String) {sh : ApiShape} (h : sh.isShared = true) :
    SameKind ns sh (ofShape ns sh) ∧
      (ofShape ns sh).traits? = some (traitsOf sh) := by
  unfold ApiShape.isShared at h
  unfold ofShape
  split at h
  · rename_i htype
    refine ⟨.ofStructure htype (fun name r hr => ?_) (fun name m hm => ?_), rfl⟩
    · rw [Dict.get?_mapValues, hr]
      exact ⟨_, rfl, sameMember_ofMember ns sh name r⟩
    · rw [Dict.get?_mapValues] at hm
      obtain ⟨r, hr, -⟩ := Option.map_eq_some_iff.mp hm
      exact Option.isSome_iff_exists.mpr ⟨r, hr⟩
  · rename_i htype
    obtain ⟨r, hr⟩ := Option.isSome_iff_exists.mp h
    simp only [hr]
    exact ⟨.ofList htype hr, rfl⟩
  · rename_i htype
    obtain ⟨hk, hv⟩ := Bool.and_eq_true_iff.mp h
    obtain ⟨k, hk⟩ := Option.isSome_iff_exists.mp hk
    obtain ⟨v, hv⟩ := Option.isSome_iff_exists.mp hv
    simp only [hk, hv]
    exact ⟨.ofMap htype hk hv, rfl⟩
  · obtain ⟨type, htype⟩ := Option.isSome_iff_exists.mp h
    have hlabel := label_of_ofLabel? htype
    have hscalar : SameKind ns sh (.scalar type.smithy (traitsOf sh)) := .ofScalar hlabel
    rw [hlabel]
    cases type <;> exact ⟨hscalar, rfl⟩

theorem sameShape_ofShape {ns : String} {sh : ApiShape} (h : sh.isShared = true) :
    SameShape ns sh (ofShape ns sh) := by
  obtain ⟨hkind, htraits⟩ := sameKind_ofShape ns h
  refine ⟨hkind, fun t ht => ?_, fun t ht => ?_⟩
  · rw [htraits] at ht
    cases ht
    exact contains_flags (by decide) _ _
  · rw [htraits] at ht
    cases ht
    exact documented_documentTraits (get?_flagTraits (by decide) _) _

theorem sameOperation_ofOperation (ns : String) (o : ApiOperation) :
    SameOperation ns o (ofOperation ns o) := by
  have hsame (r : Option ApiReference) :
      SameReference ns r (r.map fun r => shapeId ns r.shape) := by
    cases r with
    | none => exact Or.inl rfl
    | some r => rfl
  refine .intro (hsame _) (hsame _) (fun id => ?_) (documented_documentTraits rfl _)
  rw [List.mem_map]
  exact exists_congr fun r => and_congr_right fun _ => eq_comm

theorem map_fst_namedShapes (ns service : String) (d : ApiDocument) :
    (namedShapes ns service d).map Prod.fst = service :: d.names := by
  rw [namedShapes, List.map_cons, List.map_append, List.map_map, List.map_map]
  rfl

theorem get?_ofApi {ns service : String} {d : ApiDocument} (hnames : (service :: d.names).Nodup)
    {id : String} {t : SmithyShape} :
    (ofApi ns service d).shapes.get? id = some t ↔
      ∃ name, (name, t) ∈ namedShapes ns service d ∧ id = shapeId ns name := by
  have hids : (((namedShapes ns service d).map fun e => (shapeId ns e.1, e.2)).map
      Prod.fst).Nodup := by
    have hmap : ((namedShapes ns service d).map fun e => (shapeId ns e.1, e.2)).map Prod.fst =
        (service :: d.names).map (shapeId ns) := by
      rw [← map_fst_namedShapes ns service d, List.map_map, List.map_map]
      rfl
    rw [hmap]
    exact hnames.map fun a b h => shapeId_inj.mp h
  show (Dict.ofList _).get? id = some t ↔ _
  rw [Dict.get?_ofList_iff hids, List.mem_map]
  constructor
  · rintro ⟨⟨name, t'⟩, hmem, heq⟩
    cases heq
    exact ⟨name, hmem, rfl⟩
  · rintro ⟨name, hmem, rfl⟩
    exact ⟨(name, t), hmem, rfl⟩

/-- **Every API description has a Smithy model that describes its service**, if its names are
distinct and its shapes are of types that both formats have. -/
theorem describes_ofApi {ns service : String} {d : ApiDocument}
    (hnames : (service :: d.names).Nodup) (hshapes : ∀ sh ∈ d.shapes.values, sh.isShared = true) :
    (ofApi ns service d).Describes ns service d where
  has_service := by
    refine ⟨_, _, (get?_ofApi hnames).mpr ⟨service, List.mem_cons_self, rfl⟩, fun id => ?_, ?_⟩
    · rw [List.mem_map]
      exact exists_congr fun name => and_congr_right fun _ => eq_comm
    · rw [Dict.get?_insert_self]
      cases d.serviceId? <;> rfl
  has_operation name o ho := by
    refine ⟨_, (get?_ofApi hnames).mpr ⟨name, List.mem_cons_of_mem _ ?_, rfl⟩,
      sameOperation_ofOperation ns o⟩
    exact List.mem_append_left _ (List.mem_map.mpr ⟨(name, o), Dict.mem_entries_iff.mpr ho, rfl⟩)
  has_shape name sh hsh := by
    refine ⟨_, (get?_ofApi hnames).mpr ⟨name, List.mem_cons_of_mem _ ?_, rfl⟩,
      sameShape_ofShape (hshapes sh (Dict.mem_values_of_get? hsh))⟩
    exact List.mem_append_right _ (List.mem_map.mpr ⟨(name, sh), Dict.mem_entries_iff.mpr hsh, rfl⟩)
  only id t hget := by
    obtain ⟨name, hmem, rfl⟩ := (get?_ofApi hnames).mp hget
    refine ⟨name, ?_, rfl⟩
    rw [← map_fst_namedShapes ns service d]
    exact List.mem_map_of_mem (f := Prod.fst) hmem

end SmithyDocument

end ResourceGen
