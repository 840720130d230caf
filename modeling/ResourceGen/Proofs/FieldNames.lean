import Mathlib.Data.List.Nodup
import ResourceGen.Code.Declaration
import ResourceGen.Proofs.Letters
import ResourceGen.Proofs.NestedTypes

/-!
# Names of members of declared structures

A Spec, a Status and the structure of a type definition have a member for each of their keys. It is
called by the camel form of its key, and in JSON by the form that starts in lower case. The keys of
a structure are different, but nothing sets their forms apart: `QueueName` and `queue_name` are two
keys with one form of either kind, and a Status field `Conditions` has the names of a member that
every Status has.

Both forms keep all of an identifier but the case of its letters and its separators, so only
identifiers that differ in these alone can clash (`Naming.Alike`).

Results:
* `follows_of_declares`: the members of a declared structure are called by the forms of its keys.
* `nodup_memberNames_iff`: the members of a structure have different names exactly if the forms of
  its keys are different, which they are when no two keys are alike.
* `memberNames_clash`: a Spec, a Status and a type definition with two members of one name.
-/

namespace ResourceGen

/-! ## Names of fields and attributes -/

namespace DerivationScope

variable {s : DerivationScope} {resource : String} {create : Operation} {key : String} {f : Field}

theorem names_of_specOrigin {input : Shape} (h : s.SpecOrigin resource create input key f) :
    f.names = s.namer.names key := by
  rcases h with ⟨m, -, -, -, shape, type, -, -, rfl⟩ | ⟨-, rfl⟩ <;> rfl

theorem names_of_statusOrigin {outputs : List Member}
    (h : s.StatusOrigin resource create outputs key f) : f.names = s.namer.names key := by
  rcases h with ⟨m, -, -, -, -, shape, type, -, -, rfl⟩ | ⟨-, rfl⟩ <;> rfl

end DerivationScope

/-- An attribute is named by its key. -/
theorem TypeDef.names_of_get? {types : TypeResolver} {s : Shape} {attributes : Dict TypeAttribute}
    (h : attributesOf types s = .ok attributes) {key : String} {a : TypeAttribute}
    (ha : attributes.get? key = some a) : a.names = types.namer.names key := by
  obtain ⟨os, hos, rfl⟩ := attributesOf_steps h
  rcases Dict.get?_foldl_insert Prod.fst Prod.snd ha with ⟨p, hp, rfl, rfl⟩ | hnone
  · obtain ⟨o, ho, hid⟩ := List.mem_filterMap.mp hp
    obtain rfl : o = some p := hid
    obtain ⟨m, -, hmember⟩ := Result.exists_of_mem_mapM hos ho
    obtain ⟨t, -, ⟨hnone, -⟩ | ⟨a, hsome, type, -, -, rfl⟩⟩ := memberAttribute_cases hmember
    · cases hnone
    · cases hsome
      rfl
  · cases hnone

/-! ## Members of declared structures -/

theorem Dict.map_values_eq_map_keys {α β : Type} {d : Dict α} {f : α → β} {g : String → β}
    (h : ∀ k v, d.get? k = some v → f v = g k) : d.values.map f = d.keys.map g := by
  unfold values keys
  rw [List.map_map, List.map_map]
  exact List.map_congr_left fun e he => h e.1 e.2 (Dict.mem_entries_iff.mp he)

namespace Code

/-- The name of a member in JSON: its tag without the option to leave it out. -/
def StructField.jsonName (f : StructField) : String :=
  if ",omitempty".toList.isSuffixOf f.tag.toList then
    String.ofList (Naming.dropEnd f.tag.toList ",omitempty".toList.length)
  else f.tag

theorem StructField.jsonName_ofNames (names : Names) (type : FieldType) :
    (ofNames names type).jsonName = names.camelLower := by
  unfold jsonName ofNames
  simp only [String.toList_append]
  rw [if_pos (List.isSuffixOf_iff_suffix.mpr (List.suffix_append _ _)), Naming.dropEnd,
    List.length_append, Nat.add_sub_cancel, List.take_left, String.ofList_toList]

/-- The members of a structure are called by the forms of some keys. -/
structure StructDecl.Follows (s : StructDecl) (namer : Namer) (keys : List String) : Prop where
  names : s.fields.map (·.name) = keys.map fun k => (namer.names k).camel
  jsonNames : s.fields.map (·.jsonName) = keys.map fun k => (namer.names k).camelLower

namespace StructDecl.Follows

/-- A dictionary whose values are named by their keys gives such members. -/
theorem of_dict {α : Type} {d : Dict α} {name : String} {namer : Namer} {names : α → Names}
    (type : α → FieldType) (h : ∀ k v, d.get? k = some v → names v = namer.names k) :
    (StructDecl.mk name (d.values.map fun v => .ofNames (names v) (type v))).Follows namer
      d.keys where
  names := by
    rw [List.map_map]
    exact Dict.map_values_eq_map_keys fun k v hv => congrArg Names.camel (h k v hv)
  jsonNames := by
    rw [List.map_map]
    refine Dict.map_values_eq_map_keys fun k v hv => ?_
    rw [Function.comp_apply, StructField.jsonName_ofNames, h k v hv]

/-- Members in front follow their own keys. -/
theorem append {fields fields' : List StructField} {name : String} {namer : Namer}
    {keys keys' : List String} (h : (StructDecl.mk name fields).Follows namer keys)
    (h' : (StructDecl.mk name fields').Follows namer keys') :
    (StructDecl.mk name (fields ++ fields')).Follows namer (keys ++ keys') where
  names := by rw [List.map_append, List.map_append, h.names, h'.names]
  jsonNames := by rw [List.map_append, List.map_append, h.jsonNames, h'.jsonNames]

end StructDecl.Follows

end Code

/-- The keys of the members that every Status has. -/
def Resource.commonStatusKeys : List String := [metadataField, "Conditions"]

theorem Resource.follows_commonStatus (name : String) :
    (Code.StructDecl.mk name commonStatus).Follows .standard commonStatusKeys where
  names := by
    show commonStatus.map _ = _
    decide
  jsonNames := by
    show commonStatus.map _ = _
    decide

namespace Schema

open Code

/-- The files of a schema declare a structure with members for some keys: the Spec and the Status
of a resource, the latter with the members that every Status has, or a type definition. -/
inductive Declares (schema : Schema) : StructDecl → List String → Prop
  | spec {rs : List Resource} {r : Resource} (hrs : schema.resources = .ok rs) (hr : r ∈ rs) :
      Declares schema r.specStruct r.spec.keys
  | status {rs : List Resource} {r : Resource} (hrs : schema.resources = .ok rs) (hr : r ∈ rs) :
      Declares schema r.statusStruct (Resource.commonStatusKeys ++ r.status.keys)
  | typeDef {defs : List TypeDef} {d : TypeDef} (hdefs : schema.typeDefs = .ok defs)
      (hd : d ∈ defs) : Declares schema d.toCode d.attributes.keys

variable {model : ServiceModel} {config : Config} {classifier : Classifier} {schema : Schema}
  {s : StructDecl} {keys : List String}

theorem follows_of_declares [PatternEngine]
    (hschema : build model config .standard classifier = .ok schema)
    (h : schema.Declares s keys) : s.Follows .standard keys := by
  have hnamer : schema.namer = .standard := by
    obtain ⟨index, rfl⟩ := build_eq_ok hschema
    rfl
  cases h with
  | spec hrs hr =>
    obtain ⟨_, _, _, _, -, -, -, -, hpartition⟩ := resources_partition hschema hrs hr
    refine StructDecl.Follows.of_dict Field.type fun key f hf => ?_
    rw [DerivationScope.names_of_specOrigin (hpartition.spec_origin key f hf)]
    exact congrArg (·.names key) hnamer
  | status hrs hr =>
    obtain ⟨_, _, _, _, -, -, -, -, hpartition⟩ := resources_partition hschema hrs hr
    refine (Resource.follows_commonStatus _).append
      (StructDecl.Follows.of_dict Field.type fun key f hf => ?_)
    rw [DerivationScope.names_of_statusOrigin (hpartition.status_origin key f hf)]
    exact congrArg (·.names key) hnamer
  | typeDef hdefs hd =>
    obtain ⟨shape, -, -, hof⟩ := (mem_typeDefs_iff hdefs).mp hd
    obtain ⟨-, -, hattributes, -⟩ := TypeDef.ofShape_eq_some hof
    refine StructDecl.Follows.of_dict TypeAttribute.type fun key a ha => ?_
    rw [TypeDef.names_of_get? hattributes ha]
    exact congrArg (·.names key) hnamer

/-- **The members of a declared structure have different names exactly if the forms of its keys are
different**, for the names in the code as for those in JSON. No two members have one name of either
kind when no two keys are alike up to case and separators. -/
theorem nodup_memberNames_iff [PatternEngine]
    (hschema : build model config .standard classifier = .ok schema)
    (h : schema.Declares s keys) :
    ((s.fields.map (·.name)).Nodup ↔ (keys.map fun k => (Namer.standard.names k).camel).Nodup) ∧
      ((s.fields.map (·.jsonName)).Nodup ↔
        (keys.map fun k => (Namer.standard.names k).camelLower).Nodup) ∧
      (keys.Pairwise (fun a b => ¬ Naming.Alike a b) →
        (s.fields.map (·.name)).Nodup ∧ (s.fields.map (·.jsonName)).Nodup) := by
  obtain ⟨hnames, hjson⟩ := follows_of_declares hschema h
  rw [hnames, hjson]
  refine ⟨Iff.rfl, Iff.rfl, fun hpairs => ⟨?_, ?_⟩⟩
  · exact List.pairwise_map.mpr (hpairs.imp fun hab heq => hab (Naming.alike_of_camel_eq heq))
  · exact List.pairwise_map.mpr (hpairs.imp fun hab heq => hab (Naming.alike_of_camelLower_eq heq))

end Schema

/-- A service of queues: Create takes two members and answers with two more, one of them a structure
with two members. -/
def memberModel (taken taken' told settings settings' : String) : ServiceModel :=
  (([{ name := "Text", kind := .scalar .string },
    { name := "CreateQueueRequest", kind := .structure
        [{ name := taken, target := "Text" }, { name := taken', target := "Text" }] },
    { name := "CreateQueueResponse", kind := .structure
        [{ name := told, target := "Text" }, { name := "Settings", target := "Settings" },
          { name := "QueueArn", target := "Text" }] },
    { name := "Settings", kind := .structure
        [{ name := settings, target := "Text" }, { name := settings', target := "Text" }] }].foldl
      ServiceModel.addShape (.new "Queues")).addOperation createQueue).finish

/-- The Spec of a queue with two names that are not alike. -/
theorem nodup_memberNames_queue : ∃ schema rs, ∃ r ∈ rs,
    Schema.standard (memberModel "QueueName" "queue_url" "State" "Size" "age") {} = .ok schema ∧
      schema.resources = .ok rs ∧ r.spec.keys = ["QueueName", "queue_url"] ∧
      (r.specStruct.fields.map (·.name)).Nodup ∧ (r.specStruct.fields.map (·.jsonName)).Nodup := by
  obtain ⟨schema, hschema⟩ : ∃ schema,
      Schema.standard (memberModel "QueueName" "queue_url" "State" "Size" "age") {} = .ok schema :=
    ⟨_, rfl⟩
  obtain ⟨r, hrs, hkeys⟩ :
      ∃ r, schema.resources = .ok [r] ∧ r.spec.keys = ["QueueName", "queue_url"] := by
    cases hschema
    exact ⟨_, Schema.resources_of_single (show Schema.resourceNames _ = ["Queue"] from rfl) rfl, rfl⟩
  have happart : ¬ Naming.Alike "QueueName" "queue_url" := by
    rw [Naming.alike_iff_of_ascii (by decide) (by decide)]
    decide
  have hr : r ∈ [r] := List.mem_singleton_self r
  obtain ⟨-, -, hdistinct⟩ := Schema.nodup_memberNames_iff hschema (.spec hrs hr)
  have hpairs : r.spec.keys.Pairwise fun a b => ¬ Naming.Alike a b := by
    rw [hkeys]
    simpa using happart
  obtain ⟨hnames, hjson⟩ := hdistinct hpairs
  exact ⟨schema, [r], r, hr, hschema, hrs, hkeys, hnames, hjson⟩

/-- Members with different names in every shape, and two members of one name, in the code and in
JSON, in the Spec, in the Status and in a type definition. -/
theorem memberNames_clash : ∃ schema rs defs, ∃ r ∈ rs, ∃ d ∈ defs,
    Schema.standard (memberModel "QueueName" "queue_name" "Conditions" "MaxSize" "max_size") {} =
        .ok schema ∧
      (∀ s ∈ schema.model.shapes.values, (s.members.map (·.name)).Nodup) ∧
      schema.resources = .ok rs ∧ schema.typeDefs = .ok defs ∧
      ∀ s ∈ [r.specStruct, r.statusStruct, d.toCode],
        ¬ (s.fields.map (·.name)).Nodup ∧ ¬ (s.fields.map (·.jsonName)).Nodup := by
  obtain ⟨schema, hschema⟩ : ∃ schema, Schema.standard
      (memberModel "QueueName" "queue_name" "Conditions" "MaxSize" "max_size") {} = .ok schema :=
    ⟨_, rfl⟩
  have hmodel : ∀ s ∈ schema.model.shapes.values, (s.members.map (·.name)).Nodup := by
    cases hschema
    decide
  obtain ⟨r, hrs, hspec, hstatus⟩ : ∃ r, schema.resources = .ok [r] ∧
      r.spec.keys = ["QueueName", "queue_name"] ∧ r.status.keys = ["Conditions", "Settings"] := by
    cases hschema
    exact ⟨_, Schema.resources_of_single (show Schema.resourceNames _ = ["Queue"] from rfl) rfl,
      rfl, rfl⟩
  obtain ⟨d, hdefs, hattributes⟩ :
      ∃ d, schema.typeDefs = .ok [d] ∧ d.attributes.keys = ["MaxSize", "max_size"] := by
    cases hschema
    exact ⟨_, Schema.typeDefs_of_single rfl rfl, rfl⟩
  have hr : r ∈ [r] := List.mem_singleton_self r
  have hd : d ∈ [d] := List.mem_singleton_self d
  refine ⟨schema, [r], [d], r, hr, d, hd, hschema, hmodel, hrs, hdefs, ?_⟩
  simp only [List.forall_mem_cons, List.not_mem_nil, false_implies, implies_true, and_true]
  refine ⟨?_, ?_, ?_⟩
  · obtain ⟨hnames, hjson⟩ := Schema.follows_of_declares hschema (.spec hrs hr)
    rw [hnames, hjson, hspec]
    decide
  · obtain ⟨hnames, hjson⟩ := Schema.follows_of_declares hschema (.status hrs hr)
    rw [hnames, hjson, hstatus]
    decide
  · obtain ⟨hnames, hjson⟩ := Schema.follows_of_declares hschema (.typeDef hdefs hd)
    rw [hnames, hjson, hattributes]
    decide

end ResourceGen
