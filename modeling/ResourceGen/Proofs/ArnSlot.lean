import ResourceGen.Proofs.Identifiers
import ResourceGen.Proofs.Listing

/-!
# What ends up as the ARN

Deriving a resource binds its identifier to the first ARN member of the Create output. The program
that takes over a response does not go by what is bound: every member that is named like an ARN and
has no field is written to the ARN in the metadata, one after the other in declared order, so the
last one with a value is what stays.

Results:
* `lookup_storeAll`: after several writes to one place, the last one is found there.
* `lookup_arnSlot`: the ARN is that of the last ARN member with a value.
* `fillsArn_of_bound`: the member that is bound is one of those members.
* `adoptResponse_fills_arn`: it ends up as the ARN when all other ARN members that have a value have
  the same.
* `adoptResponse_replaces_arn`: not so when a later one has another value.
-/

namespace ResourceGen

open Json (Value)

namespace Accessor

theorem not_apart_self (a : Accessor) : ¬ a.Apart a :=
  fun h => (h rfl).1 List.prefix_rfl

/-- A field of a Status is apart from what is in the metadata, unless it is named like it. -/
theorem apart_metadata {status : Accessor} {name : String} (h : name ≠ metadataField)
    (slot : String) : (status.field name).Apart ((status.field metadataField).field slot) := by
  intro _
  simp only [field_names, List.append_assoc]
  rw [List.prefix_append_right_inj, List.prefix_append_right_inj]
  refine ⟨fun hp => h ?_, fun hp => h ?_⟩
  · exact (List.cons_prefix_cons.mp hp).1
  · exact (List.cons_prefix_cons.mp hp).1.symm

end Accessor

namespace Env

/-- The value of a write, if it is to a given place. -/
def writtenAt? (a : Accessor) (u : Accessor × Value) : Option Value :=
  if u.1 = a then some u.2 else none

theorem writtenAt?_of_apart {a : Accessor} {u : Accessor × Value} (h : u.1.Apart a) :
    writtenAt? a u = none := by
  refine if_neg fun heq => Accessor.not_apart_self a ?_
  rw [heq] at h
  exact h

/-- **After several writes to one place the last one is found there**, if all others are apart. -/
theorem lookup_storeAll {us : List (Accessor × Value)} {e f : Env} {a : Accessor}
    (h : e.storeAll us = .ok f) (hus : ∀ u ∈ us, u.1 = a ∨ u.1.Apart a) :
    f.lookup a = (us.filterMap (writtenAt? a)).getLast?.or (e.lookup a) := by
  induction us generalizing e with
  | nil =>
    cases h
    rfl
  | cons u rest ih =>
    rw [storeAll_cons] at h
    obtain ⟨e₁, hstore, hrest⟩ := Result.bind_eq_ok_iff.mp h
    rw [ih hrest fun u hu => hus u (List.mem_cons_of_mem _ hu)]
    rcases hus u List.mem_cons_self with rfl | hapart
    · have hwritten : writtenAt? u.1 u = some u.2 := if_pos rfl
      rw [List.filterMap_cons_some hwritten, lookup_store_self hstore, List.getLast?_cons]
      cases (rest.filterMap (writtenAt? u.1)).getLast? <;> rfl
    · rw [List.filterMap_cons_none (writtenAt?_of_apart hapart),
        lookup_store_of_apart hstore hapart]

end Env

/-- Which of several equal values is last does not matter. -/
theorem getLast?_or_of_forall_eq {α : Type} {l : List α} {v : α} (hmem : v ∈ l)
    (hall : ∀ w ∈ l, w = v) (o : Option α) : l.getLast?.or o = some v := by
  cases hlast : l.getLast? with
  | none =>
    rw [List.getLast?_eq_none_iff.mp hlast] at hmem
    cases hmem
  | some w => rw [hall w (List.mem_of_getLast? hlast), Option.some_or]

/-- Where the members of an unwrapped output are. -/
def Unwrapped.place (u : Unwrapped) (response : Accessor) : Accessor :=
  match u.wrapper with
  | none => response
  | some wrapper => response.field wrapper

namespace Synthesizer

variable (s : Synthesizer) (r : Resource) (o : Operation)

/-- Whether an output member goes to the ARN: it is not the attribute map, it has no field, and it
is named like the ARN. -/
def fillsArn (m : Member) : Bool :=
  !(s.config.attributesMap? r.name).any (·.mapMember == m.name) &&
    (!r.status.contains (s.config.outputName r.name o.name m.name) &&
      !r.spec.contains (s.config.outputName r.name o.name m.name) && r.isArnMember m.name)

/-- What an output member has for the ARN. -/
def arnValue? (source : Accessor) (e : Env) (m : Member) : Option Value :=
  if s.fillsArn r o m then
    (s.model.shape? m.target).bind fun _ => e.present? (source.field m.name)
  else none

variable {s r o}

theorem fillsArn_iff {m : Member} :
    s.fillsArn r o m = true ↔
      (s.config.attributesMap? r.name).map (·.mapMember) ≠ some m.name ∧
        r.status.contains (s.config.outputName r.name o.name m.name) = false ∧
        r.spec.contains (s.config.outputName r.name o.name m.name) = false ∧
        r.isArnMember m.name = true := by
  unfold fillsArn
  cases s.config.attributesMap? r.name <;> simp [and_assoc]

theorem outputUpdates_eq (target : InboundTarget) (u : Unwrapped) (response : Accessor) (e : Env) :
    s.outputUpdates r o target u response e =
      u.shape.members.filterMap (s.memberUpdate? r o target (u.place response) e) := by
  unfold outputUpdates Unwrapped.place
  cases u.wrapper <;> rfl

/-- An update of a Status is one of the ARN or apart from it. -/
theorem eq_or_apart_of_memberUpdate? {root : String} {source : Accessor} {e : Env} {m : Member}
    {u : Accessor × Value} (h : s.memberUpdate? r o (.status root) source e m = some u)
    (hmetadata : ∀ f ∈ r.status.values, f.names.camel ≠ metadataField) :
    u.1 = arnSlot (.parse root) ∨ u.1.Apart (arnSlot (.parse root)) := by
  unfold memberUpdate? at h
  split at h
  · cases h
  · obtain ⟨shape, -, h⟩ := Option.bind_eq_some_iff.mp h
    obtain ⟨v, -, h⟩ := Option.bind_eq_some_iff.mp h
    rcases isPlace_of_adoption? h with ⟨f, hf, hplace⟩ | ⟨spec, name, hspec, -⟩ | hplace
    · rw [hplace]
      exact Or.inr (Accessor.apart_metadata (hmetadata f hf) _)
    · cases hspec
    · exact Or.inl hplace

/-- A value that is taken over without a field goes to the ARN. -/
theorem adoption?_bind_writtenAt? {root : String} {m : Member} (shape : Shape) (v : Value)
    (hmetadata : ∀ f ∈ r.status.values, f.names.camel ≠ metadataField) :
    (s.adoption? r o (.status root) m shape v).bind (Env.writtenAt? (arnSlot (.parse root))) =
      if !r.status.contains (s.config.outputName r.name o.name m.name) &&
          !r.spec.contains (s.config.outputName r.name o.name m.name) && r.isArnMember m.name then
        some v else none := by
  unfold adoption? Dict.contains
  cases hstatus : r.status.get? (s.config.outputName r.name o.name m.name) with
  | some f =>
    cases s.fieldCopy? shape v with
    | none => rfl
    | some w =>
      have hfield := hmetadata f (Dict.mem_values_of_get? hstatus)
      exact Env.writtenAt?_of_apart (Accessor.apart_metadata hfield _)
  | none =>
    cases r.spec.get? (s.config.outputName r.name o.name m.name) with
    | some f => rfl
    | none =>
      cases r.isArnMember m.name with
      | false => rfl
      | true => exact if_pos rfl

/-- The updates of the ARN are what the members have for it. -/
theorem memberUpdate?_bind_writtenAt? {root : String} (source : Accessor) (e : Env) (m : Member)
    (hmetadata : ∀ f ∈ r.status.values, f.names.camel ≠ metadataField) :
    (s.memberUpdate? r o (.status root) source e m).bind (Env.writtenAt? (arnSlot (.parse root))) =
      s.arnValue? r o source e m := by
  unfold memberUpdate? arnValue? fillsArn
  cases (s.config.attributesMap? r.name).any (·.mapMember == m.name) with
  | true => rfl
  | false =>
    rw [Bool.not_false, Bool.true_and, if_neg Bool.false_ne_true]
    cases s.model.shape? m.target with
    | none => split <;> rfl
    | some shape =>
      rw [Option.bind_some, Option.bind_some]
      cases e.present? (source.field m.name) with
      | none => split <;> rfl
      | some v => exact adoption?_bind_writtenAt? shape v hmetadata

section

variable {role : Role} {reference : String} {output : Shape} {u : Unwrapped}
  {response root : String} {p : Program} {e e' : Env}

/-- The updates of an operation whose output is known. -/
theorem responseUpdates_eq (ho : r.operations.get? role = some o)
    (href : o.output = some reference) (houtput : s.model.shape? reference = some output)
    (hu : s.model.unwrap output = .ok u) (target : InboundTarget) (response : Accessor) (e : Env) :
    s.responseUpdates r target role response e = .ok (s.outputUpdates r o target u response e) := by
  have hresolve : s.model.resolve reference o.name = .ok output :=
    ServiceModel.resolve_eq_ok_iff.mpr houtput
  have hpayload : s.payload o (some reference) = .ok (some output) := by
    rw [payload, hresolve]
    rfl
  unfold responseUpdates
  simp only [ho, href]
  exact Result.bind_eq_ok_iff.mpr
    ⟨some output, hpayload, Result.bind_eq_ok_iff.mpr ⟨u, hu, rfl⟩⟩

/-- **The ARN is that of the last ARN member with a value**, once a response is taken over into a
Status; without one it is what it was. -/
theorem lookup_arnSlot (h : s.adoptResponse r role response (.status root) = .ok p)
    (hrole : role ≠ .list) (ho : r.operations.get? role = some o)
    (href : o.output = some reference) (houtput : s.model.shape? reference = some output)
    (hu : s.model.unwrap output = .ok u)
    (hresponse : ¬ Temporary.IsTemporary (Accessor.parse response).root)
    (hroot : ¬ Temporary.IsTemporary (Accessor.parse root).root)
    (hne : (Accessor.parse response).root ≠ (Accessor.parse root).root)
    (hmetadata : ∀ f ∈ r.status.values, f.names.camel ≠ metadataField)
    (hrun : p.execute e = .running e') :
    e'.lookup (arnSlot (.parse root)) =
      (u.shape.members.filterMap
        (s.arnValue? r o (u.place (.parse response)) e)).getLast?.or
          (e.lookup (arnSlot (.parse root))) := by
  obtain ⟨us, hus, hagrees⟩ := adoptResponse_agrees h (fun hlist => absurd hlist hrole) hresponse
    hroot hne e
  rw [responseUpdates_eq ho href houtput hu, outputUpdates_eq] at hus
  cases hus
  cases hf : e.storeAll (u.shape.members.filterMap
      (s.memberUpdate? r o (.status root) (u.place (.parse response)) e)) with
  | error err =>
    rw [hf, hrun] at hagrees
    cases hagrees
  | ok f =>
    rw [hf, hrun] at hagrees
    obtain ⟨g, hg, heq⟩ := hagrees
    cases hg
    have hplaces : ∀ w ∈ u.shape.members.filterMap
        (s.memberUpdate? r o (.status root) (u.place (.parse response)) e),
        w.1 = arnSlot (.parse root) ∨ w.1.Apart (arnSlot (.parse root)) := by
      intro w hw
      obtain ⟨m, -, hm⟩ := List.mem_filterMap.mp hw
      exact eq_or_apart_of_memberUpdate? hm hmetadata
    have hslot : e'.lookup (arnSlot (.parse root)) = f.lookup (arnSlot (.parse root)) :=
      heq.lookup (show ¬ Temporary.IsTemporary (arnSlot (.parse root)).root from hroot)
    rw [hslot, Env.lookup_storeAll hf hplaces, List.filterMap_filterMap]
    simp only [memberUpdate?_bind_writtenAt? _ e _ hmetadata]

/-- A response is taken over wherever the metadata of the Status can be written. -/
theorem exists_execute_adoptResponse (h : s.adoptResponse r role response (.status root) = .ok p)
    (hrole : role ≠ .list) (hresponse : ¬ Temporary.IsTemporary (Accessor.parse response).root)
    (hroot : ¬ Temporary.IsTemporary (Accessor.parse root).root)
    (hne : (Accessor.parse response).root ≠ (Accessor.parse root).root)
    (hmetadata : ∀ f ∈ r.status.values, f.names.camel ≠ metadataField)
    (hopen : e.Open ((Accessor.parse root).field metadataField)) :
    ∃ e', p.execute e = .running e' := by
  obtain ⟨us, hus, hagrees⟩ := adoptResponse_agrees h (fun hlist => absurd hlist hrole) hresponse
    hroot hne e
  obtain ⟨f, hf⟩ : ∃ f, e.storeAll us = .ok f := by
    refine exists_storeAll_places (fun w hw => isPlace_of_mem_responseUpdates hus hw) hmetadata
      fun w hw => ?_
    refine (isPlace_of_mem_responseUpdates hus hw).writable hopen fun spec hspec => ?_
    cases hspec
  rw [hf] at hagrees
  obtain ⟨e', hrun, -⟩ := hagrees
  exact ⟨e', hrun⟩

end

end Synthesizer
namespace Schema

variable {model : ServiceModel} {config : Config} {classifier : Classifier} {schema : Schema}
  {rs : List Resource} {r : Resource} {create : Operation} {reference member : String}
  {output : Shape} {u : Unwrapped}

/-- **The member that is bound goes to the ARN**, unless a Status field has its name. -/
theorem fillsArn_of_bound [PatternEngine]
    (hschema : build model config .standard classifier = .ok schema)
    (hrs : schema.resources = .ok rs) (hr : r ∈ rs) (hcreate : r.operations.create = some create)
    (hbound : r.primaryIdentifier = some (.member create.name member))
    (href : create.output = some reference) (houtput : model.shape? reference = some output)
    (hu : model.unwrap output = .ok u)
    (hfree : r.status.contains (config.outputName r.name create.name member) = false) :
    ∃ m ∈ u.shape.members, m.name = member ∧ (∃ shape, model.shape? m.target = some shape) ∧
      schema.synthesizer.fillsArn r create m = true := by
  obtain ⟨index, rfl⟩ := build_eq_ok hschema
  obtain ⟨name, -, hderive⟩ := derive_of_mem_resources hrs hr
  obtain ⟨rfl, hoperations, -⟩ := DerivationScope.derive_cases keepsRaw_standard hderive
  rw [hoperations] at hcreate
  have houtputs : (derivation ⟨model, config, .standard, index⟩).createdMembers create =
      .ok u.shape.members := DerivationScope.createdMembers_eq href houtput hu
  have hbinds := DerivationScope.derive_identifier hderive hcreate houtputs
  rw [hbound] at hbinds
  rcases Option.or_eq_some_iff.mp hbinds.symm with hfound | ⟨-, hkey⟩
  · obtain ⟨m, hm, heq⟩ := Option.map_eq_some_iff.mp hfound
    cases heq
    have hmem := List.mem_of_find?_eq_some hm
    obtain ⟨hmap, hspec, -⟩ := DerivationScope.isBindable_iff.mp (List.find?_some hm)
    refine ⟨m, hmem, rfl, DerivationScope.derive_resolves hderive hcreate houtputs hmem, ?_⟩
    have harn : r.isArnMember m.name = true := by simp [Resource.isArnMember, hbound]
    exact Synthesizer.fillsArn_iff.mpr ⟨hmap, hfree, hspec, harn⟩
  · obtain ⟨k, -, heq⟩ := Option.map_eq_some_iff.mp hkey
    cases heq

/-- **The bound member ends up as the ARN** when a Create response is taken over into a Status, as
long as no Status field has its name and no other member with a value goes to the ARN. -/
theorem adoptResponse_fills_arn [PatternEngine]
    (hschema : build model config .standard classifier = .ok schema)
    (hrs : schema.resources = .ok rs) (hr : r ∈ rs) (hcreate : r.operations.create = some create)
    (hbound : r.primaryIdentifier = some (.member create.name member))
    (href : create.output = some reference) (houtput : model.shape? reference = some output)
    (hu : model.unwrap output = .ok u)
    (hfree : r.status.contains (config.outputName r.name create.name member) = false)
    (hmetadata : ∀ f ∈ r.status.values, f.names.camel ≠ metadataField)
    {response root : String} {p : Program}
    (hp : schema.synthesizer.adoptResponse r .create response (.status root) = .ok p)
    (hresponse : ¬ Temporary.IsTemporary (Accessor.parse response).root)
    (hroot : ¬ Temporary.IsTemporary (Accessor.parse root).root)
    (hne : (Accessor.parse response).root ≠ (Accessor.parse root).root) {e : Env} {v : Value}
    (hv : e.present? ((u.place (.parse response)).field member) = some v)
    (hsole : ∀ m ∈ u.shape.members, schema.synthesizer.fillsArn r create m = true →
      ∀ w, e.present? ((u.place (.parse response)).field m.name) = some w → w = v) :
    (e.Open ((Accessor.parse root).field metadataField) → ∃ e', p.execute e = .running e') ∧
      ∀ e', p.execute e = .running e' → e'.lookup (arnSlot (.parse root)) = some v := by
  obtain ⟨m, hm, rfl, ⟨shape, hshape⟩, hfills⟩ :=
    fillsArn_of_bound hschema hrs hr hcreate hbound href houtput hu hfree
  obtain ⟨index, rfl⟩ := build_eq_ok hschema
  refine ⟨fun hopen => Synthesizer.exists_execute_adoptResponse hp (by decide) hresponse hroot hne
    hmetadata hopen, fun e' hrun => ?_⟩
  rw [Synthesizer.lookup_arnSlot hp (by decide) hcreate href houtput hu hresponse hroot hne
    hmetadata hrun]
  -- every ARN member with a value has this one, and there is one
  have hall : ∀ w ∈ u.shape.members.filterMap (Synthesizer.arnValue?
      (synthesizer ⟨model, config, .standard, index⟩) r create (u.place (.parse response)) e),
      w = v := by
    intro w hw
    obtain ⟨m', hm', hw⟩ := List.mem_filterMap.mp hw
    unfold Synthesizer.arnValue? at hw
    split at hw
    · rename_i hfills'
      obtain ⟨-, -, hw⟩ := Option.bind_eq_some_iff.mp hw
      exact hsole m' hm' hfills' w hw
    · cases hw
  refine getLast?_or_of_forall_eq (List.mem_filterMap.mpr ⟨m, hm, ?_⟩) hall _
  rw [Synthesizer.arnValue?, if_pos hfills]
  exact Option.bind_eq_some_iff.mpr ⟨shape, hshape, hv⟩

end Schema

/-- The ARN of the new queue is the one that is bound. -/
theorem adoptResponse_fills_queueArn :
    ∃ p e',
      queueSchema.synthesizer.adoptResponse queue .create "resp" (.status "ko.Status") = .ok p ∧
      p.execute createdEnv = .running e' ∧
      e'.lookup (arnSlot (.parse "ko.Status")) = some (.str "arn:q") := by
  obtain ⟨p, hp⟩ : ∃ p,
      queueSchema.synthesizer.adoptResponse queue .create "resp" (.status "ko.Status") = .ok p :=
    ⟨_, rfl⟩
  obtain ⟨output, u, houtput, hu, hplace, hsole⟩ : ∃ output u,
      queueModel.shape? "CreateQueueResponse" = some output ∧ queueModel.unwrap output = .ok u ∧
        u.place (.parse "resp") = (Accessor.parse "resp").field "Queue" ∧
        ∀ m ∈ u.shape.members, queueSchema.synthesizer.fillsArn queue createQueue m = true →
          m.name = "QueueArn" := ⟨_, _, rfl, rfl, rfl, by decide⟩
  have hv : createdEnv.present? ((u.place (.parse "resp")).field "QueueArn") =
      some (.str "arn:q") := by
    rw [hplace]
    rfl
  obtain ⟨hruns, hlookup⟩ := Schema.adoptResponse_fills_arn build_queueSchema
    resources_queueSchema List.mem_cons_self
    (show queue.operations.create = some createQueue from rfl) rfl rfl houtput hu rfl
    camel_ne_metadataField hp not_isTemporary_resp not_isTemporary_ko (by decide) hv
    fun m hm hfills w hw => by
      rw [hsole m hm hfills, hv] at hw
      cases hw
      rfl
  obtain ⟨e', hrun⟩ := hruns (by decide)
  exact ⟨p, e', hp, hrun, hlookup e' hrun⟩

/-- A service of queues where Create answers with two ARNs. -/
def twoArnsModel : ServiceModel :=
  (([{ name := "Text", kind := .scalar .string },
    { name := "CreateQueueRequest", kind := .structure
        [{ name := "QueueName", target := "Text" }] },
    { name := "CreateQueueResponse", kind := .structure
        [{ name := "Arn", target := "Text" }, { name := "QueueArn", target := "Text" }] }].foldl
      ServiceModel.addShape (.new "Queues")).addOperation createQueue).finish

/-- The schema of the service. -/
def twoArnsSchema : Schema where
  model := twoArnsModel
  config := {}
  namer := .standard
  index := ⟨[⟨.create, "Queue", createQueue⟩]⟩

/-- The resource of the service: the first ARN is bound. -/
def twoArnsQueue : Resource where
  names := Naming.standardNames "Queue"
  plural := "Queues"
  operations := { create := some createQueue }
  spec := .ofList
    [("QueueName", ⟨Naming.standardNames "QueueName", .string, some "Text",
      .member "QueueName"⟩)]
  primaryIdentifier := some (.member "CreateQueue" "Arn")

/-- A response with two ARNs. -/
def twoArnsEnv : Env :=
  .ofList [("ko", .obj []),
    ("resp", .obj [("Arn", .str "arn:bound"), ("QueueArn", .str "arn:later")])]

/-- **A later ARN replaces the one that is bound.** -/
theorem adoptResponse_replaces_arn :
    Schema.build twoArnsModel {} .standard (.byConvention .standard) = .ok twoArnsSchema ∧
      twoArnsSchema.resources = .ok [twoArnsQueue] ∧
      twoArnsQueue.primaryIdentifier = some (.member "CreateQueue" "Arn") ∧
      twoArnsEnv.present? ((Accessor.parse "resp").field "Arn") = some (.str "arn:bound") ∧
      ∃ p e',
        twoArnsSchema.synthesizer.adoptResponse twoArnsQueue .create "resp"
          (.status "ko.Status") = .ok p ∧
        p.execute twoArnsEnv = .running e' ∧
        e'.lookup (arnSlot (.parse "ko.Status")) = some (.str "arn:later") :=
  ⟨rfl, Schema.resources_of_single (show twoArnsSchema.resourceNames = ["Queue"] from rfl) rfl, rfl,
    rfl, _, _, rfl, rfl, rfl⟩

end ResourceGen
