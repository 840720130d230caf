import ResourceGen.Proofs.Marks
import ResourceGen.Proofs.Wrapping

/-!
# Operations of other resources

A service may come to have one more operation. Where that operation is not about a resource, since
it is left out, has no role, or has one for another resource, the resource stays as it is
(`Schema.sameResource_of_addOperation`). Three things about the whole service change all the same:
the index of operations, the marks of outputs, and the type names that resources take. The index is
asked for one resource at a time. The outputs of the operations that a resource has are marked
before and after. Only the type names leave a trace: a structure may have a suffix in one of the
services and none in the other.

Results:
* `OperationIndex.get?_addOperation`: the operations of a resource.
* `remarked_addOperation`: an operation more changes nothing about shapes but marks of outputs.
* `derive_addOperation`: the derived resource, with the type names left as they are.
* `Schema.sameResource_of_addOperation`: the resource and all its programs.
-/

namespace ResourceGen

/-! ## The index -/

namespace OperationIndex

variable {c : Config} {classifier : Classifier}

/-- An operation is about a resource if it has a role for it and is not left out. -/
def IsAbout [PatternEngine] (c : Config) (classifier : Classifier) (o : Operation)
    (resource : String) : Prop :=
  ∃ overrides e, Overrides.ofConfig c = .ok overrides ∧
    classify c (overrides.before classifier) o = some e ∧ e.resource = resource

/-- The operation, if it has a role for a resource. -/
def ifFor (c : Config) (classifier : Classifier) (role : Role) (resource : String)
    (o : Operation) : Option ClassifiedOperation :=
  (classify c classifier o).filter (isFor role resource)

/-- Operations of one name have the same roles. -/
theorem ifFor_eq_none_of_name {role : Role} {resource : String} {o p : Operation}
    (hname : p.name = o.name) (ho : ifFor c classifier role resource o = none) :
    ifFor c classifier role resource p = none := by
  unfold ifFor classify at ho ⊢
  rw [hname]
  by_cases hignored : c.isIgnoredOperation o.name = true
  · rw [if_pos hignored]
    rfl
  · rw [if_neg hignored] at ho ⊢
    cases hclass : classifier o.name with
    | none => rfl
    | some e =>
      simpa [hclass, isFor] using ho

theorem ifFor_eq_none [PatternEngine] {overrides : Overrides}
    (hoverrides : Overrides.ofConfig c = .ok overrides) {o : Operation} {resource : String}
    (hother : ¬ IsAbout c classifier o resource) (role : Role) :
    ifFor c (overrides.before classifier) role resource o = none := by
  unfold ifFor
  cases he : classify c (overrides.before classifier) o with
  | none => rfl
  | some e =>
    have hne : e.resource ≠ resource := fun heq => hother ⟨overrides, e, hoverrides, he, heq⟩
    simp [isFor, hne]

/-- **An operation that is not about a resource** does not show in its operations. -/
theorem get?_addOperation [PatternEngine] {m m' : ServiceModel} (hkeyed : m.Keyed) {o : Operation}
    (hm : m'.operations = m.operations.insert o.name o) {index index' : OperationIndex}
    (hindex : ofModel m c classifier = .ok index) (hindex' : ofModel m' c classifier = .ok index')
    {resource : String} (hother : ¬ IsAbout c classifier o resource) (role : Role) :
    index'.get? role resource = index.get? role resource := by
  obtain ⟨overrides, hoverrides, hindex⟩ := Result.bind_eq_ok_iff.mp hindex
  obtain rfl := Result.pure_eq_ok_iff.mp hindex
  obtain ⟨overrides', hoverrides', hindex'⟩ := Result.bind_eq_ok_iff.mp hindex'
  obtain rfl := Result.pure_eq_ok_iff.mp hindex'
  cases hoverrides.symm.trans hoverrides'
  have hnone := ifFor_eq_none hoverrides hother role
  have hkept : (m.operations.insert o.name o).values.filterMap
        (ifFor c (overrides.before classifier) role resource) =
      m.operations.values.filterMap (ifFor c (overrides.before classifier) role resource) := by
    unfold Dict.values
    rw [List.filterMap_map, List.filterMap_map]
    refine Entries.filterMap_insert hnone fun e he hkey => ifFor_eq_none_of_name ?_ hnone
    exact (hkeyed.operations e.1 e.2 (Dict.mem_entries_iff.mp he)).trans hkey
  unfold get?
  rw [hm, List.filter_filterMap, List.filter_filterMap]
  exact congrArg (fun l => l.getLast?.map ClassifiedOperation.operation) hkept

theorem mem_resources_iff {x : OperationIndex} {role : Role} {resource : String} :
    resource ∈ x.resources role ↔ (x.get? role resource).isSome = true := by
  unfold resources get?
  rw [Dict.mem_sortedKeys, Option.isSome_map, List.getLast?_isSome, ne_eq, List.filter_eq_nil_iff]
  simp [isFor, and_assoc]

end OperationIndex

/-! ## Shapes -/

namespace ServiceModel

/-- The shape with the mark that it has in a service. -/
def remark (m : ServiceModel) (s : Shape) : Shape :=
  { s with usedAsOutput := (m.finish.shape? s.name).any (·.usedAsOutput) }

/-- **An operation more** changes nothing about shapes but marks of outputs. -/
theorem remarked_addOperation {m : ServiceModel} (hkeyed : m.Keyed) (o : Operation) :
    m.finish.Remarked (m.addOperation o).remark (m.addOperation o).finish where
  like s := ⟨rfl, rfl⟩
  size := by
    show (m.shapes.mapValues _).size = (m.shapes.mapValues _).size
    simp [Dict.size, Dict.mapValues]
  shape? reference := by
    rw [shape?_finish, shape?_finish, Option.map_map]
    show (m.shape? reference).map _ = _
    refine Option.map_congr fun s hs => ?_
    have hname : s.name = reference := hkeyed.shapes reference s hs
    have hfinish :
        (m.addOperation o).finish.shape? s.name = some ((m.addOperation o).marked s) := by
      rw [shape?_finish, hname, show (m.addOperation o).shape? reference = some s from hs]
      rfl
    show _ = (m.addOperation o).remark (m.marked s)
    unfold remark
    rw [show (m.marked s).name = s.name from rfl, hfinish]
    rfl

end ServiceModel

/-! ## The resource -/

/-- Only the operations of a resource matter to it. -/
theorem DerivationScope.derive_congr (d : DerivationScope) {index index' : OperationIndex}
    {resource : String}
    (h : ResourceOperations.ofIndex index' resource = .ofIndex index resource) :
    d.derive index' resource = d.derive index resource := by
  unfold derive
  rw [h]

namespace Schema

/-- A resource of one service and a resource of another are one, with the same programs, up to
the suffixes that structures have in the types of the two services. -/
structure SameResource (schema schema' : Schema) (r r' : Resource) : Prop where
  operations : r'.operations = r.operations
  spec : (r'.spec.mapValues fun _ f => f.source) = r.spec.mapValues fun _ f => f.source
  status : (r'.status.mapValues fun _ f => f.source) = r.status.mapValues fun _ f => f.source
  primaryIdentifier : r'.primaryIdentifier = r.primaryIdentifier
  ownerAccountId : r'.ownerAccountId = r.ownerAccountId
  /-- Nothing else is different than the types of the fields. -/
  template : ∃ t : Resource,
    r = t.renamed schema.types.suffixed ∧ r' = t.renamed schema'.types.suffixed
  fillRequest : ∀ role object request,
    schema'.synthesizer.fillRequest r' role object request =
      schema.synthesizer.fillRequest r role object request
  fillAttributesQuery : ∀ object request,
    schema'.synthesizer.fillAttributesQuery r' object request =
      schema.synthesizer.fillAttributesQuery r object request
  adoptResponse : ∀ role response target, ∃ p : Result Program,
    schema.synthesizer.adoptResponse r role response target =
        p.map (.renamed schema.types.suffixed) ∧
      schema'.synthesizer.adoptResponse r' role response target =
        p.map (.renamed schema'.types.suffixed)
  adoptAttributes : ∀ response status, ∃ p : Result Program,
    schema.synthesizer.adoptAttributes r response status =
        p.map (.renamed schema.types.suffixed) ∧
      schema'.synthesizer.adoptAttributes r' response status =
        p.map (.renamed schema'.types.suffixed)

/-- Where the outputs of a resource keep their marks, its programs stay what they are. -/
theorem sameResource_renamed {schema schema' : Schema} (κ : Shape → Shape)
    (h : schema.model.Remarked κ schema'.model)
    (hplain : schema'.synthesizer.plain = schema.synthesizer.plain.withModel schema'.model)
    {t : Resource} (hkeeps : schema.model.KeepsOutputs κ t.operations) :
    SameResource schema schema' (t.renamed schema.types.suffixed)
      (t.renamed schema'.types.suffixed) := by
  have hsource (f : String → String) (fs : Dict Field) :
      ((fs.mapValues fun _ x => x.renamed f).mapValues fun _ x => x.source) =
        fs.mapValues fun _ x => x.source :=
    Dict.ext List.map_map
  constructor
  case operations => rw [Resource.renamed_operations, Resource.renamed_operations]
  case spec => exact (hsource _ t.spec).trans (hsource _ t.spec).symm
  case status => exact (hsource _ t.status).trans (hsource _ t.status).symm
  case primaryIdentifier =>
    rw [Resource.renamed_primaryIdentifier, Resource.renamed_primaryIdentifier]
  case ownerAccountId => rw [Resource.renamed_ownerAccountId, Resource.renamed_ownerAccountId]
  case template => exact ⟨t, rfl, rfl⟩
  case fillRequest =>
    intro role object request
    rw [schema.synthesizer.fillRequest_plain, schema'.synthesizer.fillRequest_plain,
      Synthesizer.fillRequest_renamed, Synthesizer.fillRequest_renamed, hplain,
      Synthesizer.fillRequest_withModel h]
  case fillAttributesQuery =>
    intro object request
    rw [schema.synthesizer.fillAttributesQuery_plain,
      schema'.synthesizer.fillAttributesQuery_plain, Synthesizer.fillAttributesQuery_renamed,
      Synthesizer.fillAttributesQuery_renamed, hplain, Synthesizer.fillAttributesQuery_withModel h]
  case adoptResponse =>
    intro role response target
    refine ⟨_, schema.synthesizer.adoptResponse_plain _ role response target, ?_⟩
    rw [schema'.synthesizer.adoptResponse_plain, Synthesizer.adoptResponse_renamed,
      Synthesizer.adoptResponse_renamed, hplain, Synthesizer.adoptResponse_withModel h hkeeps]
    rfl
  case adoptAttributes =>
    intro response status
    refine ⟨_, schema.synthesizer.adoptAttributes_plain _ response status, ?_⟩
    rw [schema'.synthesizer.adoptAttributes_plain, Synthesizer.adoptAttributes_renamed,
      Synthesizer.adoptAttributes_renamed, hplain, Synthesizer.adoptAttributes_withModel h hkeeps]
    rfl

end Schema

section

variable [PatternEngine] {m : ServiceModel} (hkeyed : m.Keyed) {c : Config}
  {classifier : Classifier} {o : Operation} {index index' : OperationIndex}
  (hindex : OperationIndex.ofModel m.finish c classifier = .ok index)
  (hindex' : OperationIndex.ofModel (m.addOperation o).finish c classifier = .ok index')
  {resource : String} (hother : ¬ OperationIndex.IsAbout c classifier o resource)

include hkeyed hindex hindex' hother

theorem ResourceOperations.ofIndex_addOperation :
    ofIndex index' resource = ofIndex index resource := by
  have hget := OperationIndex.get?_addOperation hkeyed.finish rfl hindex hindex' hother
  unfold ofIndex
  simp only [hget]

/-- **The outputs of other operations keep their marks.** -/
theorem ServiceModel.keepsOutputs_addOperation :
    m.finish.KeepsOutputs (m.addOperation o).remark (.ofIndex index resource) := by
  intro role p reference s hp href hs
  have hp := ResourceOperations.get?_ofIndex hp
  have hp' := (OperationIndex.get?_addOperation hkeyed.finish rfl hindex hindex' hother role).trans hp
  have hs' := (remarked_addOperation hkeyed o).shape? reference
  rw [hs] at hs'
  rw [usedAsOutput_of_output hkeyed (OperationIndex.mem_values_of_get? hindex hp) href hs]
  exact usedAsOutput_of_output (hkeyed.addOperation o)
    (OperationIndex.mem_values_of_get? hindex' hp') href hs'

/-- **A resource is derived in the same way** whatever operations there are about others. -/
theorem DerivationScope.derive_addOperation {d : DerivationScope} (hmodel : d.model = m.finish)
    (htypes : d.types.model = d.model) :
    (d.withModel (m.addOperation o).finish).derive index' resource = d.derive index resource := by
  have hremarked := ServiceModel.remarked_addOperation hkeyed o
  have hkeeps := ServiceModel.keepsOutputs_addOperation hkeyed hindex hindex' hother
  rw [← hmodel] at hremarked hkeeps
  rw [derive_congr _ (ResourceOperations.ofIndex_addOperation hkeyed hindex hindex' hother)]
  exact derive_withModel hremarked htypes hkeeps

end

/-- **Resources do not disturb each other.** When an operation is added to a model that is not
about a resource, the resource is there exactly if it was before, it has the same operations, the
same fields from the same sources, and the same identifiers, and all its programs are the same, or
fail in the same way, but for the suffixes of type names. -/
theorem Schema.sameResource_of_addOperation [PatternEngine] {m : ServiceModel} (hkeyed : m.Keyed)
    {config : Config} {namer : Namer} {classifier : Classifier} {o : Operation} {resource : String}
    (hother : ¬ OperationIndex.IsAbout config classifier o resource) {schema schema' : Schema}
    (hschema : build m.finish config namer classifier = .ok schema)
    (hschema' : build (m.addOperation o).finish config namer classifier = .ok schema')
    {rs rs' : List Resource} (hrs : schema.resources = .ok rs)
    (hrs' : schema'.resources = .ok rs') :
    (resource ∈ schema'.resourceNames ↔ resource ∈ schema.resourceNames) ∧
      (resource ∈ schema.resourceNames → ∃ r ∈ rs, ∃ r' ∈ rs',
        schema.derivation.derive schema.index resource = .ok r ∧
          schema'.derivation.derive schema'.index resource = .ok r' ∧
          schema.SameResource schema' r r') := by
  obtain ⟨index, hindex, hschema⟩ := Result.bind_eq_ok_iff.mp hschema
  obtain rfl := Result.pure_eq_ok_iff.mp hschema
  obtain ⟨index', hindex', hschema'⟩ := Result.bind_eq_ok_iff.mp hschema'
  obtain rfl := Result.pure_eq_ok_iff.mp hschema'
  have hnames : resource ∈ resourceNames ⟨(m.addOperation o).finish, config, namer, index'⟩ ↔
      resource ∈ resourceNames ⟨m.finish, config, namer, index⟩ := by
    have hget := OperationIndex.get?_addOperation hkeyed.finish rfl hindex hindex' hother .create
    unfold resourceNames
    rw [List.mem_filter, List.mem_filter, OperationIndex.mem_resources_iff,
      OperationIndex.mem_resources_iff, hget]
  refine ⟨hnames, fun hname => ?_⟩
  obtain ⟨derived, hderived, hsort⟩ := Result.bind_eq_ok_iff.mp hrs
  obtain rfl := Result.pure_eq_ok_iff.mp hsort
  obtain ⟨derived', hderived', hsort'⟩ := Result.bind_eq_ok_iff.mp hrs'
  obtain rfl := Result.pure_eq_ok_iff.mp hsort'
  obtain ⟨r, hr, hderive⟩ := Result.exists_of_mem_of_mapM hderived hname
  obtain ⟨r', hr', hderive'⟩ := Result.exists_of_mem_of_mapM hderived' (hnames.mpr hname)
  refine ⟨r, List.mem_mergeSort.mpr hr, r', List.mem_mergeSort.mpr hr', hderive, hderive', ?_⟩
  -- both are one resource that is derived without suffixes
  have heq := DerivationScope.derive_addOperation hkeyed hindex hindex' hother
    (d := (derivation ⟨m.finish, config, namer, index⟩).plain) rfl rfl
  rw [DerivationScope.derive_eq_plain] at hderive hderive'
  obtain ⟨t, ht, rfl⟩ := Result.map_eq_ok_iff.mp hderive
  obtain ⟨t', ht', rfl⟩ := Result.map_eq_ok_iff.mp hderive'
  cases (ht'.symm.trans heq).trans ht
  refine sameResource_renamed (m.addOperation o).remark ?remarked ?plain ?keeps
  case remarked => exact ServiceModel.remarked_addOperation hkeyed o
  case plain => rfl
  case keeps =>
    rw [DerivationScope.operations_of_derive ht]
    exact ServiceModel.keepsOutputs_addOperation hkeyed hindex hindex' hother

/-- What creating a topic takes. It has the name of a type that a resource `Topic` would have. -/
def topicSpec : Shape where
  name := "TopicSpec"
  kind := .structure [{ name := "Name", target := "Text" }]

/-- The service of queues, each with a topic. -/
def topicModel : ServiceModel :=
  (queueModel.addShape topicSpec).addShape
    { name := "Description", kind := .structure
        [{ name := "QueueArn", target := "Text" }, { name := "topic", target := "TopicSpec" }] }

/-- The operation that creates a topic. It answers with the description of a queue. -/
def createTopic : Operation where
  name := "CreateTopic"
  input := some "TopicSpec"
  output := some "Description"

theorem not_isAbout_createTopic [PatternEngine] :
    ¬ OperationIndex.IsAbout queueConfig (.byConvention .standard) createTopic "Queue" := by
  rintro ⟨overrides, e, hoverrides, he, hresource⟩
  cases hoverrides
  cases (show some _ = some (⟨.create, "Topic", createTopic⟩ : ClassifiedOperation) from he.symm)
  exact absurd hresource (by decide)

/-- The schema of the service where topics are no resources. -/
def topicSchema : Schema where
  model := topicModel.finish
  config := queueConfig
  namer := .standard
  index := ⟨[⟨.create, "Queue", createQueue⟩]⟩

/-- The schema of the service where they are. -/
def sharedTopicSchema : Schema where
  model := (topicModel.addOperation createTopic).finish
  config := queueConfig
  namer := .standard
  index := ⟨[⟨.create, "Queue", createQueue⟩, ⟨.create, "Topic", createTopic⟩]⟩

/-- The type of the topic of a queue. -/
def topicType? (r : Resource) : Option FieldType := (r.status.get? "topic").map (·.type)

/-- When topics become resources, the structure in the Status of a queue gets a suffix. -/
theorem sameResource_queue : ∃ rs rs', topicSchema.resources = .ok rs ∧
    sharedTopicSchema.resources = .ok rs' ∧
      ∃ r ∈ rs, ∃ r' ∈ rs', topicSchema.SameResource sharedTopicSchema r r' ∧
        topicType? r = some (.structure "TopicSpec") ∧
        topicType? r' = some (.structure "TopicSpec_SDK") := by
  have hkeyed : topicModel.Keyed := (keyed_queueModel.addShape _).addShape _
  have hschema : Schema.build topicModel.finish queueConfig .standard
      (.byConvention .standard) = .ok topicSchema := rfl
  have hschema' : Schema.build (topicModel.addOperation createTopic).finish queueConfig .standard
      (.byConvention .standard) = .ok sharedTopicSchema := rfl
  obtain ⟨rs, hrs⟩ : ∃ rs, topicSchema.resources = .ok rs := ⟨_, rfl⟩
  obtain ⟨rs', hrs'⟩ : ∃ rs', sharedTopicSchema.resources = .ok rs' := ⟨_, rfl⟩
  obtain ⟨-, hsame⟩ := Schema.sameResource_of_addOperation hkeyed not_isAbout_createTopic hschema
    hschema' hrs hrs'
  obtain ⟨r, hr, r', hr', hderive, hderive', hsame⟩ := hsame (by decide)
  have htype : (topicSchema.derivation.derive topicSchema.index "Queue").map topicType? =
      .ok (some (.structure "TopicSpec")) := rfl
  have htype' : (sharedTopicSchema.derivation.derive sharedTopicSchema.index "Queue").map
      topicType? = .ok (some (.structure "TopicSpec_SDK")) := rfl
  rw [hderive] at htype
  rw [hderive'] at htype'
  exact ⟨rs, rs', hrs, hrs', r, hr, r', hr', hsame, Except.ok.inj htype, Except.ok.inj htype'⟩

end ResourceGen
