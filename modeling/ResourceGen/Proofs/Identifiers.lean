import ResourceGen.Proofs.Partition

/-!
# The primary identifier of a derived resource

The first ARN member of the Create output that is no Spec field binds the identifier; without one
the attribute map does. The other members become Status fields when the Spec does not have their
names.

A Status field is named on the wire like an output member or like an observed key. It repeats a
member of the Create input only where that member is no Spec field, and the identifier only where a
key of the attribute map and an output member share a name; `NamesApart` leaves these out.

Results:
* `derive_identifier`: which member or key is bound.
* `input_name_ne`, `sourceName_ne`: what the name of a Status field is not.
* `status_repeats_nothing`: the Status repeats neither the Create input nor the identifier, as long
  as those names are apart.
* `status_repeats_policy`: not so for a document that is put in and a text that comes back, nor for
  an observed key with the name of the ARN.
-/

namespace ResourceGen

/-! ## What is bound -/

/-- The member that binds the identifier, if it is one. -/
def OutputPart.arn? : OutputPart → Option String
  | arn member => some member
  | _ => none

namespace DerivationScope

variable (s : DerivationScope) (resource : String) (create : Operation)

/-- An output member that holds the ARN and is no field of the Spec. -/
def isBindable (spec : Dict Field) (m : Member) : Bool :=
  s.mapMember? resource ≠ some m.name &&
    !spec.contains (s.config.outputName resource create.name m.name) &&
    isArnMember resource m.name

/-- The first key of the attribute map that is configured as the ARN. -/
def identifierKey? : Option String :=
  (s.config.attributesMap? resource).bind fun a => (AttributeRoutes.ofConfig a).primaryIdentifier

variable {s resource create} {r : Resource}

theorem isBindable_iff {spec : Dict Field} {m : Member} :
    s.isBindable resource create spec m = true ↔
      s.mapMember? resource ≠ some m.name ∧
        spec.contains (s.config.outputName resource create.name m.name) = false ∧
        isArnMember resource m.name = true := by
  simp [isBindable, and_assoc]

theorem routedTo_of_identifierKey? {key : String} (h : s.identifierKey? resource = some key) :
    s.RoutedTo resource key .primaryIdentifier := by
  obtain ⟨a, ha, hkey⟩ := Option.bind_eq_some_iff.mp h
  exact routed_iff.mpr ⟨a, ha, List.mem_of_mem_head? hkey⟩

/-- A key goes to one place. -/
theorem RoutedTo.unique {key : String} {route route' : KeyRoute}
    (h : s.RoutedTo resource key route) (h' : s.RoutedTo resource key route') : route = route' := by
  obtain ⟨a, ha, f, hf, rfl⟩ := h
  obtain ⟨a', ha', f', hf', rfl⟩ := h'
  rw [ha] at ha'
  cases ha'
  rw [hf] at hf'
  cases hf'
  rfl

/-- The member that binds the identifier is a bindable one. -/
theorem arn?_of_outputPart {spec : Dict Field} {output : Shape} {m : Member} {part : OutputPart}
    (h : s.outputPart resource create.name (s.mapMember? resource) spec output m = .ok part) :
    part.arn? = if s.isBindable resource create spec m then some m.name else none := by
  by_cases hbind : s.isBindable resource create spec m = true
  · obtain ⟨hmap, hspec, harn⟩ := isBindable_iff.mp hbind
    rw [if_pos hbind]
    unfold outputPart at h
    obtain ⟨shape, -, h⟩ := Result.bind_eq_ok_iff.mp h
    simp only [beq_iff_eq, hmap, hspec, harn, Bool.or_false, if_false, if_true] at h
    obtain rfl := Result.pure_eq_ok_iff.mp h
    rfl
  · rw [if_neg hbind]
    rcases outputPart_cases h with ⟨rfl, -⟩ | ⟨hmap, hspec, ⟨rfl, harn⟩ | ⟨f, rfl, -, -⟩⟩
    · rfl
    · exact absurd (isBindable_iff.mpr ⟨hmap, hspec, harn⟩) hbind
    · rfl

/-- The first member binds the identifier; later ones leave it as it is. -/
theorem primaryIdentifier_foldl_addOutputPart (name : String) (parts : List OutputPart)
    (r : Resource) :
    (parts.foldl (addOutputPart name) r).primaryIdentifier =
      r.primaryIdentifier.or ((parts.findSome? OutputPart.arn?).map (.member name)) := by
  induction parts generalizing r with
  | nil => exact Option.or_none.symm
  | cons part rest ih =>
    rw [List.foldl_cons, ih]
    cases part with
    | nothing => rfl
    | arn member =>
      show (r.primaryIdentifier.or (some (.member name member))).or _ = _
      rw [Option.or_assoc, Option.some_or]
      rfl
    | field f =>
      show (r.addStatusField f).primaryIdentifier.or _ = _
      rw [Resource.primaryIdentifier_addStatusField]
      rfl

theorem primaryIdentifier_foldl_addStatusKey (keys : List String) (r : Resource) :
    (keys.foldl s.addStatusKey r).primaryIdentifier = r.primaryIdentifier := by
  refine List.foldlRecOn keys s.addStatusKey
    (motive := fun b => b.primaryIdentifier = r.primaryIdentifier) rfl fun b hb key _ => ?_
  unfold addStatusKey
  split
  · exact hb
  · rw [Resource.primaryIdentifier_addStatusField, hb]

theorem primaryIdentifier_withRoutes (r : Resource) :
    (s.withRoutes resource r).primaryIdentifier =
      r.primaryIdentifier.or ((s.identifierKey? resource).map .attributeKey) := by
  unfold withRoutes identifierKey?
  cases s.config.attributesMap? resource with
  | none => exact Option.or_none.symm
  | some a =>
    show (s.addRoutes r (.ofConfig a)).primaryIdentifier =
      r.primaryIdentifier.or ((AttributeRoutes.ofConfig a).primaryIdentifier.map .attributeKey)
    have hobserved := primaryIdentifier_foldl_addStatusKey (s := s)
      (AttributeRoutes.ofConfig a).status r
    unfold addRoutes
    cases (AttributeRoutes.ofConfig a).primaryIdentifier with
    | none => rw [Option.map_none, Option.or_none, ← hobserved]
    | some key => rw [Option.map_some, ← hobserved]; rfl

/-- **The first ARN member of the Create output that is no Spec field is the identifier**; without
one it is the first key that is configured as the ARN. -/
theorem derive_identifier {index : OperationIndex} (h : s.derive index resource = .ok r)
    (hcreate : (ResourceOperations.ofIndex index resource).create = some create)
    {outputs : List Member} (houtputs : s.createdMembers create = .ok outputs) :
    r.primaryIdentifier =
      ((outputs.find? (s.isBindable resource create r.spec)).map
        fun m => .member create.name m.name).or
          ((s.identifierKey? resource).map .attributeKey) := by
  obtain ⟨create', fs, parts, hcreate', -, hparts, hr⟩ := derive_steps h
  rw [hcreate] at hcreate'
  cases hcreate'
  obtain ⟨outputs', output, houtputs', hmap⟩ := outputParts_eq_mapM hparts
  rw [houtputs] at houtputs'
  cases houtputs'
  have hspec : r.spec = (s.withSpec resource index fs).spec := by
    rw [hr]
    exact ((Resource.extends_foldl (extends_addOutputPart create.name) parts _).trans
      (extends_withRoutes _)).spec
  have hnone : (s.withSpec resource index fs).primaryIdentifier = none := by
    rw [withSpec_eq]
    rfl
  rw [hspec, hr, primaryIdentifier_withRoutes, primaryIdentifier_foldl_addOutputPart, hnone,
    Option.none_or, Result.findSome?_of_mapM hmap fun m _ part hpart => arn?_of_outputPart hpart,
    Option.map_map]
  rfl

/-- The references of the Create output are not dangling. -/
theorem derive_resolves {index : OperationIndex} (h : s.derive index resource = .ok r)
    (hcreate : (ResourceOperations.ofIndex index resource).create = some create)
    {outputs : List Member} (houtputs : s.createdMembers create = .ok outputs) {m : Member}
    (hm : m ∈ outputs) : ∃ shape, s.model.shape? m.target = some shape := by
  obtain ⟨create', fs, parts, hcreate', -, hparts, -⟩ := derive_steps h
  rw [hcreate] at hcreate'
  cases hcreate'
  obtain ⟨outputs', output, houtputs', -, hto⟩ := outputParts_cases hparts
  rw [houtputs] at houtputs'
  cases houtputs'
  obtain ⟨part, -, hpart⟩ := hto m hm
  obtain ⟨shape, hshape, -⟩ := Result.bind_eq_ok_iff.mp hpart
  exact ⟨shape, ServiceModel.resolve_eq_ok_iff.mp hshape⟩

/-- What Create returns is inside its output. -/
theorem createdMembers_eq_ok_iff {reference : String} {outputs : List Member}
    (href : create.output = some reference) :
    s.createdMembers create = .ok outputs ↔ ∃ output u,
      s.model.shape? reference = some output ∧ s.model.unwrap output = .ok u ∧
        u.shape.members = outputs := by
  unfold createdMembers
  simp only [href, Result.bind_eq_ok_iff, ServiceModel.resolve_eq_ok_iff, Result.pure_eq_ok_iff,
    exists_and_left]

theorem createdMembers_eq {reference : String} {output : Shape} {u : Unwrapped}
    (href : create.output = some reference) (houtput : s.model.shape? reference = some output)
    (hu : s.model.unwrap output = .ok u) : s.createdMembers create = .ok u.shape.members :=
  (createdMembers_eq_ok_iff href).mpr ⟨output, u, houtput, hu, rfl⟩

end DerivationScope

/-- What binds the identifier of a resource of a schema. -/
theorem Schema.resources_identifier [PatternEngine] {model : ServiceModel} {config : Config}
    {classifier : Classifier} {schema : Schema}
    (hschema : build model config .standard classifier = .ok schema) {rs : List Resource}
    (hrs : schema.resources = .ok rs) {r : Resource} (hr : r ∈ rs) {create : Operation}
    (hcreate : r.operations.create = some create) {outputs : List Member}
    (houtputs : schema.derivation.createdMembers create = .ok outputs) :
    r.primaryIdentifier =
      ((outputs.find? (schema.derivation.isBindable r.name create r.spec)).map
        fun m => .member create.name m.name).or
          ((schema.derivation.identifierKey? r.name).map .attributeKey) := by
  obtain ⟨index, rfl⟩ := build_eq_ok hschema
  obtain ⟨name, -, hderive⟩ := derive_of_mem_resources hrs hr
  obtain ⟨rfl, hoperations, -⟩ := DerivationScope.derive_cases keepsRaw_standard hderive
  rw [hoperations] at hcreate
  exact DerivationScope.derive_identifier hderive hcreate houtputs

/-! ## Names that are used twice -/

/-- No member has another name in a resource. -/
def Config.WithoutRenames (c : Config) : Prop :=
  ∀ resource operation member, c.inputRename? resource operation member = none ∧
    c.outputRename? resource operation member = none

namespace Config.WithoutRenames

variable {c : Config}

theorem of_resources (h : ∀ rc ∈ c.resources.values, rc.renames = none) : c.WithoutRenames := by
  intro resource operation member
  have hnone : c.renames? resource operation = none := by
    unfold renames? resource?
    cases hrc : c.resources.get? resource with
    | none => rfl
    | some rc => simp only [Option.bind_some, h rc (Dict.mem_values_of_get? hrc), Option.bind_none]
  rw [inputRename?, outputRename?, hnone]
  exact ⟨rfl, rfl⟩

theorem inputName (h : c.WithoutRenames) (resource operation member : String) :
    c.inputName resource operation member = member := by
  rw [Config.inputName, (h resource operation member).1, Option.getD_none]

theorem outputName (h : c.WithoutRenames) (resource operation member : String) :
    c.outputName resource operation member = member := by
  rw [Config.outputName, (h resource operation member).2, Option.getD_none]

end Config.WithoutRenames

namespace DerivationScope

/-- The names that neither the Spec nor the Status tells apart are not used twice. -/
structure NamesApart (s : DerivationScope) (resource : String) (input : Shape)
    (outputs : List Member) : Prop where
  /-- An input member without a type comes back neither as a member nor as an observed key. -/
  untyped : ∀ m ∈ input.members, s.mapMember? resource ≠ some m.name → ¬ s.HasField m →
    (∀ m' ∈ outputs, m'.name ≠ m.name) ∧ ¬ s.RoutedTo resource m.name .status
  /-- No observed key is named like the member of the attribute map. -/
  map : ∀ m ∈ input.members, s.mapMember? resource = some m.name →
    ¬ s.RoutedTo resource m.name .status
  /-- No observed key is named like an ARN member. -/
  arn : ∀ m ∈ outputs, isArnMember resource m.name = true → ¬ s.RoutedTo resource m.name .status
  /-- No key that is the ARN is named like a member. -/
  key : ∀ m ∈ outputs, ¬ s.RoutedTo resource m.name .primaryIdentifier

variable {s : DerivationScope} {resource : String} {create : Operation} {input : Shape}
  {outputs : List Member} {r : Resource} {key : String} {f : Field}

/-- Without renames a Status field is keyed by its name on the wire: that of an output member that
is not the ARN, or an observed key. -/
theorem StatusOrigin.wireName (h : s.StatusOrigin resource create outputs key f)
    (hrenames : s.config.WithoutRenames) :
    f.wireName = key ∧
      ((∃ m ∈ outputs, m.name = key ∧ s.mapMember? resource ≠ some key ∧
          isArnMember resource key = false) ∨ s.RoutedTo resource key .status) := by
  rcases h with ⟨m, hm, hmap, harn, hkey, shape, type, -, -, rfl⟩ | ⟨hkey, rfl⟩
  · rw [hrenames.outputName] at hkey
    obtain rfl := hkey
    exact ⟨rfl, Or.inl ⟨m, hm, rfl, hmap, harn⟩⟩
  · exact ⟨rfl, Or.inr hkey⟩

/-- A member of the Create input that the Status repeats is no field of the Spec. -/
theorem Partition.not_field_of_repeated (h : s.Partition resource create input outputs r)
    (hrenames : s.config.WithoutRenames) {m : Member} (hm : m ∈ input.members)
    (hstatus : r.status.contains m.name = true) :
    s.mapMember? resource = some m.name ∨ ¬ s.HasField m := by
  refine Classical.or_iff_not_imp_left.mpr fun hmap hfield => ?_
  have hspec := h.keeps_input m hm hmap hfield
  rw [hrenames.inputName] at hspec
  exact h.disjoint m.name ⟨hspec, hstatus⟩

/-- A Status field is not named like a member of the Create input. -/
theorem Partition.input_name_ne (h : s.Partition resource create input outputs r)
    (hrenames : s.config.WithoutRenames) (hapart : s.NamesApart resource input outputs)
    (hf : r.status.get? key = some f) {m : Member} (hm : m ∈ input.members) : m.name ≠ key := by
  rintro rfl
  obtain ⟨-, horigin⟩ := (h.status_origin _ f hf).wireName hrenames
  have hstatus : r.status.contains m.name = true := by rw [Dict.contains, hf]; rfl
  by_cases hmap : s.mapMember? resource = some m.name
  · rcases horigin with ⟨m', -, -, hnot, -⟩ | hobserved
    · exact hnot hmap
    · exact hapart.map m hm hmap hobserved
  · have hfield := (h.not_field_of_repeated hrenames hm hstatus).resolve_left hmap
    obtain ⟨hmembers, hkeys⟩ := hapart.untyped m hm hmap hfield
    rcases horigin with ⟨m', hm', hname, -⟩ | hobserved
    · exact hmembers m' hm' hname
    · exact hkeys hobserved

/-- A Status field is not named like what binds the identifier. -/
theorem Partition.sourceName_ne (h : s.Partition resource create input outputs r)
    (hrenames : s.config.WithoutRenames) (hapart : s.NamesApart resource input outputs)
    (hbinds : r.primaryIdentifier =
      ((outputs.find? (s.isBindable resource create r.spec)).map
        fun m => .member create.name m.name).or
          ((s.identifierKey? resource).map .attributeKey))
    (hf : r.status.get? key = some f) {p : PrimaryIdentifier}
    (hp : r.primaryIdentifier = some p) : p.sourceName ≠ key := by
  rintro rfl
  obtain ⟨-, horigin⟩ := (h.status_origin _ f hf).wireName hrenames
  rw [hp] at hbinds
  rcases Option.or_eq_some_iff.mp hbinds.symm with hmember | ⟨-, hkey⟩
  · obtain ⟨m, hm, rfl⟩ := Option.map_eq_some_iff.mp hmember
    obtain ⟨-, -, harn⟩ := isBindable_iff.mp (List.find?_some hm)
    rcases horigin with ⟨m', -, -, -, hnot⟩ | hobserved
    · exact Bool.false_ne_true (hnot.symm.trans harn)
    · exact hapart.arn m (List.mem_of_find?_eq_some hm) harn hobserved
  · obtain ⟨k, hk, rfl⟩ := Option.map_eq_some_iff.mp hkey
    have hrouted := routedTo_of_identifierKey? hk
    rcases horigin with ⟨m', hm', hname, -⟩ | hobserved
    · obtain rfl : m'.name = k := hname
      exact hapart.key m' hm' hrouted
    · cases hrouted.unique hobserved

end DerivationScope

/-- **The Status repeats neither the Create input nor the identifier**: without renames, the name
that a Status field has on the wire is not that of an input member, nor that of the member or key
that holds the ARN, as long as the names that the fields do not tell apart are used once. -/
theorem Schema.status_repeats_nothing [PatternEngine] {model : ServiceModel} {config : Config}
    {classifier : Classifier} {schema : Schema}
    (hschema : build model config .standard classifier = .ok schema)
    (hrenames : config.WithoutRenames) {rs : List Resource} (hrs : schema.resources = .ok rs)
    {r : Resource} (hr : r ∈ rs) {create : Operation} (hcreate : r.operations.create = some create)
    {reference : String} {input : Shape} (href : create.input = some reference)
    (hinput : model.shape? reference = some input) {outputs : List Member}
    (houtputs : schema.derivation.createdMembers create = .ok outputs)
    (hapart : schema.derivation.NamesApart r.name input outputs)
    {key : String} {f : Field} (hf : r.status.get? key = some f) :
    (∀ m ∈ input.members, m.name ≠ f.wireName) ∧
      ∀ p, r.primaryIdentifier = some p → p.sourceName ≠ f.wireName := by
  have hbinds := resources_identifier hschema hrs hr hcreate houtputs
  obtain ⟨create', reference', input', outputs', hcreate', href', hinput', houtputs', hpartition⟩ :=
    resources_partition hschema hrs hr
  obtain ⟨index, rfl⟩ := build_eq_ok hschema
  rw [hcreate] at hcreate'
  cases hcreate'
  rw [href] at href'
  cases href'
  rw [hinput] at hinput'
  cases hinput'
  rw [houtputs] at houtputs'
  cases houtputs'
  obtain ⟨hname, -⟩ := (hpartition.status_origin key f hf).wireName hrenames
  rw [hname]
  exact ⟨fun m hm => hpartition.input_name_ne hrenames hapart hf hm,
    fun p hp => hpartition.sourceName_ne hrenames hapart hbinds hf hp⟩

/-- The known keys of the attribute map of a queue. -/
def queueKeys : AttributeMapConfig where
  fields := .ofList [("Delay", {}), ("Depth", { isReadOnly := true })]

/-- A queue with an attribute map. -/
def keyedConfig : Config where
  resources := .ofList [("Queue", { attributesMap := some queueKeys })]

/-- The schema of the service of queues with those keys. -/
def keyedSchema : Schema := { queueSchema with config := keyedConfig }

/-- The resource of the service, with its name as it is on the wire. -/
def keyedQueue : Resource :=
  { queue with
    spec := .ofList
      [("Delay", ⟨Naming.standardNames "Delay", .string, none, .attributeKey "Delay"⟩),
        ("QueueName", ⟨Naming.standardNames "QueueName", .string, some "Text",
          .member "QueueName"⟩),
        ("tags", ⟨Naming.standardNames "tags", .map .string .string, some "TextMap",
          .member "tags"⟩)] }

theorem resources_keyedSchema : keyedSchema.resources = .ok [keyedQueue] :=
  Schema.resources_of_single (show keyedSchema.resourceNames = ["Queue"] from rfl) rfl

/-- The keys go to the Spec and to the Status. -/
theorem routedTo_keyedQueue {key : String} {route : KeyRoute}
    (h : keyedSchema.derivation.RoutedTo "Queue" key route) :
    key = "Delay" ∧ route = .spec ∨ key = "Depth" ∧ route = .status := by
  obtain ⟨a, ha, f, hf, rfl⟩ := h
  cases ha
  have hall : ∀ e ∈ queueKeys.fields.entries,
      e.1 = "Delay" ∧ e.2.route = .spec ∨ e.1 = "Depth" ∧ e.2.route = .status := by decide
  exact hall _ (Dict.mem_entries_iff.mpr hf)

theorem namesApart_keyedQueue :
    ∃ outputs, keyedSchema.derivation.createdMembers createQueue = .ok outputs ∧
      keyedSchema.derivation.NamesApart "Queue" createQueueRequest outputs := by
  have hobserved {key : String} (h : keyedSchema.derivation.RoutedTo "Queue" key .status) :
      key = "Depth" := by
    rcases routedTo_keyedQueue h with ⟨-, h⟩ | ⟨h, -⟩
    · cases h
    · exact h
  obtain ⟨outputs, houtputs, hnames⟩ : ∃ outputs,
      keyedSchema.derivation.createdMembers createQueue = .ok outputs ∧
        outputs.map (·.name) = ["QueueName", "QueueArn", "createdAt", "tags"] := ⟨_, rfl, rfl⟩
  have hin : ∀ m ∈ createQueueRequest.members, m.name ≠ "Depth" := by decide
  have hout : ∀ m ∈ outputs, m.name ≠ "Depth" := by
    intro m hm heq
    have hmem : m.name ∈ outputs.map (·.name) := List.mem_map_of_mem hm
    rw [hnames, heq] at hmem
    revert hmem
    decide
  have htyped : ∀ m ∈ createQueueRequest.members, keyedSchema.derivation.HasField m := by
    simp only [createQueueRequest, Shape.members, List.forall_mem_cons]
    exact ⟨⟨_, _, rfl, rfl⟩, ⟨_, _, rfl, rfl⟩, ⟨_, _, rfl, rfl⟩, fun m hm => by cases hm⟩
  refine ⟨outputs, houtputs, ?_⟩
  exact
    { untyped := fun m hm _ hnot => absurd (htyped m hm) hnot
      map := fun m hm _ hkey => hin m hm (hobserved hkey)
      arn := fun m hm _ hkey => hout m hm (hobserved hkey)
      key := fun m _ hkey => by rcases routedTo_keyedQueue hkey with ⟨-, h⟩ | ⟨-, h⟩ <;> cases h }

/-- The Status of the queue repeats neither its request nor its ARN. -/
theorem status_repeats_nothing_keyedQueue :
    keyedSchema.resources = .ok [keyedQueue] ∧
      ∀ f ∈ keyedQueue.status.values,
        (∀ m ∈ createQueueRequest.members, m.name ≠ f.wireName) ∧
          ∀ p, keyedQueue.primaryIdentifier = some p → p.sourceName ≠ f.wireName := by
  obtain ⟨outputs, houtputs, hapart⟩ := namesApart_keyedQueue
  refine ⟨resources_keyedSchema, fun f hf => ?_⟩
  obtain ⟨key, hkey⟩ := Dict.exists_get?_of_mem_values hf
  exact Schema.status_repeats_nothing
    (show Schema.build queueModel keyedConfig .standard (.byConvention .standard) =
      .ok keyedSchema from rfl)
    (.of_resources (by decide)) resources_keyedSchema List.mem_cons_self
    (show keyedQueue.operations.create = some createQueue from rfl) rfl
    (show queueModel.shape? "CreateQueueRequest" = some createQueueRequest from rfl) houtputs hapart
    hkey

/-- What creating a queue takes where its policy is a document. -/
def policyRequest : Shape where
  name := "CreateQueueRequest"
  kind := .structure
    [{ name := "QueueName", target := "Text", indirection := true },
      { name := "Policy", target := "Document" }]

/-- A service of queues: the policy is put in as a document and comes back as a text. -/
def policyModel : ServiceModel :=
  (([{ name := "Text", kind := .scalar .string },
    { name := "Document", kind := .unsupported "document" },
    policyRequest,
    { name := "CreateQueueResponse", kind := .structure
        [{ name := "Policy", target := "Text" }, { name := "QueueArn", target := "Text" }] }].foldl
      ServiceModel.addShape (.new "Queues")).addOperation createQueue).finish

/-- The ARN of a queue is a key of its attribute map too. -/
def policyConfig : Config where
  resources := .ofList [("Queue",
    { attributesMap := some { fields := .ofList [("QueueArn", { isReadOnly := true })] } })]

/-- The schema of the service of policies. -/
def policySchema : Schema where
  model := policyModel
  config := policyConfig
  namer := .standard
  index := ⟨[⟨.create, "Queue", createQueue⟩]⟩

/-- The resource of the service. -/
def policyQueue : Resource where
  names := Naming.standardNames "Queue"
  plural := "Queues"
  operations := { create := some createQueue }
  spec := .ofList
    [("QueueName", ⟨Naming.standardNames "QueueName", .string, some "Text",
      .member "QueueName"⟩)]
  status := .ofList
    [("Policy", ⟨Naming.standardNames "Policy", .string, some "Text", .member "Policy"⟩),
      ("QueueArn", ⟨Naming.standardNames "QueueArn", .string, none, .attributeKey "QueueArn"⟩)]
  primaryIdentifier := some (.member "CreateQueue" "QueueArn")

theorem resources_policySchema : policySchema.resources = .ok [policyQueue] :=
  Schema.resources_of_single (show policySchema.resourceNames = ["Queue"] from rfl) rfl

/-- **The Status repeats the policy and the ARN.** The policy is no Spec field, since a document has
no type; the ARN is entered as an observed key although a member is bound to it. -/
theorem status_repeats_policy :
    Schema.build policyModel policyConfig .standard (.byConvention .standard) = .ok policySchema ∧
      policySchema.resources = .ok [policyQueue] ∧ policyConfig.WithoutRenames ∧
      policyModel.shape? "CreateQueueRequest" = some policyRequest ∧
      (∃ f m, policyQueue.status.get? "Policy" = some f ∧ m ∈ policyRequest.members ∧
        m.name = f.wireName) ∧
      ∃ f p, policyQueue.status.get? "QueueArn" = some f ∧
        policyQueue.primaryIdentifier = some p ∧ p.sourceName = f.wireName := by
  refine ⟨rfl, resources_policySchema, .of_resources (by decide), rfl, ?_, ?_⟩
  · exact ⟨_, { name := "Policy", target := "Document" }, rfl, by decide, rfl⟩
  · exact ⟨_, _, rfl, rfl, rfl⟩

end ResourceGen
