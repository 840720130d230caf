import Mathlib.Data.List.Nodup
import ResourceGen.Proofs.Requests

/-!
# Where a Spec field goes

A Spec field remembers the member of the Create input that it comes from. The program that fills
the request does not look there: it takes the first member that has the key of the field as its
name in the resource. Deriving the resource takes the last one, since a later field replaces an
earlier one with its key. Both meet when no other member has the key.

That a value goes to no other member is said by comparing two runs, on values that differ in that
field only (`Env.DifferAt`).

Results:
* `inputMember?_of_sole`: the member that a field is sent to is the one it comes from.
* `writes_of_differAt`: the other members are written the same, whatever the field holds.
* `lookup_of_differAt`: so they hold the same after two runs.
* `fillInput_sends_field`: the field goes to the member that is chosen for it and to no other.
* `fillRequest_reaches_source`: the Create request takes the field where it comes from, and
  nowhere else.
* `fillRequest_misses_source`: not so when another member is given the same key.
-/

namespace ResourceGen

open Json (Value)

namespace Env

/-- Two environments differ at most at a path, above it and below it. -/
def DifferAt (a : Accessor) (e e' : Env) : Prop := ∀ b, a.Apart b → e'.lookup b = e.lookup b

variable {a b : Accessor} {e e' : Env}

theorem DifferAt.symm (h : DifferAt a e e') : DifferAt a e' e := fun b hb => (h b hb).symm

theorem DifferAt.present? (h : DifferAt a e e') (hb : a.Apart b) :
    e'.present? b = e.present? b := by
  rw [Env.present?, Env.present?, h b hb]

theorem DifferAt.open_of_root_ne (h : DifferAt a e e') (hroot : a.root ≠ b.root)
    (hopen : e.Open b) : e'.Open b := by
  intro k hk v hv
  have hlookup := h ⟨b.root, b.segments.take k⟩ (Accessor.apart_of_root_ne hroot)
  exact hopen k hk v (hlookup ▸ hv)

end Env

namespace Synthesizer

variable {s : Synthesizer} {r : Resource} {o : Operation} {input : Shape}

/-- **A field is sent to the member that it comes from** when no other member has its key. -/
theorem inputMember?_of_sole {mapMember : Option String} {key : String} {m : Member}
    (hm : m ∈ input.members) (hdistinct : (input.members.map (·.name)).Nodup)
    (hmap : mapMember ≠ some m.name) (hkey : s.config.inputName r.name o.name m.name = key)
    (hsole : ∀ m' ∈ input.members, mapMember ≠ some m'.name →
      s.config.inputName r.name o.name m'.name = key → m'.name = m.name) :
    s.inputMember? r o input mapMember key = some m := by
  cases hfound : s.inputMember? r o input mapMember key with
  | none =>
    have hno := List.find?_eq_none.mp hfound m hm
    rw [Bool.and_eq_true, bne_iff_ne, beq_iff_eq] at hno
    exact absurd ⟨hmap, hkey⟩ hno
  | some m' =>
    obtain ⟨hmap', hkey'⟩ := name_ne_of_inputMember? hfound
    have hm' : m' ∈ input.members := List.mem_of_find?_eq_some hfound
    rw [List.inj_on_of_nodup_map hdistinct hm' hm (hsole m' hm' hmap' hkey')]

/-- The map of attributes does not depend on a field that is no attribute. -/
theorem sentAttributes_of_differAt {spec : Accessor} {e e' : Env} {camel : String}
    (h : Env.DifferAt (spec.field camel) e e')
    (hattr : ∀ f ∈ r.spec.values, f.isAttribute = true → f.names.camel ≠ camel) :
    sentAttributes r spec e' = sentAttributes r spec e := by
  refine List.filterMap_congr fun f hf => ?_
  cases hkey : f.attributeKey? with
  | none => rfl
  | some key =>
    have hne := hattr f hf (by rw [Field.isAttribute, hkey]; rfl)
    simp only [Option.bind_some, h.present? (Accessor.apart_field hne.symm)]

/-- **The other members are written the same**, whatever a field holds that is sent elsewhere and
shares its place with no other. -/
theorem writes_of_differAt {object : Accessor} {e e' : Env} {key : String} {f : Field} {m : Member}
    {w : Value} (hfield : r.spec.get? key = some f) (hmember : f.isAttribute = false)
    (hcamel : ∀ key' f', r.spec.get? key' = some f' → f'.names.camel = f.names.camel → key' = key)
    (h : Env.DifferAt (object.field f.names.camel) e e')
    (hm : s.inputMember? r o input ((s.requestMapMember r input).map (·.name)) key ≠ some m)
    (hw : s.Writes r o input object e m w) : s.Writes r o input object e' m w := by
  rcases hw with ⟨hmap, rfl⟩ | ⟨key', f', shape, v, hf', hattr, hm', hshape, htyped, hv, rfl⟩
  · refine Or.inl ⟨hmap, ?_⟩
    rw [sentAttributes_of_differAt h]
    intro f' hf' hattr hsame
    obtain ⟨key', hkey'⟩ := Dict.exists_get?_of_mem_values hf'
    obtain rfl := hcamel key' f' hkey' hsame
    rw [hkey'] at hfield
    cases hfield
    rw [hmember] at hattr
    cases hattr
  · have hne : f'.names.camel ≠ f.names.camel := by
      intro hsame
      rw [hcamel key' f' hf' hsame] at hm'
      exact hm hm'
    refine Or.inr ⟨key', f', shape, v, hf', hattr, hm', hshape, htyped, ?_, rfl⟩
    rw [h.present? (Accessor.apart_field hne.symm), hv]

/-- A member that a field is sent to is not written when the field has no value. -/
theorem present?_of_writes {object : Accessor} {e : Env} {key : String} {f : Field}
    {m m' : Member} {w : Value} (hfield : r.spec.get? key = some f)
    (hm : s.inputMember? r o input ((s.requestMapMember r input).map (·.name)) key = some m)
    (hw : s.Writes r o input object e m' w) (hname : m'.name = m.name) :
    e.present? (object.field f.names.camel) ≠ none := by
  obtain ⟨hmap, hkey⟩ := name_ne_of_inputMember? hm
  rcases hw with ⟨hmap', -⟩ | ⟨key', f', shape, v, hf', -, hm', -, -, hv, -⟩
  · rw [hmap', Option.map_some, hname] at hmap
    exact absurd rfl hmap
  · obtain rfl : key = key' := by
      rw [← hkey, ← hname, (name_ne_of_inputMember? hm').2]
    rw [hfield] at hf'
    cases hf'
    rw [hv]
    exact Option.some_ne_none v

/-- What the other members hold after a request is filled does not depend on the value of a field,
unless another field has its place. -/
theorem lookup_of_differAt {object request : Accessor} {p : Program} {key : String}
    {f : Field} {m : Member} (h : s.fillInput r o input object request = .ok p)
    (hobject : ¬ IsRequestVariable object.root) (hrequest : ¬ IsRequestVariable request.root)
    (hne : object.root ≠ request.root) (hfield : r.spec.get? key = some f)
    (hmember : f.isAttribute = false)
    (hm : s.inputMember? r o input ((s.requestMapMember r input).map (·.name)) key = some m)
    (hcamel : ∀ key' f', r.spec.get? key' = some f' → f'.names.camel = f.names.camel → key' = key)
    {e₁ e₂ e₁' e₂' : Env} (hopen : e₁.Open request)
    (hdiffer : Env.DifferAt ((object.field "Spec").field f.names.camel) e₁ e₂)
    (hrun₁ : p.execute e₁ = .running e₁') (hrun₂ : p.execute e₂ = .running e₂')
    {name : String} (hname : name ≠ m.name) :
    e₂'.lookup (request.field name) = e₁'.lookup (request.field name) := by
  have hroot : ((object.field "Spec").field f.names.camel).root ≠ request.root := hne
  obtain ⟨e, hrun, hholds₁, hframe₁⟩ := fillInput_holds h hobject hrequest hne hopen
  cases hrun₁.symm.trans hrun
  obtain ⟨e, hrun, hholds₂, hframe₂⟩ := fillInput_holds h hobject hrequest hne
    (hdiffer.open_of_root_ne hroot hopen)
  cases hrun₂.symm.trans hrun
  have hother {m' : Member} (hm' : m'.name = name) :
      s.inputMember? r o input ((s.requestMapMember r input).map (·.name)) key ≠ some m' := by
    intro heq
    rw [hm] at heq
    cases heq
    exact hname hm'.symm
  -- both runs write the same members, with the same values
  by_cases hwritten : ∃ m' w, m'.name = name ∧ s.Writes r o input (object.field "Spec") e₁ m' w
  · obtain ⟨m', w, rfl, hw⟩ := hwritten
    rw [hholds₁ m' w hw,
      hholds₂ m' w (writes_of_differAt hfield hmember hcamel hdiffer (hother rfl) hw)]
  · have hsame₁ : e₁'.lookup (request.field name) = e₁.lookup (request.field name) :=
      hframe₁ _ hrequest fun m' w hw => Accessor.apart_field fun hm' => hwritten ⟨m', w, hm', hw⟩
    have hsame₂ : e₂'.lookup (request.field name) = e₂.lookup (request.field name) := by
      refine hframe₂ _ hrequest fun m' w hw => Accessor.apart_field fun hm' => hwritten ?_
      exact ⟨m', w, hm', writes_of_differAt hfield hmember hcamel hdiffer.symm (hother hm') hw⟩
    rw [hsame₁, hsame₂]
    exact hdiffer _ (Accessor.apart_of_root_ne hroot)

/-- **A request takes a field in one member, and nowhere else.** What the other members hold does
not depend on the value of the field, unless another field has its place. -/
theorem fillInput_sends_field {object request : Accessor} {p : Program} {key : String}
    {f : Field} {m : Member} {shape : Shape}
    (h : s.fillInput r o input object request = .ok p)
    (hobject : ¬ IsRequestVariable object.root) (hrequest : ¬ IsRequestVariable request.root)
    (hne : object.root ≠ request.root) (hfield : r.spec.get? key = some f)
    (hmember : f.isAttribute = false)
    (hm : s.inputMember? r o input ((s.requestMapMember r input).map (·.name)) key = some m)
    (hshape : s.model.shape? m.target = some shape) (htyped : s.model.isTyped shape = true)
    {e : Env} (hopen : e.Open request) :
    ∃ e', p.execute e = .running e' ∧
      e'.lookup (request.field m.name) =
        ((e.present? ((object.field "Spec").field f.names.camel)).map
          ((Copier.mk .outbound s.types).copied shape)).or (e.lookup (request.field m.name)) ∧
      ((∀ key' f', r.spec.get? key' = some f' → f'.names.camel = f.names.camel → key' = key) →
        ∀ e₂ e₂' : Env, Env.DifferAt ((object.field "Spec").field f.names.camel) e e₂ →
          p.execute e₂ = .running e₂' → ∀ name, name ≠ m.name →
            e₂'.lookup (request.field name) = e'.lookup (request.field name)) := by
  obtain ⟨e', hrun, hholds, hframe⟩ := fillInput_holds h hobject hrequest hne hopen
  refine ⟨e', hrun, ?_, fun hcamel e₂ e₂' hdiffer hrun₂ name hname => ?_⟩
  · cases hv : e.present? ((object.field "Spec").field f.names.camel) with
    | some v =>
      exact hholds m _ (Or.inr ⟨key, f, shape, v, hfield, hmember, hm, hshape, htyped, hv, rfl⟩)
    | none =>
      refine hframe _ hrequest fun m' w hw => Accessor.apart_field fun hsame => ?_
      exact present?_of_writes hfield hm hw hsame hv
  · exact lookup_of_differAt h hobject hrequest hne hfield hmember hm hcamel hopen hdiffer hrun
      hrun₂ hname

/-- The member of the attribute map goes by the name that is configured. -/
theorem requestMapMember_eq_iff {m : Member} (hm : m ∈ input.members) :
    (s.requestMapMember r input).map (·.name) = some m.name ↔
      (s.config.attributesMap? r.name).map (·.mapMember) = some m.name := by
  unfold requestMapMember Shape.member?
  cases s.config.attributesMap? r.name with
  | none => rfl
  | some a =>
    simp only [Option.bind_some, Option.map_some, Option.some.injEq]
    constructor
    · intro h
      obtain ⟨m', hm', hname⟩ := Option.map_eq_some_iff.mp h
      have hmap := List.find?_some hm'
      rw [beq_iff_eq] at hmap
      rw [← hname, hmap]
    · intro h
      rw [h]
      cases hfound : input.members.find? (·.name == m.name) with
      | none => exact absurd (beq_self_eq_true m.name) (List.find?_eq_none.mp hfound m hm)
      | some m' =>
        have hname := List.find?_some hfound
        rw [beq_iff_eq] at hname
        rw [Option.map_some, hname]

end Synthesizer

/-- **A Create request takes a field where it comes from, and nowhere else**, when no other member
of the input has the key of the field as its name in the resource. The member it comes from holds
the copy of the field if it has a value, and what it held before otherwise; and what the other
members hold does not depend on the field, unless another field has its place. -/
theorem Schema.fillRequest_reaches_source [PatternEngine] {model : ServiceModel} {config : Config}
    {classifier : Classifier} {schema : Schema}
    (hschema : build model config .standard classifier = .ok schema) {rs : List Resource}
    (hrs : schema.resources = .ok rs) {r : Resource} (hr : r ∈ rs) {create : Operation}
    (hcreate : r.operations.create = some create) {reference : String} {input : Shape}
    (href : create.input = some reference) (hinput : model.shape? reference = some input)
    (hdistinct : (input.members.map (·.name)).Nodup)
    {key member : String} {f : Field} (hfield : r.spec.get? key = some f)
    (hsource : f.source = .member member)
    (hsole : ∀ m ∈ input.members, (config.attributesMap? r.name).map (·.mapMember) ≠ some m.name →
      config.inputName r.name create.name m.name = key → m.name = member)
    {object request : String} {p : Program}
    (hp : schema.synthesizer.fillRequest r .create object request = .ok p)
    (hobject : ¬ IsRequestVariable (Accessor.parse object).root)
    (hrequest : ¬ IsRequestVariable (Accessor.parse request).root)
    (hne : (Accessor.parse object).root ≠ (Accessor.parse request).root) :
    ∃ m shape, m ∈ input.members ∧ m.name = member ∧ model.shape? m.target = some shape ∧
      model.isTyped shape = true ∧ ∀ e : Env, e.Open (.parse request) →
        ∃ e', p.execute e = .running e' ∧
          e'.lookup ((Accessor.parse request).field member) =
            ((e.present? (((Accessor.parse object).field "Spec").field f.names.camel)).map
              ((Copier.mk .outbound schema.types).copied shape)).or
                (e.lookup ((Accessor.parse request).field member)) ∧
          ((∀ key' f', r.spec.get? key' = some f' → f'.names.camel = f.names.camel →
              key' = key) →
            ∀ e₂ e₂' : Env,
              Env.DifferAt (((Accessor.parse object).field "Spec").field f.names.camel) e e₂ →
              p.execute e₂ = .running e₂' → ∀ name, name ≠ member →
                e₂'.lookup ((Accessor.parse request).field name) =
                  e'.lookup ((Accessor.parse request).field name)) := by
  obtain ⟨index, rfl⟩ := build_eq_ok hschema
  obtain ⟨name, -, hderive⟩ := derive_of_mem_resources hrs hr
  obtain ⟨rfl, -, create', reference', input', outputs, hcreate', href', hinput', -, hpartition⟩ :=
    DerivationScope.derive_cases keepsRaw_standard hderive
  rw [hcreate] at hcreate'
  cases hcreate'
  rw [href] at href'
  cases href'
  obtain rfl : input = input' := by
    have h := hinput.symm.trans hinput'
    cases h
    rfl
  rcases hpartition.spec_origin key f hfield with
    ⟨m, hm, hmap, hkey, shape, type, hshape, htype, rfl⟩ | ⟨-, rfl⟩
  · cases hsource
    have hfill := Synthesizer.fillRequest_eq hp hcreate href hinput
    have hmap_iff {m : Member} (hm : m ∈ input.members) := Synthesizer.requestMapMember_eq_iff
      (s := synthesizer ⟨model, config, .standard, index⟩) (r := r) hm
    have hmember := Synthesizer.inputMember?_of_sole
      (s := synthesizer ⟨model, config, .standard, index⟩) hm hdistinct (mt (hmap_iff hm).mp hmap)
      hkey fun m' hm' hmap' => hsole m' hm' (mt (hmap_iff hm').mpr hmap')
    have htyped := (Copier.isTyped_iff_fieldType _ .resource shape).mpr ⟨type, htype⟩
    exact ⟨m, shape, hm, rfl, hshape, htyped, fun e hopen =>
      Synthesizer.fillInput_sends_field hfill hobject hrequest hne hfield rfl hmember hshape
        htyped hopen⟩
  · cases hsource

/-- The request that creates the queue takes its name as it is called on the wire, and the rest of
the request does not depend on it. -/
theorem fillRequest_reaches_queueName :
    ∃ p e', queueSchema.synthesizer.fillRequest queue .create "ko" "res" = .ok p ∧
      p.execute queueEnv = .running e' ∧
      e'.lookup ((Accessor.parse "res").field "QueueName") = some (.str "jobs") ∧
      ∀ e₂ e₂' : Env,
        Env.DifferAt (((Accessor.parse "ko").field "Spec").field "Name") queueEnv e₂ →
        p.execute e₂ = .running e₂' → ∀ name, name ≠ "QueueName" →
          e₂'.lookup ((Accessor.parse "res").field name) =
            e'.lookup ((Accessor.parse "res").field name) := by
  have hvar {x : String} (hx : x.toList.head? ≠ some 'f') (hne : x ≠ attributeMapVar) :
      ¬ IsRequestVariable x := by
    rintro (h | h)
    · exact Temporary.not_isTemporary_of_head hx h
    · exact hne h
  obtain ⟨p, hp⟩ : ∃ p, queueSchema.synthesizer.fillRequest queue .create "ko" "res" = .ok p :=
    ⟨_, rfl⟩
  obtain ⟨f, hf, hsource, hcamel⟩ : ∃ f, queue.spec.get? "Name" = some f ∧
      f.source = .member "QueueName" ∧ f.names.camel = "Name" := ⟨_, rfl, rfl, rfl⟩
  have hsole : ∀ m ∈ createQueueRequest.members,
      (queueConfig.attributesMap? queue.name).map (·.mapMember) ≠ some m.name →
        queueConfig.inputName queue.name createQueue.name m.name = "Name" →
          m.name = "QueueName" := by decide
  have hplaces : ∀ entry ∈ queue.spec.entries, entry.2.names.camel = "Name" → entry.1 = "Name" := by
    decide
  obtain ⟨m, shape, hm, hname, hshape, -, hruns⟩ := Schema.fillRequest_reaches_source
    build_queueSchema resources_queueSchema List.mem_cons_self
    (show queue.operations.create = some createQueue from rfl) rfl
    (show queueModel.shape? "CreateQueueRequest" = some createQueueRequest from rfl) (by decide)
    hf hsource hsole hp (hvar (by decide) (by decide)) (hvar (by decide) (by decide)) (by decide)
  obtain ⟨e', hrun, hlookup, hothers⟩ := hruns queueEnv (by decide)
  refine ⟨p, e', hp, hrun, ?_, ?_⟩
  · have hshape : shape.kind = .scalar .string := by
      have hall : ∀ m ∈ createQueueRequest.members, m.name = "QueueName" →
          queueModel.shape? m.target = some { name := "Text", kind := .scalar .string } := by
        decide
      rw [hall m hm hname] at hshape
      cases hshape
      rfl
    have hpresent : queueEnv.present? (((Accessor.parse "ko").field "Spec").field "Name") =
        some (.str "jobs") := rfl
    rw [hlookup, hcamel, hpresent, Option.map_some, Copier.copied_scalar _ _ hshape]
    rfl
  · rw [hcamel] at hothers
    exact hothers fun key' f' hf' hsame => hplaces (key', f') (Dict.mem_entries_iff.mpr hf') hsame

/-- What creating a queue takes where a name can be given twice. -/
def twoNamesRequest : Shape where
  name := "CreateQueueRequest"
  kind := .structure
    [{ name := "Name", target := "Text", indirection := true },
      { name := "QueueName", target := "Text", indirection := true }]

/-- A service of queues where Create takes a name and a queue name. -/
def twoNamesModel : ServiceModel :=
  (([{ name := "Text", kind := .scalar .string }, twoNamesRequest].foldl
    ServiceModel.addShape (.new "Queues")).addOperation
      { name := "CreateQueue", input := some "CreateQueueRequest" }).finish

/-- The queue name is called just the name. -/
def twoNamesConfig : Config where
  resources := .ofList [("Queue", { renames := some (.ofList [("CreateQueue",
    { inputFields := .ofList [("QueueName", "Name")] })]) })]

/-- The schema of the service. -/
def twoNamesSchema : Schema where
  model := twoNamesModel
  config := twoNamesConfig
  namer := .standard
  index := ⟨[⟨.create, "Queue", { name := "CreateQueue", input := some "CreateQueueRequest" }⟩]⟩

/-- The resource of the service: its name is the queue name. -/
def twoNamesQueue : Resource where
  names := Naming.standardNames "Queue"
  plural := "Queues"
  operations := { create := some { name := "CreateQueue", input := some "CreateQueueRequest" } }
  spec := .ofList
    [("Name", ⟨Naming.standardNames "Name", .string, some "Text", .member "QueueName"⟩)]

/-- A queue with a name. -/
def twoNamesEnv : Env := .ofList [("ko", .obj [("Spec", .obj [("Name", .str "jobs")])])]

/-- **Two members with one key.** The field comes from the last one and goes to the first. -/
theorem fillRequest_misses_source :
    Schema.build twoNamesModel twoNamesConfig .standard (.byConvention .standard) =
        .ok twoNamesSchema ∧
      twoNamesSchema.resources = .ok [twoNamesQueue] ∧
      (∀ shape ∈ twoNamesModel.shapes.values, (shape.members.map (·.name)).Nodup) ∧
      ∃ f p,
        twoNamesQueue.spec.get? "Name" = some f ∧ f.source = .member "QueueName" ∧
        twoNamesSchema.synthesizer.fillRequest twoNamesQueue .create "ko" "res" = .ok p ∧
        p.execute twoNamesEnv =
          .running (twoNamesEnv.insert "res" (.obj [("Name", .str "jobs")])) := by
  have hresources : twoNamesSchema.resources = .ok [twoNamesQueue] := by
    have hnames : twoNamesSchema.resourceNames = ["Queue"] := rfl
    have hderive : twoNamesSchema.derivation.derive twoNamesSchema.index "Queue" =
        .ok twoNamesQueue := rfl
    rw [Schema.resources, hnames, List.mapM_cons, hderive, List.mapM_nil]
    show Except.ok (sortByKind [twoNamesQueue]) = Except.ok [twoNamesQueue]
    rw [sortByKind, List.mergeSort_singleton]
  have hfill : twoNamesSchema.synthesizer.fillRequest twoNamesQueue .create "ko" "res" =
      .ok (twoNamesSchema.synthesizer.program .outbound []
        [.copied ((Accessor.parse "res").field "Name")
          (((Accessor.parse "ko").field "Spec").field "Name") (.scalar .string)]) := rfl
  refine ⟨rfl, hresources, by decide, _, _, rfl, rfl, hfill, ?_⟩
  rw [Program.execute, Synthesizer.program_copied, Copier.copy_scalar]
  rfl

end ResourceGen
