import Mathlib.Data.List.Basic
import ResourceGen.Proofs.Responses

/-!
# The only element of a list

A List response carries resources in a list of structures. Which list that is follows from the
model alone (`Selects`). The program then depends on the number of elements in the response: with
exactly one it makes the updates of that element (`elementUpdates`), with any other number, or
without a list, it does nothing. When several lists could hold the resource and none stands out,
the program is empty.

The element is bound to a variable of its own, so a program of this kind has one variable more
than others (`IsAdoptionVariable`).

Results:
* `resourceList_eq`, `choice_eq_found_iff`, `choice_eq_ambiguous`: the list that is chosen.
* `elementTransfers_agree`: the statements for an element do what its updates do.
* `adoptElement_execute`: the program for a list, by what the response holds.
* `adoptResponse_adopts_only_element`: the program of a List operation of a derived resource.
* `adoptResponse_stops_at_listed_metadata`: that the target can be reached is not enough.
-/

namespace ResourceGen

open Json (Value)
open Statement (itemsOf)
open Env (EqOutside)

/-- The variables that a response program has for itself: the numbered ones and the one that holds
the only element of a list. -/
def IsAdoptionVariable (x : String) : Prop := Temporary.IsTemporary x ∨ x = onlyElementVar

theorem not_isTemporary_onlyElementVar : ¬ Temporary.IsTemporary onlyElementVar :=
  Temporary.not_isTemporary_of_head (by decide)

/-- Writes go through in an environment as in one that differs in none of the variables they
begin with. -/
theorem Env.EqOutside.storeAll_ok {S : String → Prop} {e e' f : Env}
    {us : List (Accessor × Value)} (h : EqOutside S e e') (hus : ∀ u ∈ us, ¬ S u.1.root)
    (hf : e.storeAll us = .ok f) : ∃ f', e'.storeAll us = .ok f' ∧ EqOutside S f f' := by
  induction us generalizing e e' with
  | nil =>
    cases hf
    exact ⟨e', rfl, h⟩
  | cons u rest ih =>
    rw [Env.storeAll_cons] at hf
    obtain ⟨e₁, hstore, hrest⟩ := Result.bind_eq_ok_iff.mp hf
    obtain ⟨e₁', hstore', heq⟩ := h.store_ok (hus u List.mem_cons_self) hstore
    obtain ⟨f', hf', hff'⟩ := ih heq (fun u hu => hus u (List.mem_cons_of_mem _ hu)) hrest
    refine ⟨f', ?_, hff'⟩
    rw [Env.storeAll_cons, hstore']
    exact hf'

namespace Synthesizer

variable (s : Synthesizer) (r : Resource) (o : Operation) (target : InboundTarget)

/-! ## Which list -/

/-- The lists of structures of an output, in declared order. -/
def structureLists (output : Shape) : Result (List ListMember) := do
  return (← output.members.mapM s.listMember).filterMap id

/-- **The list that holds the resources**, when Create returns the shape `created`: the only list
there is; of several the first one with such elements; and without one, the first that is named
after the resource. -/
def Selects (created : Option String) (ls : List ListMember) (l : ListMember) : Prop :=
  ls = [l] ∨ 2 ≤ ls.length ∧
    (ls.find? (fun l => created == some l.element.name) = some l ∨
      (∀ k ∈ ls, created ≠ some k.element.name) ∧
        ls.find? (fun l => isNamedAfter r l.name) = some l)

/-- None of the lists has the elements that Create returns, and none is named after the
resource. -/
def NoneStandsOut (created : Option String) (ls : List ListMember) : Prop :=
  ∀ l ∈ ls, created ≠ some l.element.name ∧ isNamedAfter r l.name = false

variable {s r o target} {output : Shape} {ls : List ListMember} {created : Option String}

theorem find?_created_eq_none_iff :
    ls.find? (fun l => created == some l.element.name) = none ↔
      ∀ l ∈ ls, created ≠ some l.element.name := by
  simp only [List.find?_eq_none, beq_iff_eq, ne_eq]

variable (r created) in
/-- The choice among lists. -/
def choice : List ListMember → ResourceList
  | [] => .absent
  | [only] => .found only
  | l :: l' :: rest =>
    match (l :: l' :: rest).find? (fun l => created == some l.element.name),
        (l :: l' :: rest).find? (fun l => isNamedAfter r l.name) with
    | some l, _ => .found l
    | none, some l => .found l
    | none, none => .ambiguous

variable (s r) in
/-- The choice among the lists of an output. Which shape Create returns is looked up among several
lists only. -/
def choose : List ListMember → Result ResourceList
  | [] => .ok .absent
  | [only] => .ok (.found only)
  | several => (s.createdShape r).map fun created => choice r created several

variable (s r output) in
theorem resourceList_eq_bind : s.resourceList r output = s.structureLists output >>= s.choose r := by
  unfold resourceList structureLists
  simp only [bind_assoc, pure_bind]
  refine Result.bind_congr_ok fun os _ => ?_
  match os.filterMap id with
  | [] | [_] => rfl
  | l :: l' :: rest =>
    have hmap : s.choose r (l :: l' :: rest) =
        s.createdShape r >>= fun created => pure (choice r created (l :: l' :: rest)) := by
      unfold choose
      cases s.createdShape r <;> rfl
    rw [hmap]
    refine Result.bind_congr_ok fun created _ => ?_
    unfold choice
    split <;> simp only [*]

/-- Among several lists it matters which shape Create returns. -/
theorem resourceList_eq (hls : s.structureLists output = .ok ls)
    (hcreated : s.createdShape r = .ok created) :
    s.resourceList r output = .ok (choice r created ls) := by
  rw [resourceList_eq_bind, hls]
  match ls with
  | [] | [_] => rfl
  | l :: l' :: rest => exact congrArg (Except.map (choice r · (l :: l' :: rest))) hcreated

/-- **The list that is chosen.** -/
theorem choice_eq_found_iff {l : ListMember} :
    choice r created ls = .found l ↔ Selects r created ls l := by
  match ls with
  | [] => simp [choice, Selects]
  | [k] => simp [choice, Selects]
  | k :: k' :: rest =>
    have hlen : 2 ≤ (k :: k' :: rest).length := Nat.le_add_left 2 _
    have hne : k :: k' :: rest ≠ [l] := fun h => by cases h
    rw [Selects, or_iff_right hne, and_iff_right hlen, ← find?_created_eq_none_iff, choice]
    cases (k :: k' :: rest).find? (fun l => created == some l.element.name) with
    | some j => simp
    | none => cases (k :: k' :: rest).find? (fun l => isNamedAfter r l.name) <;> simp

theorem Selects.mem {l : ListMember} (h : Selects r created ls l) : l ∈ ls := by
  rcases h with rfl | ⟨-, h | ⟨-, h⟩⟩
  · exact List.mem_singleton_self l
  · exact List.mem_of_find?_eq_some h
  · exact List.mem_of_find?_eq_some h

/-- Of several lists none is chosen when none stands out. -/
theorem choice_eq_ambiguous (hlen : 2 ≤ ls.length) (hnone : NoneStandsOut r created ls) :
    choice r created ls = .ambiguous := by
  have hshape := find?_created_eq_none_iff.mpr fun l hl => (hnone l hl).1
  have hnamed : ls.find? (fun l => isNamedAfter r l.name) = none :=
    List.find?_eq_none.mpr fun l hl => by simp [(hnone l hl).2]
  match ls, hlen, hshape, hnamed with
  | k :: k' :: rest, _, hshape, hnamed => rw [choice, hshape, hnamed]

/-! ## What an element should change -/

variable (s r o target) in
/-- The update that a member makes with its value in the structure `v`. -/
def elementUpdate? (v : Value) (m : Member) : Option (Accessor × Value) :=
  if (s.config.attributesMap? r.name).any (·.mapMember == m.name) then none
  else (s.model.shape? m.target).bind fun shape =>
    (v.presentField? m.name).bind fun w => s.adoption? r o target m shape w

variable (s r o target) in
/-- The updates that an element makes, in the declared order of the members of its shape. -/
def elementUpdates (shape : Shape) (v : Value) : List (Accessor × Value) :=
  shape.members.filterMap (s.elementUpdate? r o target v)

theorem isPlace_of_mem_elementUpdates {shape : Shape} {v : Value} {u : Accessor × Value}
    (h : u ∈ s.elementUpdates r o target shape v) : IsPlace r target u.1 := by
  obtain ⟨m, -, h⟩ := List.mem_filterMap.mp h
  unfold elementUpdate? at h
  split at h
  · cases h
  · obtain ⟨shape, -, h⟩ := Option.bind_eq_some_iff.mp h
    obtain ⟨w, -, h⟩ := Option.bind_eq_some_iff.mp h
    exact isPlace_of_adoption? h

/-- Every place is below the target. -/
theorem IsPlace.root_eq {a : Accessor} (h : IsPlace r target a) :
    a.root = target.statusRoot.root := by
  rcases h with ⟨f, -, rfl⟩ | ⟨spec, name, hspec, rfl⟩ | rfl
  · rfl
  · rw [Accessor.field_root, InboundTarget.root_of_specRoot? hspec]
  · rfl

/-- A member of the element is read from the variable that holds the element. -/
theorem memberUpdate?_of_get? {x : String} {e : Env} {v : Value} (hx : e.get? x = some v)
    (m : Member) : s.memberUpdate? r o target (.var x) e m = s.elementUpdate? r o target v m := by
  have hpresent : e.present? ((Accessor.var x).field m.name) = v.presentField? m.name := by
    rw [← Copier.presentField?_read, Env.read_var e hx]
  unfold memberUpdate? elementUpdate?
  rw [hpresent]

/-- Places of a target can be written one after the other if each can be written. -/
theorem exists_storeAll_places {us : List (Accessor × Value)} {e : Env}
    (hplace : ∀ u ∈ us, IsPlace r target u.1)
    (hmetadata : ∀ f ∈ r.status.values, f.names.camel ≠ metadataField)
    (hwritable : ∀ u ∈ us, e.Writable u.1) : ∃ f, e.storeAll us = .ok f :=
  Env.exists_storeAll_places (fun u hu w hw _ hp =>
    (hplace w hw).names_eq_of_isPrefix (hplace u hu) hmetadata hp) hwritable

/-! ## Programs -/

/-- **The statements for an element do what its updates do.** -/
theorem elementTransfers_agree {path : List String} {shape : Shape} {ts : List Transfer}
    (h : s.memberTransfers r o path (.var onlyElementVar) target shape = .ok ts)
    (htarget : ¬ IsAdoptionVariable target.statusRoot.root) {e f : Env} {v : Value}
    (hf : e.storeAll (s.elementUpdates r o target shape v) = .ok f) :
    ∃ e', (s.program .inbound [] ts).execute (e.insert onlyElementVar v) = .running e' ∧
      EqOutside IsAdoptionVariable f e' := by
  have hnumbered : ¬ Temporary.IsTemporary target.statusRoot.root := fun h => htarget (Or.inl h)
  have helem : target.statusRoot.root ≠ onlyElementVar := fun h => htarget (Or.inr h)
  have hrun := memberTransfers_agree h not_isTemporary_onlyElementVar hnumbered helem.symm
    (e.insert onlyElementVar v)
  have hupdates : shape.members.filterMap
      (s.memberUpdate? r o target (.var onlyElementVar) (e.insert onlyElementVar v)) =
        s.elementUpdates r o target shape v :=
    List.filterMap_congr fun m _ => memberUpdate?_of_get? (Dict.get?_insert_self e _ v) m
  -- the writes do not touch the variable of the element
  obtain ⟨f', hf', hff'⟩ := Env.EqOutside.storeAll_ok
    (Env.eqOutside_insert (S := (· = onlyElementVar)) e rfl v)
    (fun u hu hroot => helem ((isPlace_of_mem_elementUpdates hu).root_eq.symm.trans hroot)) hf
  rw [hupdates, hf'] at hrun
  obtain ⟨e', hrun, heq⟩ := hrun
  exact ⟨e', hrun, (hff'.mono fun _ => Or.inr).trans (heq.mono fun _ => Or.inl)⟩

/-- The statement for a list does nothing unless there is exactly one element. -/
theorem run_ifSingleElement_of_ne {source : Accessor} {x : String} {body : List Statement}
    {e : Env} (h : ∀ v, e.lookup source ≠ some (.arr [v])) :
    Statement.run (.ifSingleElement source x body) e = .running e := by
  unfold Statement.run
  split
  · rename_i only hitems
    unfold itemsOf at hitems
    split at hitems
    · rename_i items hlookup
      exact absurd (hitems ▸ hlookup) (h only)
    · cases hitems
  · rfl

theorem run_ifSingleElement {source : Accessor} {x : String} {body : List Statement} {e : Env}
    {v : Value} (h : e.lookup source = some (.arr [v])) :
    Statement.run (.ifSingleElement source x body) e = Statement.runAll body (e.insert x v) := by
  rw [Statement.run, h]
  rfl

/-- **The program for a list takes over the only element.** -/
theorem adoptElement_execute {response : Accessor} {l : ListMember} {p : Program}
    (h : s.adoptElement r o output response target l = .ok p)
    (htarget : ¬ IsAdoptionVariable target.statusRoot.root)
    (hmetadata : ∀ f ∈ r.status.values, f.names.camel ≠ metadataField) (e : Env) :
    ((∀ v, e.lookup (response.field l.name) ≠ some (.arr [v])) → p.execute e = .running e) ∧
      ∀ v, e.lookup (response.field l.name) = some (.arr [v]) →
        (∀ u ∈ s.elementUpdates r o target l.element v, e.Writable u.1) →
        ∃ f e', e.storeAll (s.elementUpdates r o target l.element v) = .ok f ∧
          p.execute e = .running e' ∧ EqOutside IsAdoptionVariable f e' := by
  unfold adoptElement at h
  obtain ⟨path, -, h⟩ := Result.bind_eq_ok_iff.mp h
  obtain ⟨ts, hts, h⟩ := Result.bind_eq_ok_iff.mp h
  obtain rfl := Result.pure_eq_ok_iff.mp h
  rw [Program.execute, Statement.runAll_singleton]
  refine ⟨run_ifSingleElement_of_ne, fun v hv hwritable => ?_⟩
  obtain ⟨f, hf⟩ := exists_storeAll_places (fun _ => isPlace_of_mem_elementUpdates) hmetadata
    hwritable
  obtain ⟨e', hrun, heq⟩ := elementTransfers_agree hts htarget hf
  refine ⟨f, e', hf, ?_, heq⟩
  rw [run_ifSingleElement hv]
  exact hrun

/-- The program of an operation whose output is known. -/
theorem adoptResponse_eq {role : Role} {reference : String} (ho : r.operations.get? role = some o)
    (href : o.output = some reference) (houtput : s.model.shape? reference = some output)
    (target : InboundTarget) (response : String) :
    s.adoptResponse r role response target =
      s.adoptOutput r role o output (.parse response) target := by
  have hresolve : s.model.resolve reference o.name = .ok output :=
    ServiceModel.resolve_eq_ok_iff.mpr houtput
  unfold adoptResponse payload
  simp only [ho, href, hresolve]
  rfl

/-- What Create returns is known where its members are. -/
theorem exists_createdShape {d : DerivationScope} {create : Operation} {outputs : List Member}
    (hmodel : d.model = s.model) (hcreate : r.operations.create = some create)
    (houtputs : d.createdMembers create = .ok outputs) :
    ∃ created, s.createdShape r = .ok created := by
  unfold DerivationScope.createdMembers at houtputs
  unfold createdShape payload
  simp only [hcreate]
  rw [hmodel] at houtputs
  cases href : create.output with
  | none => exact ⟨none, rfl⟩
  | some reference =>
    simp only [href] at houtputs
    obtain ⟨output, houtput, houtputs⟩ := Result.bind_eq_ok_iff.mp houtputs
    obtain ⟨u, hu, -⟩ := Result.bind_eq_ok_iff.mp houtputs
    refine ⟨some u.shape.name, Result.bind_eq_ok_iff.mpr ⟨some output, ?_, ?_⟩⟩
    · show (s.model.resolve reference create.name).map some = _
      rw [houtput]
      rfl
    · exact Result.bind_eq_ok_iff.mpr ⟨u, hu, rfl⟩

end Synthesizer

/-- **A List response is taken over when its list has exactly one element.** For every resource of
a schema: the program of the list that is selected leaves everything as it is unless the response
holds a list of one element there; then the values are updated in the declared order of the members
of the element, where each place that is written can be reached. When there are several lists and
none stands out, the program is empty. -/
theorem Schema.adoptResponse_adopts_only_element [PatternEngine] {model : ServiceModel}
    {config : Config} {classifier : Classifier} {schema : Schema}
    (hschema : build model config .standard classifier = .ok schema) {rs : List Resource}
    (hrs : schema.resources = .ok rs) {r : Resource} (hr : r ∈ rs) {o : Operation}
    (ho : r.operations.get? .list = some o) {reference : String} {output : Shape}
    (href : o.output = some reference) (houtput : model.shape? reference = some output)
    {ls : List ListMember} (hls : schema.synthesizer.structureLists output = .ok ls)
    (target : InboundTarget) (response : String) :
    ∃ created, schema.synthesizer.createdShape r = .ok created ∧
      (∀ l p, Synthesizer.Selects r created ls l →
        schema.synthesizer.adoptResponse r .list response target = .ok p →
        ¬ IsAdoptionVariable target.statusRoot.root →
        (∀ f ∈ r.status.values, f.names.camel ≠ metadataField) →
        ∀ e : Env,
          ((∀ v, e.lookup ((Accessor.parse response).field l.name) ≠ some (.arr [v])) →
            p.execute e = .running e) ∧
          ∀ v, e.lookup ((Accessor.parse response).field l.name) = some (.arr [v]) →
            (∀ u ∈ schema.synthesizer.elementUpdates r o target l.element v, e.Writable u.1) →
            ∃ f e', e.storeAll (schema.synthesizer.elementUpdates r o target l.element v) =
                .ok f ∧
              p.execute e = .running e' ∧ EqOutside IsAdoptionVariable f e') ∧
      (2 ≤ ls.length → Synthesizer.NoneStandsOut r created ls →
        schema.synthesizer.adoptResponse r .list response target = .ok (.empty .inbound)) := by
  obtain ⟨index, rfl⟩ := build_eq_ok hschema
  obtain ⟨name, -, hderive⟩ := derive_of_mem_resources hrs hr
  obtain ⟨-, -, create, -, -, outputs, hcreate, -, -, houtputs, -⟩ :=
    DerivationScope.derive_cases keepsRaw_standard hderive
  obtain ⟨created, hcreated⟩ := Synthesizer.exists_createdShape
    (s := synthesizer ⟨model, config, .standard, index⟩) rfl hcreate houtputs
  have hadopt := Synthesizer.adoptResponse_eq
    (s := synthesizer ⟨model, config, .standard, index⟩) ho href houtput target response
  rw [Synthesizer.adoptOutput, if_pos rfl, Synthesizer.resourceList_eq hls hcreated] at hadopt
  refine ⟨created, hcreated, fun l p hselects hp htarget hmetadata e => ?_, fun hlen hnone => ?_⟩
  · rw [hadopt, Synthesizer.choice_eq_found_iff.mpr hselects] at hp
    exact Synthesizer.adoptElement_execute hp htarget hmetadata e
  · rw [hadopt, Synthesizer.choice_eq_ambiguous hlen hnone]
    rfl

/-- The operation that lists queues. -/
def listQueues : Operation where
  name := "ListQueues"
  output := some "ListQueuesResponse"

/-- What is known of a queue. -/
def queueDescription : Shape where
  name := "Description"
  kind := .structure
    [{ name := "QueueName", target := "Text", indirection := true },
      { name := "QueueArn", target := "Text", indirection := true },
      { name := "createdAt", target := "Text", indirection := true },
      { name := "tags", target := "TextMap" }]

/-- What went wrong with a queue. -/
def queueFailure : Shape where
  name := "Failure"
  kind := .structure [{ name := "reason", target := "Text", indirection := true }]

/-- A listing has failures beside queues. -/
def listQueuesResponse : Shape where
  name := "ListQueuesResponse"
  kind := .structure
    [{ name := "failures", target := "Failures" }, { name := "Queues", target := "Descriptions" }]
  usedAsOutput := true

/-- The service of queues with a listing. -/
def listingModel : ServiceModel :=
  (([queueFailure, { name := "Failures", kind := .list "Failure" },
    { name := "Descriptions", kind := .list "Description" },
    listQueuesResponse].foldl ServiceModel.addShape queueModel).addOperation listQueues).finish

/-- The schema of the service with a listing. -/
def listingSchema : Schema where
  model := listingModel
  config := queueConfig
  namer := .standard
  index := ⟨[⟨.create, "Queue", createQueue⟩, ⟨.list, "Queue", listQueues⟩]⟩

/-- The resource of the service with a listing. -/
def listedQueue : Resource :=
  { queue with operations := { create := some createQueue, readMany := some listQueues } }

/-- A description in a response. -/
def describedJobs : Value := .obj [("QueueArn", .str "arn:q"), ("createdAt", .str "now")]

/-- A response that lists given queues, beside a Status. -/
def listingEnv (status : Value) (queues : List Value) : Env :=
  .ofList [("ko", .obj [("Status", status)]), ("resp", .obj [("Queues", .arr queues)])]

theorem build_listingSchema [PatternEngine] :
    Schema.build listingModel queueConfig .standard (.byConvention .standard) =
      .ok listingSchema := rfl

theorem resources_listingSchema : listingSchema.resources = .ok [listedQueue] :=
  Schema.resources_of_single (show listingSchema.resourceNames = ["Queue"] from rfl) rfl

theorem structureLists_listQueuesResponse :
    listingSchema.synthesizer.structureLists listQueuesResponse =
      .ok [⟨"failures", queueFailure⟩, ⟨"Queues", queueDescription⟩] := rfl

/-- The failures are not taken for queues. -/
theorem selects_queues :
    Synthesizer.Selects listedQueue (some "Description")
      [⟨"failures", queueFailure⟩, ⟨"Queues", queueDescription⟩] ⟨"Queues", queueDescription⟩ :=
  Or.inr ⟨by decide, Or.inl rfl⟩

/-- A single queue is taken over, two are not. -/
theorem adoptResponse_adopts_only_queue :
    ∃ p f e',
      listingSchema.synthesizer.adoptResponse listedQueue .list "resp" (.resource "ko") = .ok p ∧
      p.execute (listingEnv .null [describedJobs, describedJobs]) =
        .running (listingEnv .null [describedJobs, describedJobs]) ∧
      p.execute (listingEnv .null [describedJobs]) = .running e' ∧
      EqOutside IsAdoptionVariable f e' ∧
      f.lookup (arnSlot (.parse "ko.Status")) = some (.str "arn:q") ∧
      f.lookup ((Accessor.parse "ko.Status").field "CreatedAt") = some (.str "now") := by
  obtain ⟨p, hp⟩ : ∃ p,
      listingSchema.synthesizer.adoptResponse listedQueue .list "resp" (.resource "ko") = .ok p :=
    ⟨_, rfl⟩
  have hko : ¬ IsAdoptionVariable (InboundTarget.resource "ko").statusRoot.root := by
    rintro (h | h)
    · exact not_isTemporary_ko h
    · exact absurd h (by decide)
  obtain ⟨created, hcreated, hadopts, -⟩ := Schema.adoptResponse_adopts_only_element
    build_listingSchema resources_listingSchema List.mem_cons_self
    (show listedQueue.operations.get? .list = some listQueues from rfl) rfl
    (show listingModel.shape? "ListQueuesResponse" = some listQueuesResponse from rfl)
    structureLists_listQueuesResponse (.resource "ko") "resp"
  cases hcreated
  have hrun := hadopts _ p selects_queues hp hko camel_ne_metadataField
  have hplaces : ∀ u ∈ listingSchema.synthesizer.elementUpdates listedQueue listQueues
      (.resource "ko") queueDescription describedJobs,
      (listingEnv .null [describedJobs]).Writable u.1 := by
    intro u hu
    refine (Synthesizer.isPlace_of_mem_elementUpdates hu).writable (by decide) ?_
    intro spec hspec
    cases hspec
    decide
  obtain ⟨f, e', hf, hone, heq⟩ :=
    (hrun (listingEnv .null [describedJobs])).2 describedJobs rfl hplaces
  have hnow : (Copier.mk .inbound listingSchema.types).copied
      { name := "Text", kind := .scalar .string } (.str "now") = .str "now" :=
    Copier.copied_scalar _ _ rfl
  refine ⟨p, f, e', hp, (hrun _).1 (fun v h => by cases h), hone, heq, ?_⟩
  cases hf
  exact ⟨rfl, congrArg some hnow⟩

/-- **That the target can be reached is not enough** for an element either: its ARN goes below the
Status, and the run stops where the metadata is no object. -/
theorem adoptResponse_stops_at_listed_metadata :
    Schema.build listingModel queueConfig .standard (.byConvention .standard) =
        .ok listingSchema ∧
      listingSchema.resources = .ok [listedQueue] ∧
      listingSchema.synthesizer.createdShape listedQueue = .ok (some "Description") ∧
      ∃ ls l p,
        listingSchema.synthesizer.structureLists listQueuesResponse = .ok ls ∧
        Synthesizer.Selects listedQueue (some "Description") ls l ∧
        listingSchema.synthesizer.adoptResponse listedQueue .list "resp" (.status "ko.Status") =
          .ok p ∧
        ¬ Temporary.IsTemporary (Accessor.parse "resp").root ∧
        ¬ Temporary.IsTemporary (Accessor.parse "ko.Status").root ∧
        (Accessor.parse "resp").root ≠ (Accessor.parse "ko.Status").root ∧
        (∀ f ∈ listedQueue.status.values, f.names.camel ≠ metadataField) ∧
        (listingEnv (.obj [("ACKResourceMetadata", .str "none")]) [describedJobs]).Open
          (.parse "ko.Status") ∧
        (listingEnv (.obj [("ACKResourceMetadata", .str "none")]) [describedJobs]).lookup
          ((Accessor.parse "resp").field l.name) = some (.arr [describedJobs]) ∧
        (p.execute (listingEnv (.obj [("ACKResourceMetadata", .str "none")])
            [describedJobs])).failed =
          some (.notAnObject "ko.Status.ACKResourceMetadata.ARN" "ARN") := by
  refine ⟨build_listingSchema, resources_listingSchema, rfl, _, _, _,
    structureLists_listQueuesResponse, selects_queues, rfl, not_isTemporary_resp,
    not_isTemporary_ko, by decide, camel_ne_metadataField, by decide, rfl, rfl⟩

end ResourceGen
