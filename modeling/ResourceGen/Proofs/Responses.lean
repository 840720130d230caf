import ResourceGen.Proofs.Partition
import ResourceGen.Proofs.Transfers

/-!
# Responses update the fields they own

Running the program of `Synthesizer.adoptResponse` updates a resource in the declared order of the
members of the output. Each member with a value makes one update at most (`adoption?`): of the
Status field with its name in the resource; or of the Spec field, when a whole resource is the
target; or of the ARN in the metadata, when no field has its name. Two members may be renamed to
one field, so the order counts and the updates are stated as writes one after the other.

The program for the element of a list of structures is not treated here.

Results:
* `memberTransfer_update`: the transfer of a member comes to its update.
* `adoptResponse_agrees`: in every environment the program does what the updates do.
* `adoptResponse_updates_owned`: it runs through where each place that is written can be reached,
  and nothing else changes.
* `adoptResponse_stops_at_metadata`: that the target can be reached is not enough, since the ARN
  goes below it.
-/

namespace ResourceGen

open Json (Value)
open Statement (runAll)
open Env (EqOutside)

namespace InboundTarget

theorem root_of_specRoot? {target : InboundTarget} {spec : Accessor}
    (h : target.specRoot? = some spec) : spec.root = target.statusRoot.root := by
  cases target with
  | status root => cases h
  | resource root => cases h; rfl

/-- The Spec is beside the Status. -/
theorem names_of_specRoot? {target : InboundTarget} {spec : Accessor}
    (h : target.specRoot? = some spec) :
    spec.names.length = target.statusRoot.names.length ∧ spec.names ≠ target.statusRoot.names := by
  cases target with
  | status root => cases h
  | resource root =>
    cases h
    simp [statusRoot]

end InboundTarget

namespace Synthesizer

/-! ## What a response should change -/

variable (s : Synthesizer) (r : Resource) (o : Operation) (target : InboundTarget)

/-- What a field takes of a value of a shape: the copy, if the shape has a type. -/
def fieldCopy? (shape : Shape) (v : Value) : Option Value :=
  if s.model.isTyped shape then some ((Copier.mk .inbound s.types).copied shape v) else none

/-- The update that a member of a shape makes with its value: the Status field with its name in
the resource, else the Spec field, else the ARN, which takes the value as it is. -/
def adoption? (m : Member) (shape : Shape) (v : Value) : Option (Accessor × Value) :=
  match r.status.get? (s.config.outputName r.name o.name m.name),
      r.spec.get? (s.config.outputName r.name o.name m.name) with
  | some f, _ => (s.fieldCopy? shape v).map fun w => (target.statusRoot.field f.names.camel, w)
  | none, some f => target.specRoot?.bind fun spec =>
    (s.fieldCopy? shape v).map fun w => (spec.field f.names.camel, w)
  | none, none => if r.isArnMember m.name then some (arnSlot target.statusRoot, v) else none

/-- The update of a member of the structure at `source`: none for the member of the attribute map,
for a member without a shape, and without a value. -/
def memberUpdate? (source : Accessor) (e : Env) (m : Member) : Option (Accessor × Value) :=
  if (s.config.attributesMap? r.name).any (·.mapMember == m.name) then none
  else (s.model.shape? m.target).bind fun shape =>
    (e.present? (source.field m.name)).bind fun v => s.adoption? r o target m shape v

/-- The updates that an output makes, in the declared order of its members; those of a wrapped
output are below the wrapper. -/
def outputUpdates (output : Unwrapped) (response : Accessor) (e : Env) :
    List (Accessor × Value) :=
  let source := match output.wrapper with
    | none => response
    | some wrapper => response.field wrapper
  output.shape.members.filterMap (s.memberUpdate? r o target source e)

/-- The updates of the response of the operation with a role; none without an output. -/
def responseUpdates (role : Role) (response : Accessor) (e : Env) :
    Result (List (Accessor × Value)) := do
  match r.operations.get? role with
  | none => return []
  | some o =>
    match ← s.payload o o.output with
    | none => return []
    | some output => return s.outputUpdates r o target (← s.model.unwrap output) response e

/-! ## One member -/

variable {s r o target} {path : List String} {source : Accessor} {m : Member}

/-- A member with a field takes its copy there. -/
theorem adoption?_of_dest {shape : Shape} {dest : Accessor}
    (h : outputDest? r target (s.config.outputName r.name o.name m.name) = some dest) (v : Value) :
    s.adoption? r o target m shape v = (s.fieldCopy? shape v).map fun w => (dest, w) := by
  unfold outputDest? at h
  unfold adoption?
  cases hstatus : r.status.get? (s.config.outputName r.name o.name m.name) with
  | some f =>
    rw [hstatus] at h
    cases h
    rfl
  | none =>
    rw [hstatus] at h
    cases htarget : target.specRoot? with
    | none => simp [htarget] at h
    | some spec =>
      cases hspec : r.spec.get? (s.config.outputName r.name o.name m.name) with
      | none => simp [htarget, hspec] at h
      | some f =>
        simp only [htarget, hspec, Option.bind_eq_bind, Option.bind_some, Option.pure_def,
          Option.some.injEq] at h
        subst h
        rfl

/-- A member without a field can be the ARN, unless it is named like a Spec field. -/
theorem adoption?_of_no_dest {shape : Shape}
    (h : outputDest? r target (s.config.outputName r.name o.name m.name) = none) (v : Value) :
    s.adoption? r o target m shape v =
      if !r.spec.contains (s.config.outputName r.name o.name m.name) && r.isArnMember m.name then
        some (arnSlot target.statusRoot, v) else none := by
  unfold outputDest? at h
  unfold adoption? Dict.contains
  cases hstatus : r.status.get? (s.config.outputName r.name o.name m.name) with
  | some f =>
    rw [hstatus] at h
    cases h
  | none =>
    rw [hstatus] at h
    cases hspec : r.spec.get? (s.config.outputName r.name o.name m.name) with
    | none => cases r.isArnMember m.name <;> rfl
    | some f =>
      cases htarget : target.specRoot? with
      | none => rfl
      | some spec => simp [htarget, hspec] at h

/-- A copy to a place comes to the copied value there. -/
theorem copyOf_update {dest : Accessor} {shape : Shape} {t : Option Transfer}
    (h : s.copyOf path dest source shape = .ok t) (e : Env) :
    t.bind (Transfer.update? ⟨.inbound, s.types⟩ e) =
      (e.present? source).bind fun v => (s.fieldCopy? shape v).map fun w => (dest, w) := by
  unfold fieldCopy?
  rcases copyOf_cases h with ⟨htyped, rfl⟩ | ⟨htyped, l, hl, rfl⟩
  · rw [htyped]
    cases e.present? source <;> rfl
  · rw [htyped, Option.bind_some]
    unfold Transfer.update? Transfer.source Transfer.dest Transfer.carried
    cases e.present? source with
    | none => rfl
    | some v =>
      have hcopied := Copier.valueOf_eq_copied ⟨.inbound, s.types⟩ l hl v
      simp [hcopied]

/-- **The transfer of a member comes to its update.** -/
theorem memberTransfer_update {t : Option Transfer}
    (h : s.memberTransfer r o path source target m = .ok t) (e : Env) :
    t.bind (Transfer.update? ⟨.inbound, s.types⟩ e) = s.memberUpdate? r o target source e m := by
  unfold memberTransfer at h
  unfold memberUpdate?
  cases hshape : s.model.shape? m.target with
  | none =>
    simp only [hshape] at h
    cases h
    split <;> rfl
  | some shape =>
    simp only [hshape] at h
    by_cases hmap : (s.config.attributesMap? r.name).any (·.mapMember == m.name) = true
    · rw [if_pos hmap] at h ⊢
      cases h
      rfl
    · rw [if_neg hmap] at h ⊢
      rw [Option.bind_some]
      cases hdest : outputDest? r target (s.config.outputName r.name o.name m.name) with
      | some dest =>
        simp only [hdest] at h
        simp only [adoption?_of_dest hdest]
        exact copyOf_update h e
      | none =>
        simp only [hdest] at h
        simp only [adoption?_of_no_dest hdest]
        cases h
        split
        · show Transfer.update? ⟨.inbound, s.types⟩ e (.handed _ (source.field m.name) _) = _
          unfold Transfer.update? Transfer.source Transfer.dest Transfer.carried
          cases e.present? (source.field m.name) <;> rfl
        · cases e.present? (source.field m.name) <;> rfl

/-- The transfer of a member leads from the response to the target. -/
theorem roots_of_memberTransfer {t : Transfer}
    (h : s.memberTransfer r o path source target m = .ok (some t)) :
    t.dest.root = target.statusRoot.root ∧ t.source.root = source.root := by
  have hcopy {dest : Accessor} {shape : Shape} (hdest : dest.root = target.statusRoot.root)
      (h : s.copyOf path dest (source.field m.name) shape = .ok (some t)) :
      t.dest.root = target.statusRoot.root ∧ t.source.root = source.root := by
    rcases copyOf_cases h with ⟨-, h⟩ | ⟨-, l, -, h⟩
    · cases h
    · cases h
      exact ⟨hdest, rfl⟩
  unfold memberTransfer at h
  cases hshape : s.model.shape? m.target with
  | none => simp only [hshape] at h; cases h
  | some shape =>
    simp only [hshape] at h
    split at h
    · cases h
    · cases hdest : outputDest? r target (s.config.outputName r.name o.name m.name) with
      | some dest =>
        simp only [hdest] at h
        refine hcopy ?_ h
        unfold outputDest? at hdest
        cases hstatus : r.status.get? (s.config.outputName r.name o.name m.name) with
        | some f =>
          rw [hstatus] at hdest
          cases hdest
          rfl
        | none =>
          rw [hstatus] at hdest
          obtain ⟨spec, hspec, hdest⟩ := Option.bind_eq_some_iff.mp hdest
          obtain ⟨f, -, hdest⟩ := Option.bind_eq_some_iff.mp hdest
          cases hdest
          show spec.root = target.statusRoot.root
          exact InboundTarget.root_of_specRoot? hspec
      | none =>
        simp only [hdest] at h
        split at h
        · cases h
          exact ⟨rfl, rfl⟩
        · cases h

/-! ## The whole response -/

/-- The statements for the members of a structure do what their updates do. -/
theorem memberTransfers_agree {shape : Shape} {ts : List Transfer}
    (h : s.memberTransfers r o path source target shape = .ok ts)
    (hsource : ¬ Temporary.IsTemporary source.root)
    (htarget : ¬ Temporary.IsTemporary target.statusRoot.root)
    (hne : source.root ≠ target.statusRoot.root) (e : Env) :
    ((s.program .inbound [] ts).execute e).AgreesWith Temporary.IsTemporary
      (e.storeAll (shape.members.filterMap (s.memberUpdate? r o target source e))) := by
  unfold memberTransfers at h
  obtain ⟨os, hos, h⟩ := Result.bind_eq_ok_iff.mp h
  obtain rfl := Result.pure_eq_ok_iff.mp h
  rw [← Result.filterMap_of_mapM hos fun m _ t hm => memberTransfer_update hm e]
  exact program_agrees (forall_of_mapM hos fun _ _ _ hm => roots_of_memberTransfer hm) hsource
    htarget hne e

/-- The program for the members of an output does what their updates do. -/
theorem adoptMembers_agrees {output : Shape} {response : Accessor} {p : Program}
    (h : s.adoptMembers r o output response target = .ok p)
    (hresponse : ¬ Temporary.IsTemporary response.root)
    (htarget : ¬ Temporary.IsTemporary target.statusRoot.root)
    (hne : response.root ≠ target.statusRoot.root) (e : Env) :
    ∃ u, s.model.unwrap output = .ok u ∧
      (p.execute e).AgreesWith Temporary.IsTemporary
        (e.storeAll (s.outputUpdates r o target u response e)) := by
  unfold adoptMembers at h
  obtain ⟨u, hu, h⟩ := Result.bind_eq_ok_iff.mp h
  refine ⟨u, hu, ?_⟩
  unfold outputUpdates
  cases hw : u.wrapper with
  | none =>
    simp only [hw] at h
    obtain ⟨ts, hts, h⟩ := Result.bind_eq_ok_iff.mp h
    obtain rfl := Result.pure_eq_ok_iff.mp h
    exact memberTransfers_agree hts hresponse htarget hne e
  | some wrapper =>
    simp only [hw] at h
    obtain ⟨path, -, h⟩ := Result.bind_eq_ok_iff.mp h
    obtain ⟨ts, hts, h⟩ := Result.bind_eq_ok_iff.mp h
    obtain rfl := Result.pure_eq_ok_iff.mp h
    exact memberTransfers_agree hts hresponse htarget hne e

/-- Without lists of structures there is nothing to choose from. -/
theorem adoptOutput_eq {role : Role} {output : Shape} {response : Accessor} {p : Program}
    (h : s.adoptOutput r role o output response target = .ok p)
    (hlist : role = .list → ∀ m ∈ output.members, ∀ l, s.listMember m ≠ .ok (some l)) :
    s.adoptMembers r o output response target = .ok p := by
  unfold adoptOutput at h
  split at h
  · rename_i hrole
    obtain ⟨found, hfound, h⟩ := Result.bind_eq_ok_iff.mp h
    unfold resourceList at hfound
    obtain ⟨ls, hls, hfound⟩ := Result.bind_eq_ok_iff.mp hfound
    have hnone : ls.filterMap id = [] := by
      refine List.filterMap_eq_nil_iff.mpr fun l hl => ?_
      obtain ⟨m, hm, hml⟩ := Result.exists_of_mem_mapM hls hl
      cases l with
      | none => rfl
      | some l => exact absurd hml (hlist hrole m hm l)
    rw [hnone] at hfound
    cases hfound
    exact h
  · exact h

variable (s r target) in
/-- The output of a List operation, if it is the role's, has no list of structures. -/
def NoResourceList (role : Role) : Prop :=
  role = .list → ∀ o output, r.operations.get? role = some o →
    s.payload o o.output = .ok (some output) →
    ∀ m ∈ output.members, ∀ l, s.listMember m ≠ .ok (some l)

/-- **The program that takes over a response does what its updates do**, in every environment: it
stops where they stop. -/
theorem adoptResponse_agrees {role : Role} {response : String} {p : Program}
    (h : s.adoptResponse r role response target = .ok p) (hlist : s.NoResourceList r role)
    (hresponse : ¬ Temporary.IsTemporary (Accessor.parse response).root)
    (htarget : ¬ Temporary.IsTemporary target.statusRoot.root)
    (hne : (Accessor.parse response).root ≠ target.statusRoot.root) (e : Env) :
    ∃ us, s.responseUpdates r target role (.parse response) e = .ok us ∧
      (p.execute e).AgreesWith Temporary.IsTemporary (e.storeAll us) := by
  unfold adoptResponse at h
  unfold responseUpdates
  have hempty : ((Program.empty .inbound).execute e).AgreesWith Temporary.IsTemporary
      (e.storeAll []) := by
    show (runAll [] e).AgreesWith Temporary.IsTemporary (.ok e)
    rw [Statement.runAll_nil]
    exact Outcome.agreesWith_running _ e
  cases ho : r.operations.get? role with
  | none =>
    simp only [ho] at h ⊢
    obtain rfl := Result.pure_eq_ok_iff.mp h
    exact ⟨[], rfl, hempty⟩
  | some o =>
    simp only [ho] at h ⊢
    obtain ⟨payload, hpayload, h⟩ := Result.bind_eq_ok_iff.mp h
    cases payload with
    | none =>
      obtain rfl := Result.pure_eq_ok_iff.mp h
      exact ⟨[], Result.bind_eq_ok_iff.mpr ⟨none, hpayload, rfl⟩, hempty⟩
    | some output =>
      have hmembers := adoptOutput_eq h fun hrole => hlist hrole o output ho hpayload
      obtain ⟨u, hu, hagrees⟩ := adoptMembers_agrees hmembers hresponse htarget hne e
      refine ⟨s.outputUpdates r o target u (.parse response) e, ?_, hagrees⟩
      exact Result.bind_eq_ok_iff.mpr ⟨some output, hpayload,
        Result.bind_eq_ok_iff.mpr ⟨u, hu, rfl⟩⟩

/-! ## Places that are written -/

variable (r target) in
/-- A place that an update can write: a Status field, a Spec field, the ARN. -/
def IsPlace (a : Accessor) : Prop :=
  (∃ f ∈ r.status.values, a = target.statusRoot.field f.names.camel) ∨
    (∃ spec name, target.specRoot? = some spec ∧ a = spec.field name) ∨
    a = arnSlot target.statusRoot

theorem isPlace_of_adoption? {shape : Shape} {v : Value} {u : Accessor × Value}
    (h : s.adoption? r o target m shape v = some u) : IsPlace r target u.1 := by
  unfold adoption? at h
  split at h
  · rename_i f hstatus
    obtain ⟨w, -, rfl⟩ := Option.map_eq_some_iff.mp h
    exact Or.inl ⟨f, Dict.mem_values_of_get? hstatus, rfl⟩
  · obtain ⟨spec, hspec, h⟩ := Option.bind_eq_some_iff.mp h
    obtain ⟨w, -, rfl⟩ := Option.map_eq_some_iff.mp h
    exact Or.inr (Or.inl ⟨spec, _, hspec, rfl⟩)
  · split at h
    · cases h
      exact Or.inr (Or.inr rfl)
    · cases h

theorem isPlace_of_mem_outputUpdates {output : Unwrapped} {response : Accessor} {e : Env}
    {u : Accessor × Value} (h : u ∈ s.outputUpdates r o target output response e) :
    IsPlace r target u.1 := by
  unfold outputUpdates at h
  obtain ⟨m, -, h⟩ := List.mem_filterMap.mp h
  unfold memberUpdate? at h
  split at h
  · cases h
  · obtain ⟨shape, -, h⟩ := Option.bind_eq_some_iff.mp h
    obtain ⟨v, -, h⟩ := Option.bind_eq_some_iff.mp h
    exact isPlace_of_adoption? h

theorem isPlace_of_mem_responseUpdates {role : Role} {response : Accessor} {e : Env}
    {us : List (Accessor × Value)} (h : s.responseUpdates r target role response e = .ok us)
    {u : Accessor × Value} (hu : u ∈ us) : IsPlace r target u.1 := by
  unfold responseUpdates at h
  cases ho : r.operations.get? role with
  | none =>
    simp only [ho] at h
    obtain rfl := Result.pure_eq_ok_iff.mp h
    cases hu
  | some o =>
    simp only [ho] at h
    obtain ⟨payload, -, h⟩ := Result.bind_eq_ok_iff.mp h
    cases payload with
    | none =>
      obtain rfl := Result.pure_eq_ok_iff.mp h
      cases hu
    | some output =>
      obtain ⟨unwrapped, -, h⟩ := Result.bind_eq_ok_iff.mp h
      obtain rfl := Result.pure_eq_ok_iff.mp h
      exact isPlace_of_mem_outputUpdates hu

/-- A place by its names: one step below a base beside the Status, or the ARN. -/
theorem IsPlace.names_cases {a : Accessor} (h : IsPlace r target a)
    (hmetadata : ∀ f ∈ r.status.values, f.names.camel ≠ metadataField) :
    (∃ base name, a.names = base ++ [name] ∧ base.length = target.statusRoot.names.length ∧
        (base = target.statusRoot.names → name ≠ metadataField)) ∨
      a.names = target.statusRoot.names ++ [metadataField] ++ [metadataArn] := by
  rcases h with ⟨f, hf, rfl⟩ | ⟨spec, name, hspec, rfl⟩ | rfl
  · exact Or.inl ⟨_, _, Accessor.field_names _ _, rfl, fun _ => hmetadata f hf⟩
  · obtain ⟨hlen, hne⟩ := InboundTarget.names_of_specRoot? hspec
    exact Or.inl ⟨_, _, Accessor.field_names _ _, hlen, fun heq => absurd heq hne⟩
  · refine Or.inr ?_
    rw [arnSlot, Accessor.field_names, Accessor.field_names]

/-- **No place is on the way to another.** -/
theorem IsPlace.names_eq_of_isPrefix {a b : Accessor} (ha : IsPlace r target a)
    (hb : IsPlace r target b) (hmetadata : ∀ f ∈ r.status.values, f.names.camel ≠ metadataField)
    (hp : b.names <+: a.names) : b.names = a.names := by
  have hle := hp.length_le
  rcases ha.names_cases hmetadata with ⟨base, name, ha, hlen, -⟩ | ha <;>
    rcases hb.names_cases hmetadata with ⟨base', name', hb, hlen', hname⟩ | hb
  · refine hp.eq_of_length ?_
    simp only [ha, hb, List.length_append, hlen, hlen']
    rfl
  · rw [ha, hb] at hle
    simp only [List.length_append, List.length_singleton] at hle
    omega
  · -- only a field called like the metadata would lead to the ARN
    rw [ha, hb] at hp
    have hshort : base' ++ [name'] <+: target.statusRoot.names ++ [metadataField] := by
      refine List.prefix_of_prefix_length_le hp (List.prefix_append _ _) ?_
      simp only [List.length_append, hlen', List.length_singleton]
      exact Nat.le_refl _
    have heq := hshort.eq_of_length (by simp only [List.length_append, hlen']; rfl)
    obtain ⟨hbase, hfield⟩ := List.append_inj heq hlen'
    cases hfield
    exact absurd rfl (hname hbase)
  · rw [ha, hb]

/-- A place can be written where the metadata and the Spec are absent, null or objects, and all
that leads to them. -/
theorem IsPlace.writable {a : Accessor} {e : Env} (h : IsPlace r target a)
    (hstatus : e.Open (target.statusRoot.field metadataField))
    (hspec : ∀ spec, target.specRoot? = some spec → e.Open spec) : e.Writable a := by
  rcases h with ⟨f, -, rfl⟩ | ⟨spec, name, hs, rfl⟩ | rfl
  · exact Env.writable_field_iff.mpr hstatus.of_field
  · exact Env.writable_field_iff.mpr (hspec spec hs)
  · exact Env.writable_field_iff.mpr hstatus

/-- **Responses update exactly the fields they own.** Where each place that is written can be
reached, the program runs through and leaves the values updated in the declared order of the
output members; nothing else changes but temporaries. -/
theorem adoptResponse_updates_owned {role : Role} {response : String} {p : Program} {e : Env}
    (h : s.adoptResponse r role response target = .ok p) (hlist : s.NoResourceList r role)
    (hresponse : ¬ Temporary.IsTemporary (Accessor.parse response).root)
    (htarget : ¬ Temporary.IsTemporary target.statusRoot.root)
    (hne : (Accessor.parse response).root ≠ target.statusRoot.root)
    (hmetadata : ∀ f ∈ r.status.values, f.names.camel ≠ metadataField)
    (hwritable : ∀ us, s.responseUpdates r target role (.parse response) e = .ok us →
      ∀ u ∈ us, e.Writable u.1) :
    ∃ us f e', s.responseUpdates r target role (.parse response) e = .ok us ∧
      e.storeAll us = .ok f ∧ p.execute e = .running e' ∧
      EqOutside Temporary.IsTemporary f e' := by
  obtain ⟨us, hus, hagrees⟩ := adoptResponse_agrees h hlist hresponse htarget hne e
  have hstep : ∀ u ∈ us, ∀ e : Env, (∀ w ∈ us, e.Writable w.1) →
      ∃ f, e.store u.1 u.2 = .ok f ∧ ∀ w ∈ us, f.Writable w.1 := by
    intro u hu e he
    obtain ⟨f, hf⟩ := (Env.exists_store_iff e u.1 u.2).mpr (he u hu)
    refine ⟨f, hf, fun w hw => Env.writable_store hf (he w hw) fun _ hp => ?_⟩
    exact (isPlace_of_mem_responseUpdates hus hw).names_eq_of_isPrefix
      (isPlace_of_mem_responseUpdates hus hu) hmetadata hp
  obtain ⟨f, hf, -⟩ := Env.exists_storeAll hstep (hwritable us hus)
  rw [hf] at hagrees
  obtain ⟨e', hrun, heq⟩ := hagrees
  exact ⟨us, f, e', hus, hf, hrun, heq⟩

end Synthesizer

/-- A response to the creation of a queue, beside a resource without a Status. -/
def createdEnv : Env :=
  .ofList
    [("ko", .obj [("Spec", .obj [])]),
      ("resp", .obj [("Queue", .obj [("QueueArn", .str "arn:q"), ("QueueName", .str "jobs"),
        ("createdAt", .str "now")])])]

/-- The same response beside metadata that is no object. -/
def metadataEnv : Env :=
  .ofList
    [("ko", .obj [("Status", .obj [("ACKResourceMetadata", .str "none")])]),
      ("resp", .obj [("Queue", .obj [("QueueArn", .str "arn:q")])])]

theorem not_isTemporary_ko : ¬ Temporary.IsTemporary "ko" :=
  Temporary.not_isTemporary_of_head (by decide)

theorem not_isTemporary_resp : ¬ Temporary.IsTemporary "resp" :=
  Temporary.not_isTemporary_of_head (by decide)

theorem camel_ne_metadataField : ∀ f ∈ queue.status.values, f.names.camel ≠ metadataField := by
  decide

/-- The new queue is taken over into its resource. -/
theorem adoptResponse_updates_queue :
    ∃ p us f e',
      queueSchema.synthesizer.adoptResponse queue .create "resp" (.resource "ko") = .ok p ∧
      us.map (fun u => u.1.toText) =
        ["ko.Spec.Name", "ko.Status.ACKResourceMetadata.ARN", "ko.Status.CreatedAt"] ∧
      createdEnv.storeAll us = .ok f ∧ p.execute createdEnv = .running e' ∧
      EqOutside Temporary.IsTemporary f e' := by
  obtain ⟨p, hp⟩ : ∃ p,
      queueSchema.synthesizer.adoptResponse queue .create "resp" (.resource "ko") = .ok p :=
    ⟨_, rfl⟩
  have hplaces (us : List (Accessor × Value))
      (hus : queueSchema.synthesizer.responseUpdates queue (.resource "ko") .create
        (.parse "resp") createdEnv = .ok us) : ∀ u ∈ us, createdEnv.Writable u.1 := by
    intro u hu
    refine (Synthesizer.isPlace_of_mem_responseUpdates hus hu).writable (by decide) ?_
    intro spec hspec
    cases hspec
    decide
  obtain ⟨us, f, e', hus, hf, hrun, heq⟩ := Synthesizer.adoptResponse_updates_owned hp
    (fun h => by cases h) not_isTemporary_resp not_isTemporary_ko (by decide)
    camel_ne_metadataField hplaces
  refine ⟨p, us, f, e', hp, ?_, hf, hrun, heq⟩
  cases hus
  rfl

/-- **That the target can be reached is not enough.** The ARN goes below the Status, and the run
stops where the metadata is no object. -/
theorem adoptResponse_stops_at_metadata :
    Schema.build queueModel queueConfig .standard (.byConvention .standard) = .ok queueSchema ∧
      queueSchema.resources = .ok [queue] ∧
      ∃ p,
        queueSchema.synthesizer.adoptResponse queue .create "resp" (.status "ko.Status") = .ok p ∧
        queueSchema.synthesizer.NoResourceList queue .create ∧
        ¬ Temporary.IsTemporary (Accessor.parse "resp").root ∧
        ¬ Temporary.IsTemporary (Accessor.parse "ko.Status").root ∧
        (Accessor.parse "resp").root ≠ (Accessor.parse "ko.Status").root ∧
        (∀ f ∈ queue.status.values, f.names.camel ≠ metadataField) ∧
        metadataEnv.Open (.parse "ko.Status") ∧
        (p.execute metadataEnv).failed =
          some (.notAnObject "ko.Status.ACKResourceMetadata.ARN" "ARN") := by
  refine ⟨build_queueSchema, resources_queueSchema, _, rfl, fun h => (by cases h),
    not_isTemporary_resp, not_isTemporary_ko, by decide, camel_ne_metadataField, by decide, rfl⟩

end ResourceGen
