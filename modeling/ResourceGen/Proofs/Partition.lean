import ResourceGen.Pattern.Template
import ResourceGen.Proofs.Dictionary
import ResourceGen.Proofs.Unfolding
import ResourceGen.Schema

/-!
# Spec and Status of a derived resource

Deriving a resource enters fields one after the other: first the Spec, from the members of the
Create input and the writable keys of the attribute map; then the Status, from the members of the
Create output and the observed keys. Members can be renamed to one key, and keys can be named like
members, so a later entry may take the place of an earlier one.

What carries the proofs is `Sound`, which holds of every resource on the way from the finished
Spec to the finished resource, and `Extends`, which says that nothing entered is lost on that way.

Results:
* `outputPart_cases`, `inputField_cases`: what becomes of one member.
* `sound_addOutputPart`, `sound_addStatusKey`: one step keeps the Spec and the Status apart and
  enters only fields with an origin.
* `derive_cases`: a derived resource has a Create operation, and its fields are a `Partition` of
  the members of its payloads.
* `resources_partition`: so it is for the resources of a schema.
-/

namespace ResourceGen

/-- What one step of a fold brings about stays when the other steps keep it. -/
theorem foldl_of_step {α β : Type} {f : β → α → β} {Q : α → β → Prop} {l : List α}
    (hstep : ∀ x ∈ l, ∀ b, Q x (f b x)) (hkeep : ∀ x b y, Q x b → Q x (f b y)) (b : β) {x : α}
    (hx : x ∈ l) : Q x (l.foldl f b) := by
  induction l generalizing b with
  | nil => cases hx
  | cons y rest ih =>
    have hothers := fun x hx => hstep x (List.mem_cons_of_mem _ hx)
    rcases List.mem_cons.mp hx with rfl | hx
    · exact List.foldlRecOn rest f (hstep x List.mem_cons_self b) fun b hb z _ => hkeep x b z hb
    · exact ih hothers (f b y) hx

namespace AttributeRoutes

theorem mem_keysFor_iff {c : AttributeMapConfig} {route : KeyRoute} {key : String} :
    key ∈ keysFor c route ↔ ∃ f, c.fields.get? key = some f ∧ f.route = route := by
  unfold keysFor
  simp only [List.mem_map, List.mem_filter, decide_eq_true_eq, Prod.exists, exists_and_right,
    exists_eq_right, Dict.mem_entries_iff]

end AttributeRoutes

/-! ## Origins of fields -/

namespace DerivationScope

variable (s : DerivationScope) (resource : String) (create : Operation)

/-- The member of the attribute map of a resource. -/
def mapMember? : Option String := (s.config.attributesMap? resource).map (·.mapMember)

/-- The configuration sends a key of the attribute map to a place. -/
def RoutedTo (key : String) (route : KeyRoute) : Prop :=
  ∃ a, s.config.attributesMap? resource = some a ∧
    ∃ f, a.fields.get? key = some f ∧ f.route = route

/-- The field is that of a member with a given key: the type is that of the member's shape on the
side of the resources. -/
def IsFieldOf (m : Member) (key : String) (f : Field) : Prop :=
  ∃ shape type, s.model.shape? m.target = some shape ∧
    s.types.fieldType .resource shape = .ok (some type) ∧
    f = ⟨s.namer.names key, type, some shape.name, .member m.name⟩

/-- A member gives a field, since its shape has a type. -/
def HasField (m : Member) : Prop :=
  ∃ shape type, s.model.shape? m.target = some shape ∧
    s.types.fieldType .resource shape = .ok (some type)

/-- What a Spec field comes from: a member of the Create input, by its name in the resource, or a
writable key. -/
def SpecOrigin (input : Shape) (key : String) (f : Field) : Prop :=
  (∃ m ∈ input.members, s.mapMember? resource ≠ some m.name ∧
      s.config.inputName resource create.name m.name = key ∧ s.IsFieldOf m key f) ∨
    (s.RoutedTo resource key .spec ∧ f = s.attributeField key)

/-- What a Status field comes from: a member of the Create output that is not the ARN, by its name
in the resource, or an observed key. -/
def StatusOrigin (outputs : List Member) (key : String) (f : Field) : Prop :=
  (∃ m ∈ outputs, s.mapMember? resource ≠ some m.name ∧ isArnMember resource m.name = false ∧
      s.config.outputName resource create.name m.name = key ∧ s.IsFieldOf m key f) ∨
    (s.RoutedTo resource key .status ∧ f = s.attributeField key)

/-- The members that Create returns, without the wrapper; none without an output. -/
def createdMembers : Result (List Member) := do
  match create.output with
  | none => return []
  | some reference =>
    let output ← s.model.resolve reference create.name
    return (← s.model.unwrap output).shape.members

/-! ## One member -/

variable {s resource create}

theorem memberField_eq_ok_iff {key member : String} {shape : Shape} {f : Option Field} :
    s.memberField key member shape = .ok f ↔
      ∃ t, s.types.fieldType .resource shape = .ok t ∧
        f = t.map fun t => ⟨s.namer.names key, t, some shape.name, .member member⟩ := by
  unfold memberField
  rw [Result.bind_eq_ok_iff]
  refine exists_congr fun t => and_congr_right fun _ => ?_
  rw [Result.pure_eq_ok_iff, eq_comm]

/-- Without a type on the side of the resources a member gives no field. -/
theorem not_hasField {m : Member} {shape : Shape} (hshape : s.model.shape? m.target = some shape)
    (ht : s.types.fieldType .resource shape = .ok none) : ¬ s.HasField m := by
  rintro ⟨shape', type, hshape', htype⟩
  rw [hshape] at hshape'
  cases hshape'
  rw [ht] at htype
  cases htype

/-- What becomes of an input member. -/
theorem inputField_cases {mapMember : Option String} {input : Shape} {m : Member}
    {f : Option Field} (h : s.inputField resource create.name mapMember input m = .ok f) :
    (f = none ∧ (mapMember = some m.name ∨ ¬ s.HasField m)) ∨
      ∃ g, f = some g ∧ mapMember ≠ some m.name ∧
        s.IsFieldOf m (s.config.inputName resource create.name m.name) g := by
  unfold inputField at h
  obtain ⟨shape, hshape, h⟩ := Result.bind_eq_ok_iff.mp h
  have hshape := ServiceModel.resolve_eq_ok_iff.mp hshape
  split at h
  · rename_i hm
    exact Or.inl ⟨(Result.pure_eq_ok_iff.mp h).symm, Or.inl (beq_iff_eq.mp hm)⟩
  · rename_i hm
    have hne : mapMember ≠ some m.name := fun heq => hm (beq_iff_eq.mpr heq)
    obtain ⟨t, ht, rfl⟩ := memberField_eq_ok_iff.mp h
    cases t with
    | none => exact Or.inl ⟨rfl, Or.inr (not_hasField hshape ht)⟩
    | some type => exact Or.inr ⟨_, rfl, hne, shape, type, hshape, ht, rfl⟩

/-- What becomes of an output member. -/
theorem outputPart_cases {mapMember : Option String} {spec : Dict Field} {output : Shape}
    {m : Member} {part : OutputPart}
    (h : s.outputPart resource create.name mapMember spec output m = .ok part) :
    (part = .nothing ∧ (mapMember = some m.name ∨
        spec.contains (s.config.outputName resource create.name m.name) = true ∨
        ¬ s.HasField m)) ∨
      (mapMember ≠ some m.name ∧
        spec.contains (s.config.outputName resource create.name m.name) = false ∧
        ((part = .arn m.name ∧ isArnMember resource m.name = true) ∨
          ∃ f, part = .field f ∧ isArnMember resource m.name = false ∧
            s.IsFieldOf m (s.config.outputName resource create.name m.name) f)) := by
  unfold outputPart at h
  obtain ⟨shape, hshape, h⟩ := Result.bind_eq_ok_iff.mp h
  have hshape := ServiceModel.resolve_eq_ok_iff.mp hshape
  simp only at h
  split at h
  · rename_i hm
    rw [Bool.or_eq_true, beq_iff_eq] at hm
    exact Or.inl ⟨(Result.pure_eq_ok_iff.mp h).symm, hm.imp_right Or.inl⟩
  · rename_i hm
    rw [Bool.or_eq_true, beq_iff_eq, not_or, Bool.not_eq_true] at hm
    split at h
    · rename_i harn
      exact Or.inr ⟨hm.1, hm.2, Or.inl ⟨(Result.pure_eq_ok_iff.mp h).symm, harn⟩⟩
    · rename_i harn
      rw [Bool.not_eq_true] at harn
      obtain ⟨f, hf, h⟩ := Result.bind_eq_ok_iff.mp h
      obtain ⟨t, ht, rfl⟩ := memberField_eq_ok_iff.mp hf
      cases t with
      | none =>
        exact Or.inl ⟨(Result.pure_eq_ok_iff.mp h).symm, Or.inr (Or.inr (not_hasField hshape ht))⟩
      | some type =>
        exact Or.inr ⟨hm.1, hm.2, Or.inr ⟨_, (Result.pure_eq_ok_iff.mp h).symm, harn,
          shape, type, hshape, ht, rfl⟩⟩

end DerivationScope

/-! ## Growing resources -/

/-- The second resource is the first with more in its Status and perhaps with an identifier. -/
structure Resource.Extends (r r' : Resource) : Prop where
  names : r'.names = r.names
  operations : r'.operations = r.operations
  spec : r'.spec = r.spec
  status : ∀ key, r.status.contains key = true → r'.status.contains key = true
  identifier : ∀ p, r.primaryIdentifier = some p → r'.primaryIdentifier = some p

namespace Resource

theorem Extends.refl (r : Resource) : r.Extends r :=
  ⟨rfl, rfl, rfl, fun _ h => h, fun _ h => h⟩

theorem Extends.trans {r r' r'' : Resource} (h : r.Extends r') (h' : r'.Extends r'') :
    r.Extends r'' :=
  ⟨h'.names.trans h.names, h'.operations.trans h.operations, h'.spec.trans h.spec,
    fun key hk => h'.status key (h.status key hk),
    fun p hp => h'.identifier p (h.identifier p hp)⟩

/-- A Status field changes nothing but the Status and the packages. -/
theorem addStatusField_eq (r : Resource) (f : Field) :
    ∃ imports, r.addStatusField f =
      { r with status := r.status.insert f.names.raw f, typeImports := imports } := by
  unfold addStatusField addTypeImport
  split <;> exact ⟨_, rfl⟩

theorem status_addStatusField (r : Resource) (f : Field) :
    (r.addStatusField f).status = r.status.insert f.names.raw f := by
  obtain ⟨imports, h⟩ := r.addStatusField_eq f
  rw [h]

theorem primaryIdentifier_addStatusField (r : Resource) (f : Field) :
    (r.addStatusField f).primaryIdentifier = r.primaryIdentifier := by
  obtain ⟨imports, h⟩ := r.addStatusField_eq f
  rw [h]

theorem extends_addStatusField (r : Resource) (f : Field) : r.Extends (r.addStatusField f) := by
  obtain ⟨imports, h⟩ := r.addStatusField_eq f
  rw [h]
  refine ⟨rfl, rfl, rfl, fun key hk => ?_, fun p hp => hp⟩
  show (r.status.insert f.names.raw f).contains key = true
  rw [Dict.contains_insert, hk, Bool.or_true]

theorem extends_bindPrimaryIdentifier (r : Resource) (p : PrimaryIdentifier) :
    r.Extends (r.bindPrimaryIdentifier p) := by
  refine ⟨rfl, rfl, rfl, fun _ h => h, fun q hq => ?_⟩
  show r.primaryIdentifier.or (some p) = some q
  rw [hq, Option.some_or]

theorem Extends.withOwner {r r' : Resource} (h : r.Extends r') (owner : Option String) :
    r.Extends { r' with ownerAccountId := owner } :=
  ⟨h.names, h.operations, h.spec, h.status, h.identifier⟩

theorem extends_foldl {α : Type} {f : Resource → α → Resource}
    (h : ∀ (r : Resource) (a : α), r.Extends (f r a))
    (l : List α) (r : Resource) : r.Extends (l.foldl f r) :=
  List.foldlRecOn l f (motive := r.Extends) (Extends.refl r) fun b hb a _ => hb.trans (h b a)

theorem foldl_addSpecField (fs : List Field) (r : Resource) :
    fs.foldl addSpecField r =
      { r with spec := fs.foldl (fun d f => d.insert f.names.raw f) r.spec } := by
  induction fs generalizing r with
  | nil => rfl
  | cons f rest ih => exact ih (r.addSpecField f)

end Resource

namespace DerivationScope

variable (s : DerivationScope) (resource : String) (create : Operation)

/-- The Status of a resource on the way: apart from the Spec, with an origin for every field, and
with an identifier that is an ARN member if it is a member. -/
structure Sound (outputs : List Member) (r : Resource) : Prop where
  apart : ∀ key, r.status.contains key = true → r.spec.contains key = false
  origin : ∀ key f, r.status.get? key = some f →
    s.StatusOrigin resource create outputs key f
  identifier : ∀ operation member, r.primaryIdentifier = some (.member operation member) →
    operation = create.name ∧ isArnMember resource member = true

variable {s resource create} {outputs : List Member} {r : Resource}

theorem Sound.addStatusField (h : s.Sound resource create outputs r) {f : Field}
    (hapart : r.spec.contains f.names.raw = false)
    (horigin : s.StatusOrigin resource create outputs f.names.raw f) :
    s.Sound resource create outputs (r.addStatusField f) := by
  have hspec := (r.extends_addStatusField f).spec
  refine ⟨fun key hk => ?_, fun key g hg => ?_, fun operation member hp => ?_⟩
  · rw [Resource.status_addStatusField, Dict.contains_insert, Bool.or_eq_true,
      decide_eq_true_eq] at hk
    rw [hspec]
    rcases hk with rfl | hk
    · exact hapart
    · exact h.apart key hk
  · rw [Resource.status_addStatusField, Dict.get?_insert] at hg
    split at hg
    · rename_i hk
      cases hg
      exact hk ▸ horigin
    · exact h.origin key g hg
  · rw [Resource.primaryIdentifier_addStatusField] at hp
    exact h.identifier operation member hp

theorem Sound.bindPrimaryIdentifier (h : s.Sound resource create outputs r)
    {p : PrimaryIdentifier}
    (hp : ∀ operation member, p = .member operation member →
      operation = create.name ∧ isArnMember resource member = true) :
    s.Sound resource create outputs (r.bindPrimaryIdentifier p) := by
  refine ⟨h.apart, h.origin, fun operation member hm => ?_⟩
  have hm : r.primaryIdentifier.or (some p) = some (.member operation member) := hm
  cases hr : r.primaryIdentifier with
  | some q =>
    rw [hr, Option.some_or] at hm
    exact h.identifier operation member (hr.trans hm)
  | none =>
    rw [hr, Option.none_or] at hm
    cases hm
    exact hp operation member rfl

theorem Sound.withOwner (h : s.Sound resource create outputs r) (owner : Option String) :
    s.Sound resource create outputs { r with ownerAccountId := owner } :=
  ⟨h.apart, h.origin, h.identifier⟩

/-- Names keep the text they are made from. -/
def KeepsRaw (s : DerivationScope) : Prop := ∀ text, (s.namer.names text).raw = text

/-- **An output member keeps the Status sound.** -/
theorem sound_addOutputPart (hraw : s.KeepsRaw) (h : s.Sound resource create outputs r)
    {output : Shape} {m : Member} (hm : m ∈ outputs) {part : OutputPart}
    (hpart : s.outputPart resource create.name (s.mapMember? resource) r.spec output m = .ok part) :
    s.Sound resource create outputs (addOutputPart create.name r part) := by
  rcases outputPart_cases hpart with ⟨rfl, -⟩ | ⟨hmap, hspec, ⟨rfl, harn⟩ | ⟨f, rfl, harn, hf⟩⟩
  · exact h
  · refine h.bindPrimaryIdentifier fun operation member heq => ?_
    cases heq
    exact ⟨rfl, harn⟩
  · have hkey : f.names.raw = s.config.outputName resource create.name m.name := by
      obtain ⟨shape, type, -, -, rfl⟩ := hf
      exact hraw _
    refine h.addStatusField (hkey ▸ hspec) (Or.inl ⟨m, hm, hmap, harn, hkey.symm, ?_⟩)
    exact hkey ▸ hf

theorem extends_addOutputPart (name : String) (r : Resource) (part : OutputPart) :
    r.Extends (addOutputPart name r part) := by
  cases part with
  | nothing => exact Resource.Extends.refl r
  | arn member => exact r.extends_bindPrimaryIdentifier _
  | field f => exact r.extends_addStatusField f

/-- What entering an output member brings about. -/
def Entered : OutputPart → Resource → Prop
  | .nothing, _ => True
  | .arn _, r => r.primaryIdentifier.isSome = true
  | .field f, r => r.status.contains f.names.raw = true

theorem entered_addOutputPart (name : String) (r : Resource) (part : OutputPart) :
    Entered part (addOutputPart name r part) := by
  cases part with
  | nothing => trivial
  | arn member =>
    show (r.primaryIdentifier.or _).isSome = true
    cases r.primaryIdentifier <;> rfl
  | field f =>
    show (r.addStatusField f).status.contains f.names.raw = true
    rw [Resource.status_addStatusField, Dict.contains_insert, decide_eq_true rfl, Bool.true_or]

theorem Entered.extends {part : OutputPart} {r r' : Resource} (h : Entered part r)
    (hr : r.Extends r') : Entered part r' := by
  cases part with
  | nothing => trivial
  | arn member =>
    obtain ⟨p, hp⟩ := Option.isSome_iff_exists.mp h
    exact Option.isSome_iff_exists.mpr ⟨p, hr.identifier p hp⟩
  | field f => exact hr.status _ h

/-- **An observed key keeps the Status sound.** -/
theorem sound_addStatusKey (hraw : s.KeepsRaw) (h : s.Sound resource create outputs r)
    {key : String} (hkey : s.RoutedTo resource key .status) :
    s.Sound resource create outputs (s.addStatusKey r key) := by
  unfold addStatusKey
  split
  · exact h
  · rename_i hfree
    rw [Bool.or_eq_true, not_or, Bool.not_eq_true] at hfree
    have hname : (s.attributeField key).names.raw = key := hraw key
    refine h.addStatusField ?_ (Or.inr ⟨?_, ?_⟩)
    · rw [hname]
      exact hfree.1
    · rw [hname]
      exact hkey
    · rw [hname]

theorem extends_addStatusKey (r : Resource) (key : String) : r.Extends (s.addStatusKey r key) := by
  unfold addStatusKey
  split
  · exact Resource.Extends.refl r
  · exact r.extends_addStatusField _

theorem contains_addStatusKey (hraw : s.KeepsRaw) (r : Resource) (key : String) :
    (s.addStatusKey r key).spec.contains key = true ∨
      (s.addStatusKey r key).status.contains key = true := by
  unfold addStatusKey
  split
  · rename_i h
    exact Bool.or_eq_true_iff.mp h
  · rw [Resource.status_addStatusField, Dict.contains_insert]
    have hname : (s.attributeField key).names.raw = key := hraw key
    simp [hname]

/-! ## The whole derivation -/

/-- Spec and Status of a resource are a partition of the members of the Create payloads and of
the routed keys. -/
structure Partition (s : DerivationScope) (resource : String) (create : Operation) (input : Shape)
    (outputs : List Member) (r : Resource) : Prop where
  disjoint : ∀ key, ¬ (r.spec.contains key = true ∧ r.status.contains key = true)
  spec_origin : ∀ key f, r.spec.get? key = some f → s.SpecOrigin resource create input key f
  status_origin : ∀ key f, r.status.get? key = some f →
    s.StatusOrigin resource create outputs key f
  keeps_input : ∀ m ∈ input.members, s.mapMember? resource ≠ some m.name → s.HasField m →
    r.spec.contains (s.config.inputName resource create.name m.name) = true
  /-- An output member that is no field is the ARN, and then some ARN member is bound. -/
  keeps_output : ∀ m ∈ outputs, s.mapMember? resource ≠ some m.name → s.HasField m →
    r.spec.contains (s.config.outputName resource create.name m.name) = true ∨
      r.status.contains (s.config.outputName resource create.name m.name) = true ∨
      isArnMember resource m.name = true ∧
        ∃ member, r.primaryIdentifier = some (.member create.name member)
  keeps_writable : ∀ key, s.RoutedTo resource key .spec → r.spec.contains key = true
  keeps_observed : ∀ key, s.RoutedTo resource key .status →
    r.spec.contains key = true ∨ r.status.contains key = true
  /-- The resource has no ARN members but those that are named so. -/
  arn : ∀ member, r.isArnMember member = isArnMember resource member

theorem inputFields_cases {mapMember : Option String} {fs : List Field}
    (h : s.inputFields resource create mapMember = .ok fs) :
    ∃ reference input, create.input = some reference ∧ s.model.shape? reference = some input ∧
      (∀ f ∈ fs, ∃ m ∈ input.members,
        s.inputField resource create.name mapMember input m = .ok (some f)) ∧
      ∀ m ∈ input.members, ∃ o, s.inputField resource create.name mapMember input m = .ok o ∧
        ∀ f, o = some f → f ∈ fs := by
  unfold inputFields at h
  cases hin : create.input with
  | none => rw [hin] at h; cases h
  | some reference =>
    rw [hin] at h
    obtain ⟨input, hinput, h⟩ := Result.bind_eq_ok_iff.mp h
    obtain ⟨os, hos, h⟩ := Result.bind_eq_ok_iff.mp h
    obtain rfl := Result.pure_eq_ok_iff.mp h
    refine ⟨reference, input, rfl, ServiceModel.resolve_eq_ok_iff.mp hinput, ?_, ?_⟩
    · intro f hf
      obtain ⟨o, ho, hof⟩ := List.mem_filterMap.mp hf
      have hof : o = some f := hof
      obtain ⟨m, hm, hmo⟩ := Result.exists_of_mem_mapM hos ho
      exact ⟨m, hm, hof ▸ hmo⟩
    · intro m hm
      obtain ⟨o, ho, hmo⟩ := Result.exists_of_mem_of_mapM hos hm
      exact ⟨o, hmo, fun f hf => List.mem_filterMap.mpr ⟨o, ho, hf⟩⟩

/-- The members of the Create output are gone through in declared order. -/
theorem outputParts_eq_mapM {mapMember : Option String} {spec : Dict Field}
    {parts : List OutputPart} (h : s.outputParts resource create mapMember spec = .ok parts) :
    ∃ outputs output, s.createdMembers create = .ok outputs ∧
      outputs.mapM (s.outputPart resource create.name mapMember spec output) = .ok parts := by
  unfold outputParts at h
  unfold createdMembers
  cases hout : create.output with
  | none =>
    rw [hout] at h
    obtain rfl := Result.pure_eq_ok_iff.mp h
    exact ⟨[], default, rfl, rfl⟩
  | some reference =>
    rw [hout] at h
    obtain ⟨output, houtput, h⟩ := Result.bind_eq_ok_iff.mp h
    obtain ⟨inner, hinner, h⟩ := Result.bind_eq_ok_iff.mp h
    refine ⟨inner.shape.members, inner.shape, ?_, h⟩
    exact Result.bind_eq_ok_iff.mpr
      ⟨output, houtput, Result.bind_eq_ok_iff.mpr ⟨inner, hinner, rfl⟩⟩

theorem outputParts_cases {mapMember : Option String} {spec : Dict Field}
    {parts : List OutputPart} (h : s.outputParts resource create mapMember spec = .ok parts) :
    ∃ outputs output, s.createdMembers create = .ok outputs ∧
      (∀ part ∈ parts, ∃ m ∈ outputs,
        s.outputPart resource create.name mapMember spec output m = .ok part) ∧
      ∀ m ∈ outputs, ∃ part ∈ parts,
        s.outputPart resource create.name mapMember spec output m = .ok part := by
  obtain ⟨outputs, output, houtputs, hparts⟩ := outputParts_eq_mapM h
  exact ⟨outputs, output, houtputs, fun part hp => Result.exists_of_mem_mapM hparts hp,
    fun m hm => Result.exists_of_mem_of_mapM hparts hm⟩

/-- The keys of the attribute map with a given route; none without a map. -/
theorem routed_iff {route : KeyRoute} {key : String} :
    s.RoutedTo resource key route ↔
      ∃ a, s.config.attributesMap? resource = some a ∧ key ∈ AttributeRoutes.keysFor a route := by
  unfold RoutedTo
  simp only [AttributeRoutes.mem_keysFor_iff]

/-- The Spec of a resource holds what the input members and the writable keys give. -/
theorem spec_cases (hraw : s.KeepsRaw) {fs : List Field} {input : Shape}
    (hfrom : ∀ f ∈ fs, ∃ m ∈ input.members,
      s.inputField resource create.name (s.mapMember? resource) input m = .ok (some f))
    (hto : ∀ m ∈ input.members, ∃ o,
      s.inputField resource create.name (s.mapMember? resource) input m = .ok o ∧
        ∀ f, o = some f → f ∈ fs)
    {keys : List String} (hkeys : ∀ key, key ∈ keys ↔ s.RoutedTo resource key .spec)
    {base : Resource} (hbase : base.spec = .empty) :
    let r := (fs ++ keys.map s.attributeField).foldl Resource.addSpecField base
    (∀ key f, r.spec.get? key = some f → s.SpecOrigin resource create input key f) ∧
      (∀ m ∈ input.members, s.mapMember? resource ≠ some m.name → s.HasField m →
        r.spec.contains (s.config.inputName resource create.name m.name) = true) ∧
      ∀ key, s.RoutedTo resource key .spec → r.spec.contains key = true := by
  rw [Resource.foldl_addSpecField, hbase]
  refine ⟨fun key f hf => ?_, fun m hm hmap hfield => ?_, fun key hkey => ?_⟩
  · rcases Dict.get?_foldl_insert (fun f : Field => f.names.raw) (fun f => f) hf with
      ⟨g, hg, hname, rfl⟩ | h
    · rcases List.mem_append.mp hg with hg | hg
      · obtain ⟨m, hm, hmf⟩ := hfrom g hg
        rcases inputField_cases hmf with ⟨h, -⟩ | ⟨g', hg', hmap, horigin⟩
        · cases h
        · cases hg'
          have hkey : s.config.inputName resource create.name m.name = key := by
            obtain ⟨shape, type, -, -, rfl⟩ := horigin
            exact (hraw _).symm.trans hname
          exact Or.inl ⟨m, hm, hmap, hkey, hkey ▸ horigin⟩
      · obtain ⟨k, hk, rfl⟩ := List.mem_map.mp hg
        have hkey : k = key := (hraw k).symm.trans hname
        subst hkey
        exact Or.inr ⟨(hkeys k).mp hk, rfl⟩
    · cases h
  · obtain ⟨o, ho, hofs⟩ := hto m hm
    rcases inputField_cases ho with ⟨-, h | h⟩ | ⟨g, rfl, -, horigin⟩
    · exact absurd h hmap
    · exact absurd hfield h
    · refine Dict.contains_foldl_insert (fun f : Field => f.names.raw) (fun f => f) (Or.inr
        ⟨g, List.mem_append_left _ (hofs g rfl), ?_⟩)
      obtain ⟨shape, type, -, -, rfl⟩ := horigin
      exact hraw _
  · refine Dict.contains_foldl_insert (fun f : Field => f.names.raw) (fun f => f) (Or.inr
      ⟨s.attributeField key, List.mem_append_right _ ?_, hraw key⟩)
    exact List.mem_map_of_mem ((hkeys key).mpr hkey)

/-- Output members bind no key of the attribute map. -/
theorem ne_attributeKey_addOutputPart (name : String) {r : Resource}
    (h : ∀ key, r.primaryIdentifier ≠ some (.attributeKey key)) (part : OutputPart) (key : String) :
    (addOutputPart name r part).primaryIdentifier ≠ some (.attributeKey key) := by
  cases part with
  | nothing => exact h key
  | arn member =>
    show r.primaryIdentifier.or (some (.member name member)) ≠ some (.attributeKey key)
    cases hp : r.primaryIdentifier with
    | some p =>
      rw [Option.some_or, ← hp]
      exact h key
    | none => simp
  | field f =>
    show (r.addStatusField f).primaryIdentifier ≠ some (.attributeKey key)
    rw [Resource.primaryIdentifier_addStatusField]
    exact h key

/-- **All output members together keep the Status sound.** -/
theorem sound_foldl_addOutputPart (hraw : s.KeepsRaw) (h : s.Sound resource create outputs r)
    (hnone : r.primaryIdentifier = none) {output : Shape} {parts : List OutputPart}
    (hfrom : ∀ part ∈ parts, ∃ m ∈ outputs,
      s.outputPart resource create.name (s.mapMember? resource) r.spec output m = .ok part) :
    r.Extends (parts.foldl (addOutputPart create.name) r) ∧
      s.Sound resource create outputs (parts.foldl (addOutputPart create.name) r) ∧
      ∀ key, (parts.foldl (addOutputPart create.name) r).primaryIdentifier ≠
        some (.attributeKey key) := by
  refine List.foldlRecOn parts (addOutputPart create.name)
    (motive := fun b => r.Extends b ∧ s.Sound resource create outputs b ∧
      ∀ key, b.primaryIdentifier ≠ some (.attributeKey key))
    ⟨Resource.Extends.refl r, h, fun key => by simp [hnone]⟩ ?_
  rintro b ⟨hext, hsound, hkey⟩ part hpart
  obtain ⟨m, hm, hmp⟩ := hfrom part hpart
  rw [← hext.spec] at hmp
  exact ⟨hext.trans (extends_addOutputPart _ b part), sound_addOutputPart hraw hsound hm hmp,
    ne_attributeKey_addOutputPart _ hkey part⟩

/-- The output members keep the Status sound, and each of them is entered. -/
theorem status_cases (hraw : s.KeepsRaw) (h : s.Sound resource create outputs r)
    (hnone : r.primaryIdentifier = none) {output : Shape} {parts : List OutputPart}
    (hfrom : ∀ part ∈ parts, ∃ m ∈ outputs,
      s.outputPart resource create.name (s.mapMember? resource) r.spec output m = .ok part)
    (hto : ∀ m ∈ outputs, ∃ part ∈ parts,
      s.outputPart resource create.name (s.mapMember? resource) r.spec output m = .ok part) :
    let r' := parts.foldl (addOutputPart create.name) r
    r.Extends r' ∧ s.Sound resource create outputs r' ∧
      ∀ m ∈ outputs, s.mapMember? resource ≠ some m.name → s.HasField m →
        r'.spec.contains (s.config.outputName resource create.name m.name) = true ∨
          r'.status.contains (s.config.outputName resource create.name m.name) = true ∨
          isArnMember resource m.name = true ∧
            ∃ member, r'.primaryIdentifier = some (.member create.name member) := by
  intro r'
  obtain ⟨hext, hsound, hkey⟩ := sound_foldl_addOutputPart hraw h hnone hfrom
  refine ⟨hext, hsound, fun m hm hmap hfield => ?_⟩
  obtain ⟨part, hpart, hmp⟩ := hto m hm
  have hentered : Entered part r' := foldl_of_step
    (fun part _ b => entered_addOutputPart create.name b part)
    (fun part b other hb => hb.extends (extends_addOutputPart create.name b other)) r hpart
  rcases outputPart_cases hmp with ⟨-, h | h | h⟩ | ⟨-, -, ⟨rfl, harn⟩ | ⟨f, rfl, -, hf⟩⟩
  · exact absurd h hmap
  · exact Or.inl (hext.spec ▸ h)
  · exact absurd hfield h
  · obtain ⟨p, hp⟩ := Option.isSome_iff_exists.mp hentered
    cases p with
    | attributeKey key => exact absurd hp (hkey key)
    | member operation member =>
      obtain ⟨rfl, -⟩ := hsound.identifier operation member hp
      exact Or.inr (Or.inr ⟨harn, member, hp⟩)
  · have hname : f.names.raw = s.config.outputName resource create.name m.name := by
      obtain ⟨shape, type, -, -, rfl⟩ := hf
      exact hraw _
    exact Or.inr (Or.inl (hname ▸ hentered))

theorem extends_addRoutes (r : Resource) (routes : AttributeRoutes) :
    r.Extends (s.addRoutes r routes) := by
  have hext : r.Extends (routes.status.foldl s.addStatusKey r) :=
    Resource.extends_foldl extends_addStatusKey _ r
  unfold addRoutes
  cases routes.primaryIdentifier with
  | none => exact hext.withOwner _
  | some key => exact (hext.trans (Resource.extends_bindPrimaryIdentifier _ _)).withOwner _

/-- The observed keys keep the Status sound, and each of them is a field then. -/
theorem addRoutes_cases (hraw : s.KeepsRaw) (h : s.Sound resource create outputs r)
    {a : AttributeMapConfig} (ha : s.config.attributesMap? resource = some a) :
    let r' := s.addRoutes r (.ofConfig a)
    s.Sound resource create outputs r' ∧
      ∀ key, s.RoutedTo resource key .status →
        r'.spec.contains key = true ∨ r'.status.contains key = true := by
  have hsound : s.Sound resource create outputs
      ((AttributeRoutes.ofConfig a).status.foldl s.addStatusKey r) :=
    List.foldlRecOn (AttributeRoutes.ofConfig a).status s.addStatusKey
      (motive := fun b => s.Sound resource create outputs b) h
      fun b hb key hkey => sound_addStatusKey hraw hb (routed_iff.mpr ⟨a, ha, hkey⟩)
  have hkept : ∀ key, s.RoutedTo resource key .status →
      ((AttributeRoutes.ofConfig a).status.foldl s.addStatusKey r).spec.contains key = true ∨
        ((AttributeRoutes.ofConfig a).status.foldl s.addStatusKey r).status.contains key =
          true := by
    intro key hkey
    obtain ⟨a', ha', hmem⟩ := routed_iff.mp hkey
    rw [ha] at ha'
    cases ha'
    refine foldl_of_step
      (Q := fun key b => b.spec.contains key = true ∨ b.status.contains key = true)
      (fun key _ b => contains_addStatusKey hraw b key) (fun key b other hb => ?_) r hmem
    have hstep := extends_addStatusKey (s := s) b other
    exact hb.imp (fun h => hstep.spec ▸ h) (hstep.status key)
  show s.Sound resource create outputs (s.addRoutes r (.ofConfig a)) ∧ _
  unfold addRoutes
  cases (AttributeRoutes.ofConfig a).primaryIdentifier with
  | none => exact ⟨hsound.withOwner _, hkept⟩
  | some key =>
    have hbound := hsound.bindPrimaryIdentifier (p := .attributeKey key) fun _ _ h => by cases h
    exact ⟨hbound.withOwner _, hkept⟩

/-- In a resource with sound fields, ARN members are those that are named so. -/
theorem Sound.isArnMember_eq (h : s.Sound resource create outputs r) (hname : r.name = resource)
    (member : String) : r.isArnMember member = isArnMember resource member := by
  unfold Resource.isArnMember
  rw [hname]
  split
  · rename_i operation bound hp
    cases hm : bound == member with
    | false => rfl
    | true =>
      obtain rfl := beq_iff_eq.mp hm
      rw [(h.identifier operation bound hp).2]
      rfl
  · rfl

theorem sound_of_empty (hstatus : r.status = .empty) (hnone : r.primaryIdentifier = none) :
    s.Sound resource create outputs r := by
  refine ⟨fun key hk => ?_, fun key f hf => ?_, fun operation member hp => ?_⟩
  · rw [hstatus] at hk
    cases hk
  · rw [hstatus] at hf
    cases hf
  · rw [hnone] at hp
    cases hp

variable (s resource) in
/-- The resource before any field is entered. -/
def bare (index : OperationIndex) : Resource where
  names := s.namer.names resource
  plural := s.namer.pluralize (s.namer.names resource).camel
  operations := .ofIndex index resource

variable (s resource) in
/-- The writable keys of the attribute map. -/
def writableKeys : List String :=
  ((s.config.attributesMap? resource).map fun a => AttributeRoutes.keysFor a .spec).getD []

theorem mem_writableKeys_iff {key : String} :
    key ∈ s.writableKeys resource ↔ s.RoutedTo resource key .spec := by
  rw [routed_iff, writableKeys]
  cases s.config.attributesMap? resource <;> simp

variable (s resource) in
/-- The resource with its whole Spec. -/
def withSpec (index : OperationIndex) (fs : List Field) : Resource :=
  (fs ++ (s.writableKeys resource).map s.attributeField).foldl .addSpecField
    (s.bare resource index)

variable (s resource) in
/-- The last step of a derivation: the attribute map, if there is one. -/
def withRoutes (r : Resource) : Resource :=
  match s.config.attributesMap? resource with
  | some a => s.addRoutes r (.ofConfig a)
  | none => r

variable (s resource) in
/-- A derivation, step by step. -/
theorem derive_eq (index : OperationIndex) : s.derive index resource =
    match (ResourceOperations.ofIndex index resource).create with
    | none => .error (.noCreateOperation resource)
    | some create => do
      let fs ← s.inputFields resource create (s.mapMember? resource)
      let parts ← s.outputParts resource create (s.mapMember? resource)
        (s.withSpec resource index fs).spec
      return s.withRoutes resource
        (parts.foldl (addOutputPart create.name) (s.withSpec resource index fs)) := by
  unfold derive mapMember? withSpec writableKeys withRoutes
  simp only
  cases (ResourceOperations.ofIndex index resource).create with
  | none => rfl
  | some create => cases s.config.attributesMap? resource <;> rfl

/-- The steps of a derivation that goes through. -/
theorem derive_steps {index : OperationIndex} (h : s.derive index resource = .ok r) :
    ∃ create fs parts, (ResourceOperations.ofIndex index resource).create = some create ∧
      s.inputFields resource create (s.mapMember? resource) = .ok fs ∧
      s.outputParts resource create (s.mapMember? resource) (s.withSpec resource index fs).spec =
        .ok parts ∧
      r = s.withRoutes resource
        (parts.foldl (addOutputPart create.name) (s.withSpec resource index fs)) := by
  rw [derive_eq] at h
  cases hcreate : (ResourceOperations.ofIndex index resource).create with
  | none => simp only [hcreate] at h; cases h
  | some create =>
    simp only [hcreate] at h
    obtain ⟨fs, hfs, h⟩ := Result.bind_eq_ok_iff.mp h
    obtain ⟨parts, hparts, h⟩ := Result.bind_eq_ok_iff.mp h
    exact ⟨create, fs, parts, rfl, hfs, hparts, (Result.pure_eq_ok_iff.mp h).symm⟩

variable (s resource) in
theorem withSpec_eq (index : OperationIndex) (fs : List Field) :
    s.withSpec resource index fs =
      { s.bare resource index with spec := (s.withSpec resource index fs).spec } := by
  unfold withSpec
  rw [Resource.foldl_addSpecField]

theorem extends_withRoutes (r : Resource) : r.Extends (s.withRoutes resource r) := by
  unfold withRoutes
  cases s.config.attributesMap? resource with
  | some a => exact extends_addRoutes r _
  | none => exact Resource.Extends.refl r

theorem withRoutes_cases (hraw : s.KeepsRaw) (h : s.Sound resource create outputs r) :
    s.Sound resource create outputs (s.withRoutes resource r) ∧
      ∀ key, s.RoutedTo resource key .status →
        (s.withRoutes resource r).spec.contains key = true ∨
          (s.withRoutes resource r).status.contains key = true := by
  unfold withRoutes
  cases ha : s.config.attributesMap? resource with
  | some a => exact addRoutes_cases hraw h ha
  | none =>
    refine ⟨h, fun key hkey => ?_⟩
    obtain ⟨a, ha', -⟩ := hkey
    rw [ha] at ha'
    cases ha'

/-- **A derived resource has its fields from the members of its Create payloads**, and from the
keys of its attribute map. -/
theorem derive_cases (hraw : s.KeepsRaw) {index : OperationIndex}
    (h : s.derive index resource = .ok r) :
    r.name = resource ∧ r.operations = .ofIndex index resource ∧
      ∃ create reference input outputs, r.operations.create = some create ∧
        create.input = some reference ∧ s.model.shape? reference = some input ∧
        s.createdMembers create = .ok outputs ∧
        s.Partition resource create input outputs r := by
  obtain ⟨create, fs, parts, hcreate, hfs, hparts, hr⟩ := derive_steps h
  obtain ⟨reference, input, href, hinput, hfrom, hto⟩ := inputFields_cases hfs
  obtain ⟨outputs, output, houtputs, hpfrom, hpto⟩ := outputParts_cases hparts
  have hempty : (s.bare resource index).spec = .empty := rfl
  obtain ⟨hspec, hinputs, hwritable⟩ := spec_cases hraw hfrom hto
    (fun _ => mem_writableKeys_iff) hempty
  have hbare := withSpec_eq s resource index fs
  have hsound : s.Sound resource create outputs (s.withSpec resource index fs) := by
    rw [hbare]
    exact sound_of_empty rfl rfl
  have hnone : (s.withSpec resource index fs).primaryIdentifier = none := by rw [hbare]; rfl
  obtain ⟨hext, hsound', hkept⟩ := status_cases hraw hsound hnone hpfrom hpto
  obtain ⟨hsound'', hobserved⟩ := withRoutes_cases hraw hsound'
  rw [← hr] at hsound'' hobserved
  have hext' :
      (parts.foldl (addOutputPart create.name) (s.withSpec resource index fs)).Extends r := by
    rw [hr]
    exact extends_withRoutes _
  have hall := hext.trans hext'
  have hspec' : r.spec = (s.withSpec resource index fs).spec := hall.spec
  have hoperations : r.operations = .ofIndex index resource := by
    rw [hall.operations, hbare]
    rfl
  have hname : r.name = resource := by
    show r.names.raw = resource
    rw [hall.names, hbare]
    exact hraw resource
  refine ⟨hname, hoperations, create, reference, input, outputs, hoperations ▸ hcreate, href,
    hinput, houtputs, ?_⟩
  exact
    { disjoint := fun key ⟨hs, ht⟩ => by
        rw [hsound''.apart key ht] at hs
        cases hs
      spec_origin := fun key f hf => hspec key f (hspec' ▸ hf)
      status_origin := hsound''.origin
      keeps_input := fun m hm hmap hfield => hspec' ▸ hinputs m hm hmap hfield
      keeps_output := fun m hm hmap hfield => by
        rcases hkept m hm hmap hfield with h | h | ⟨harn, member, h⟩
        · exact Or.inl (hext'.spec ▸ h)
        · exact Or.inr (Or.inl (hext'.status _ h))
        · exact Or.inr (Or.inr ⟨harn, member, hext'.identifier _ h⟩)
      keeps_writable := fun key hkey => hspec' ▸ hwritable key hkey
      keeps_observed := hobserved
      arn := hsound''.isArnMember_eq hname }

end DerivationScope

/-! ## The resources of a schema -/

namespace Schema

theorem build_eq_ok [PatternEngine] {model : ServiceModel} {config : Config} {namer : Namer}
    {classifier : Classifier} {schema : Schema}
    (h : build model config namer classifier = .ok schema) :
    ∃ index, schema = ⟨model, config, namer, index⟩ := by
  unfold build at h
  obtain ⟨index, -, h⟩ := Result.bind_eq_ok_iff.mp h
  exact ⟨index, (Result.pure_eq_ok_iff.mp h).symm⟩

/-- Every resource is derived from the operations of its name. -/
theorem derive_of_mem_resources {schema : Schema} {rs : List Resource}
    (hrs : schema.resources = .ok rs) {r : Resource} (hr : r ∈ rs) :
    ∃ name ∈ schema.resourceNames, schema.derivation.derive schema.index name = .ok r := by
  unfold resources at hrs
  obtain ⟨derived, hderived, hsort⟩ := Result.bind_eq_ok_iff.mp hrs
  obtain rfl := Result.pure_eq_ok_iff.mp hsort
  exact Result.exists_of_mem_mapM hderived (List.mem_mergeSort.mp hr)

/-- A service with one resource. -/
theorem resources_of_single {schema : Schema} {name : String} {r : Resource}
    (hnames : schema.resourceNames = [name])
    (hderive : schema.derivation.derive schema.index name = .ok r) :
    schema.resources = .ok [r] := by
  rw [resources, hnames, List.mapM_cons, hderive, List.mapM_nil]
  show Except.ok (sortByKind [r]) = Except.ok [r]
  rw [sortByKind, List.mergeSort_singleton]

theorem keepsRaw_standard {model : ServiceModel} {config : Config} {index : OperationIndex} :
    (derivation ⟨model, config, .standard, index⟩).KeepsRaw :=
  fun _ => rfl

/-- **Spec and Status of every resource are a partition** that is disjoint, sound and loses
nothing. -/
theorem resources_partition [PatternEngine] {model : ServiceModel} {config : Config}
    {classifier : Classifier} {schema : Schema}
    (hschema : build model config .standard classifier = .ok schema)
    {rs : List Resource} (hrs : schema.resources = .ok rs) {r : Resource} (hr : r ∈ rs) :
    ∃ create reference input outputs, r.operations.create = some create ∧
      create.input = some reference ∧ model.shape? reference = some input ∧
      schema.derivation.createdMembers create = .ok outputs ∧
      schema.derivation.Partition r.name create input outputs r := by
  obtain ⟨index, rfl⟩ := build_eq_ok hschema
  obtain ⟨name, -, hderive⟩ := derive_of_mem_resources hrs hr
  obtain ⟨rfl, -, hpartition⟩ := DerivationScope.derive_cases keepsRaw_standard hderive
  exact hpartition

end Schema

/-- The operation that creates a queue. -/
def createQueue : Operation where
  name := "CreateQueue"
  input := some "CreateQueueRequest"
  output := some "CreateQueueResponse"

/-- What creating a queue takes. -/
def createQueueRequest : Shape where
  name := "CreateQueueRequest"
  kind := .structure
    [{ name := "QueueName", target := "Text", indirection := true },
      { name := "tags", target := "TextMap" }, { name := "Attributes", target := "TextMap" }]

/-- A service of queues: Create takes a name, tags and an attribute map, and answers with a
wrapped description. -/
def queueModel : ServiceModel :=
  (([{ name := "Text", kind := .scalar .string },
    { name := "TextMap", kind := .map "Text" "Text" },
    createQueueRequest,
    { name := "Description", kind := .structure
        [{ name := "QueueName", target := "Text" }, { name := "QueueArn", target := "Text" },
          { name := "createdAt", target := "Text" }, { name := "tags", target := "TextMap" }] },
    { name := "CreateQueueResponse", kind := .structure
        [{ name := "Queue", target := "Description" }] }].foldl
      ServiceModel.addShape (.new "Queues")).addOperation createQueue).finish

/-- The name of a queue is shortened, and two keys of its attribute map are known. -/
def queueConfig : Config where
  resources := .ofList [("Queue",
    { attributesMap := some
        { fields := .ofList [("Delay", {}), ("Depth", { isReadOnly := true })] },
      renames := some (.ofList [("CreateQueue",
        { inputFields := .ofList [("QueueName", "Name")],
          outputFields := .ofList [("QueueName", "Name")] })]) })]

/-- The schema of the service. -/
def queueSchema : Schema where
  model := queueModel
  config := queueConfig
  namer := .standard
  index := ⟨[⟨.create, "Queue", createQueue⟩]⟩


/-- The resource of the service. -/
def queue : Resource where
  names := Naming.standardNames "Queue"
  plural := "Queues"
  operations := { create := some createQueue }
  spec := .ofList
    [("Delay", ⟨Naming.standardNames "Delay", .string, none, .attributeKey "Delay"⟩),
      ("Name", ⟨Naming.standardNames "Name", .string, some "Text", .member "QueueName"⟩),
      ("tags", ⟨Naming.standardNames "tags", .map .string .string, some "TextMap",
        .member "tags"⟩)]
  status := .ofList
    [("Depth", ⟨Naming.standardNames "Depth", .string, none, .attributeKey "Depth"⟩),
      ("createdAt", ⟨Naming.standardNames "createdAt", .string, some "Text",
        .member "createdAt"⟩)]
  primaryIdentifier := some (.member "CreateQueue" "QueueArn")

theorem build_queueSchema [PatternEngine] :
    Schema.build queueModel queueConfig .standard (.byConvention .standard) = .ok queueSchema := rfl

theorem resources_queueSchema : queueSchema.resources = .ok [queue] :=
  Schema.resources_of_single (show queueSchema.resourceNames = ["Queue"] from rfl) rfl

/-- The partition of the queue. -/
theorem resources_partition_queue :
    ∃ create reference input outputs, queue.operations.create = some create ∧
      create.input = some reference ∧ queueModel.shape? reference = some input ∧
      queueSchema.derivation.createdMembers create = .ok outputs ∧
      queueSchema.derivation.Partition "Queue" create input outputs queue :=
  Schema.resources_partition build_queueSchema resources_queueSchema List.mem_cons_self

end ResourceGen
