import ResourceGen.Proofs.ArnSlot
import ResourceGen.Proofs.Assembly

/-!
# Values that move with GetAttributes

GetAttributes moves values both ways. Its response holds a map, whose keys the configuration routes:
the observed ones go to Status fields, the owning account and the ARN to the metadata, and all others
nowhere. Its request is filled member by member: what holds the identifier gets the ARN of the
metadata, and any other member the copy of the field that goes by its name on the wire, of the
Status before the Spec (`Asks`).

Both programs come to writes in order. The places of a Status are apart from each other or the same,
so of several fields with one camel name the last one counts (`AdoptsAttributes`); the members of a
request have different names, so each of them holds what is asked for (`AsksAttributes`).

Results:
* `runAll_handed`: values that are handed over need no temporary.
* `adoptsAttributes_of_execute`: what the response of GetAttributes leaves in a Status.
* `attributeUpdates_congr`: keys with other routes do not matter.
* `asksAttributes_of_execute`: what the request of GetAttributes holds.
* `Schema.attributes_routed`: both for the resources of a schema.
* `adoptAttributes_stops_at_metadata`: that the Status can be reached is not enough.
-/

namespace ResourceGen

open Json (Value)
open Statement (runAll)
open Env (EqOutside)

/-! ## Places -/

/-- A place of a Status that an attribute goes to: a field that is not the metadata, or one of two
in there. -/
inductive IsStatusPlace (status : Accessor) : Accessor → Prop where
  | field {name : String} (h : name ≠ metadataField) : IsStatusPlace status (status.field name)
  | owner : IsStatusPlace status (ownerSlot status)
  | arn : IsStatusPlace status (arnSlot status)

/-- **Two places of a Status** are the same or apart. -/
theorem IsStatusPlace.eq_or_apart {status a b : Accessor} (ha : IsStatusPlace status a)
    (hb : IsStatusPlace status b) : a = b ∨ a.Apart b := by
  have howner : (ownerSlot status).Apart (arnSlot status) := Accessor.apart_field (by decide)
  cases ha with
  | @field name h =>
    cases hb with
    | @field name' h' =>
      by_cases heq : name = name'
      · exact Or.inl (by rw [heq])
      · exact Or.inr (Accessor.apart_field heq)
    | owner => exact Or.inr (Accessor.apart_metadata h _)
    | arn => exact Or.inr (Accessor.apart_metadata h _)
  | owner =>
    cases hb with
    | field h => exact Or.inr (Accessor.apart_metadata h _).symm
    | owner => exact Or.inl rfl
    | arn => exact Or.inr howner
  | arn =>
    cases hb with
    | field h => exact Or.inr (Accessor.apart_metadata h _).symm
    | owner => exact Or.inr howner.symm
    | arn => exact Or.inl rfl

/-- A place of a Status can be written where the metadata is absent, null or an object, and all that
leads to it. -/
theorem IsStatusPlace.writable {status a : Accessor} {e : Env} (h : IsStatusPlace status a)
    (hopen : e.Open (status.field metadataField)) : e.Writable a := by
  cases h with
  | field _ => exact Env.writable_field_iff.mpr hopen.of_field
  | owner => exact Env.writable_field_iff.mpr hopen
  | arn => exact Env.writable_field_iff.mpr hopen

/-- A key of the response that goes somewhere: to a field of the Status, or to the metadata. -/
def AttributeRoutes.Adopts (routes : AttributeRoutes) (key : String) : Prop :=
  key ∈ routes.status ∨ routes.ownerAccountId = some key ∨ routes.primaryIdentifier = some key

namespace Field

/-! ## Fields by their name on the wire -/

/-- The field goes by a name on the wire, which keys of an attribute map do not. -/
def GoesBy (f : Field) (name : String) : Prop := f.isAttribute = false ∧ f.wireName = name

instance (f : Field) (name : String) : Decidable (f.GoesBy name) :=
  inferInstanceAs (Decidable (_ ∧ _))

/-- The field is the first in key order that goes by a name. -/
def IsFirstOf (f : Field) (fields : Dict Field) (name : String) : Prop :=
  ∃ key, fields.get? key = some f ∧ f.GoesBy name ∧
    ∀ key' f', fields.get? key' = some f' → f'.GoesBy name → key ≤ key'

variable {f f' : Field} {fields : Dict Field} {name : String}

theorem IsFirstOf.goesBy (h : f.IsFirstOf fields name) : f.GoesBy name := by
  obtain ⟨_, _, hgoes, _⟩ := h
  exact hgoes

theorem IsFirstOf.mem_values (h : f.IsFirstOf fields name) : f ∈ fields.values := by
  obtain ⟨_, hkey, _⟩ := h
  exact Dict.mem_values_of_get? hkey

theorem IsFirstOf.unique (h : f.IsFirstOf fields name) (h' : f'.IsFirstOf fields name) :
    f = f' := by
  obtain ⟨key, hkey, hgoes, hfirst⟩ := h
  obtain ⟨key', hkey', hgoes', hfirst'⟩ := h'
  obtain rfl := String.le_antisymm (hfirst key' f' hkey' hgoes') (hfirst' key f hkey hgoes)
  rw [hkey] at hkey'
  cases hkey'
  rfl

theorem goesBy_iff : (!f.isAttribute && f.wireName == name) = true ↔ f.GoesBy name := by
  simp [GoesBy]

/-- Searching the values finds the first field that goes by a name. -/
theorem isFirstOf_of_find?
    (h : fields.values.find? (fun f => !f.isAttribute && f.wireName == name) = some f) :
    f.IsFirstOf fields name := by
  unfold Dict.values at h
  rw [List.find?_map] at h
  obtain ⟨⟨key, f⟩, hfound, rfl⟩ := Option.map_eq_some_iff.mp h
  obtain ⟨hgoes, before, after, hentries, hbefore⟩ := List.find?_eq_some_iff_append.mp hfound
  have hmem : (key, f) ∈ fields.entries := List.mem_of_find?_eq_some hfound
  refine ⟨key, Dict.mem_entries_iff.mp hmem, goesBy_iff.mp hgoes, fun key' f' hkey' hgoes' => ?_⟩
  have hmem' := Dict.mem_entries_iff.mpr hkey'
  have hascending := fields.ascending
  rw [hentries] at hmem'
  rw [Entries.Ascending, hentries] at hascending
  rcases List.mem_append.mp hmem' with hin | hin
  · have hnot := hbefore _ hin
    rw [Bool.not_eq_true', Function.comp_apply] at hnot
    rw [goesBy_iff.mpr hgoes'] at hnot
    cases hnot
  · rcases List.mem_cons.mp hin with heq | hin
    · cases heq
      exact String.le_refl _
    · have hlater := (List.pairwise_append.mp hascending).2.1
      exact Std.le_of_lt ((List.pairwise_cons.mp hlater).1 _ hin)

theorem find?_eq_none_iff :
    fields.values.find? (fun f => !f.isAttribute && f.wireName == name) = none ↔
      ∀ f ∈ fields.values, ¬ f.GoesBy name := by
  simp only [List.find?_eq_none, goesBy_iff]

theorem find?_eq_some_iff :
    fields.values.find? (fun f => !f.isAttribute && f.wireName == name) = some f ↔
      f.IsFirstOf fields name := by
  refine ⟨isFirstOf_of_find?, fun h => ?_⟩
  cases hfound : fields.values.find? fun f => !f.isAttribute && f.wireName == name with
  | none => exact absurd h.goesBy (find?_eq_none_iff.mp hfound f h.mem_values)
  | some f' => rw [(isFirstOf_of_find? hfound).unique h]

end Field

namespace Synthesizer

variable {s : Synthesizer} {r : Resource}

/-! ## The response -/

/-- **Values that are handed over need no temporary**, so a program of them does its writes and
nothing else. The writes are those told from an environment `e₀` from before the run; `D` holds the
variables that are written. -/
theorem runAll_handed (c : Copier) {D : String → Prop} {ts : List Transfer} {n : Nat}
    (hts : ∀ t ∈ ts, ∃ dest source kind, t = .handed dest source kind ∧ D dest.root ∧
      ¬ D source.root) {e₀ e f : Env} (h₀ : EqOutside D e₀ e)
    (hf : e.storeAll (ts.filterMap (Transfer.update? c e₀)) = .ok f) :
    runAll (c.transfers ts n) e = .running f := by
  induction ts generalizing e with
  | nil =>
    cases hf
    exact Statement.runAll_nil _
  | cons t rest ih =>
    obtain ⟨dest, source, kind, rfl, hdest, hsource⟩ := hts t List.mem_cons_self
    have hrest := fun t ht => hts t (List.mem_cons_of_mem _ ht)
    have hupdate : Transfer.update? c e₀ (.handed dest source kind) =
        if e.isPresent source then some (dest, e.read source) else none := by
      show (e₀.present? source).map (fun v => (dest, v)) = _
      rw [← h₀.present? hsource, Env.present?_eq]
      split <;> rfl
    show runAll (guarded dest source kind :: c.transfers rest n) e = .running f
    rw [Statement.runAll_cons, guarded, Statement.run]
    by_cases hp : e.isPresent source = true
    · rw [if_pos hp] at hupdate ⊢
      rw [List.filterMap_cons_some hupdate, Env.storeAll_cons] at hf
      obtain ⟨e₁, hstore, hf⟩ := Result.bind_eq_ok_iff.mp hf
      have h₁ : EqOutside D e e₁ := fun x hx =>
        Env.get?_store_of_ne hstore fun heq => hx (heq ▸ hdest)
      rw [Statement.runAll_singleton, Statement.run, hstore, Outcome.ofResult_ok,
        Outcome.andThen_running]
      exact ih hrest (h₀.trans h₁) hf
    · rw [if_neg hp] at hupdate ⊢
      rw [List.filterMap_cons_none hupdate] at hf
      rw [Outcome.andThen_running]
      exact ih hrest h₀ hf

/-- The values that the observed keys have for the Status fields of a camel name, in the order of
the fields. -/
def observedValues (r : Resource) (map : Accessor) (e : Env) (name : String) : List Value :=
  r.status.values.filterMap fun f =>
    if f.names.camel = name then f.attributeKey?.bind fun key => e.present? (map.key key) else none

/-- The writes of the observed keys: each field with its key in the map, in key order. -/
def observedUpdates (r : Resource) (map status : Accessor) (e : Env) : List (Accessor × Value) :=
  r.status.values.filterMap fun f => f.attributeKey?.bind fun key =>
    (e.present? (map.key key)).map fun v => (status.field f.names.camel, v)

/-- The write of a key that goes to one place, if there is such a key. -/
def slotUpdate (key : Option String) (map slot : Accessor) (e : Env) : List (Accessor × Value) :=
  ((key.bind fun key => e.present? (map.key key)).map fun v => (slot, v)).toList

/-- The writes of an attribute map: the observed keys, the owning account, the ARN. -/
def attributeUpdates (r : Resource) (routes : AttributeRoutes) (map status : Accessor) (e : Env) :
    List (Accessor × Value) :=
  observedUpdates r map status e ++ slotUpdate routes.ownerAccountId map (ownerSlot status) e ++
    slotUpdate routes.primaryIdentifier map (arnSlot status) e

/-- **What the response of GetAttributes leaves.** The writes are done one after the other: each
Status field holds the last value that an observed key has for it, the metadata holds the owning
account and the ARN, and nothing else has changed. -/
structure AdoptsAttributes (r : Resource) (routes : AttributeRoutes) (map status : Accessor)
    (e e' : Env) : Prop where
  updates : e.storeAll (attributeUpdates r routes map status e) = .ok e'
  field : ∀ name, name ≠ metadataField → e'.lookup (status.field name) =
    (observedValues r map e name).getLast?.or (e.lookup (status.field name))
  owner : e'.lookup (ownerSlot status) =
    (routes.ownerAccountId.bind fun key => e.present? (map.key key)).or
      (e.lookup (ownerSlot status))
  arn : e'.lookup (arnSlot status) =
    (routes.primaryIdentifier.bind fun key => e.present? (map.key key)).or
      (e.lookup (arnSlot status))
  frame : ∀ x : Accessor, (∀ u ∈ attributeUpdates r routes map status e, u.1.Apart x) →
    e'.lookup x = e.lookup x

variable {routes : AttributeRoutes} {map status : Accessor} {e e' : Env}

/-- The transfers out of an attribute map come to its writes. -/
theorem filterMap_attributeTransfers (c : Copier) :
    (attributeTransfers r routes map status).filterMap (Transfer.update? c e) =
      attributeUpdates r routes map status e := by
  have hobserved : (r.status.values.filterMap (observedEntry map status)).filterMap
      (Transfer.update? c e) = observedUpdates r map status e := by
    unfold observedUpdates observedEntry
    rw [List.filterMap_filterMap]
    refine List.filterMap_congr fun f _ => ?_
    cases f.attributeKey? <;> rfl
  have hslot (key : Option String) (slot : Accessor) (kind : AssignKind) :
      ((key.map fun key => Transfer.handed slot (map.key key) kind).toList).filterMap
        (Transfer.update? c e) = slotUpdate key map slot e := by
    unfold slotUpdate
    cases key with
    | none => rfl
    | some key =>
      have hupdate : Transfer.update? c e (.handed slot (map.key key) kind) =
          (e.present? (map.key key)).map fun v => (slot, v) := rfl
      rw [Option.map_some, Option.toList_some, List.filterMap_cons, hupdate, Option.bind_some]
      cases e.present? (map.key key) <;> rfl
  unfold attributeTransfers attributeUpdates
  rw [List.filterMap_append, List.filterMap_append, hobserved, hslot, hslot]

/-- All values of an attribute map are handed over, from the map to the Status. -/
theorem handed_of_mem_attributeTransfers {t : Transfer}
    (ht : t ∈ attributeTransfers r routes map status) :
    ∃ dest source kind, t = .handed dest source kind ∧ dest.root = status.root ∧
      source.root = map.root := by
  unfold attributeTransfers at ht
  rcases List.mem_append.mp ht with ht | ht
  · rcases List.mem_append.mp ht with ht | ht
    · obtain ⟨f, -, hf⟩ := List.mem_filterMap.mp ht
      obtain ⟨key, -, rfl⟩ := Option.map_eq_some_iff.mp hf
      exact ⟨_, _, _, rfl, rfl, rfl⟩
    · obtain ⟨key, -, rfl⟩ := Option.map_eq_some_iff.mp (Option.mem_toList.mp ht)
      exact ⟨_, _, _, rfl, rfl, rfl⟩
  · obtain ⟨key, -, rfl⟩ := Option.map_eq_some_iff.mp (Option.mem_toList.mp ht)
    exact ⟨_, _, _, rfl, rfl, rfl⟩

theorem exists_field_of_mem_observedUpdates {u : Accessor × Value}
    (hu : u ∈ observedUpdates r map status e) :
    ∃ f ∈ r.status.values, u.1 = status.field f.names.camel := by
  obtain ⟨f, hf, h⟩ := List.mem_filterMap.mp hu
  obtain ⟨key, -, h⟩ := Option.bind_eq_some_iff.mp h
  obtain ⟨v, -, rfl⟩ := Option.map_eq_some_iff.mp h
  exact ⟨f, hf, rfl⟩

theorem fst_of_mem_slotUpdate {key : Option String} {slot : Accessor} {u : Accessor × Value}
    (hu : u ∈ slotUpdate key map slot e) : u.1 = slot := by
  obtain ⟨v, -, rfl⟩ := Option.map_eq_some_iff.mp (Option.mem_toList.mp hu)
  rfl

/-- The writes of an attribute map are at places of a Status. -/
theorem isStatusPlace_of_mem_attributeUpdates
    (hmetadata : ∀ f ∈ r.status.values, f.names.camel ≠ metadataField) {u : Accessor × Value}
    (hu : u ∈ attributeUpdates r routes map status e) : IsStatusPlace status u.1 := by
  unfold attributeUpdates at hu
  rcases List.mem_append.mp hu with hu | hu
  · rcases List.mem_append.mp hu with hu | hu
    · obtain ⟨f, hf, hplace⟩ := exists_field_of_mem_observedUpdates hu
      rw [hplace]
      exact .field (hmetadata f hf)
    · rw [fst_of_mem_slotUpdate hu]
      exact .owner
  · rw [fst_of_mem_slotUpdate hu]
    exact .arn

/-! ### What is written at one place -/

theorem filterMap_writtenAt?_observedUpdates (name : String) :
    (observedUpdates r map status e).filterMap (Env.writtenAt? (status.field name)) =
      observedValues r map e name := by
  unfold observedUpdates observedValues
  rw [List.filterMap_filterMap]
  refine List.filterMap_congr fun f _ => ?_
  cases f.attributeKey? with
  | none => simp
  | some key =>
    cases hv : e.present? (map.key key) with
    | none => simp [hv]
    | some v =>
      by_cases hname : f.names.camel = name
      · simp [Env.writtenAt?, hname, hv]
      · have hne : status.field f.names.camel ≠ status.field name := fun heq =>
          hname (Accessor.field_inj heq)
        simp [Env.writtenAt?, hname, hne, hv]

theorem filterMap_writtenAt?_slotUpdate (key : Option String) (slot : Accessor) :
    (slotUpdate key map slot e).filterMap (Env.writtenAt? slot) =
      (key.bind fun key => e.present? (map.key key)).toList := by
  unfold slotUpdate
  cases key.bind fun key => e.present? (map.key key) with
  | none => rfl
  | some v => simp [Env.writtenAt?]

theorem filterMap_writtenAt?_of_apart {us : List (Accessor × Value)} {a : Accessor}
    (h : ∀ u ∈ us, u.1.Apart a) : us.filterMap (Env.writtenAt? a) = [] :=
  List.filterMap_eq_nil_iff.mpr fun u hu => Env.writtenAt?_of_apart (h u hu)

/-- **What an attribute map writes at a place of the Status**: the values of the observed keys for
a field, that of the owning account, that of the ARN. -/
theorem filterMap_writtenAt?_attributeUpdates (routes : AttributeRoutes) (map : Accessor) (e : Env)
    (hmetadata : ∀ f ∈ r.status.values, f.names.camel ≠ metadataField) :
    (∀ name, name ≠ metadataField →
      (attributeUpdates r routes map status e).filterMap (Env.writtenAt? (status.field name)) =
        observedValues r map e name) ∧
      (attributeUpdates r routes map status e).filterMap (Env.writtenAt? (ownerSlot status)) =
        (routes.ownerAccountId.bind fun key => e.present? (map.key key)).toList ∧
      (attributeUpdates r routes map status e).filterMap (Env.writtenAt? (arnSlot status)) =
        (routes.primaryIdentifier.bind fun key => e.present? (map.key key)).toList := by
  have howner : (ownerSlot status).Apart (arnSlot status) := Accessor.apart_field (by decide)
  have hobserved (slot : String) : (observedUpdates r map status e).filterMap
      (Env.writtenAt? ((status.field metadataField).field slot)) = [] := by
    refine filterMap_writtenAt?_of_apart fun u hu => ?_
    obtain ⟨f, hf, hplace⟩ := exists_field_of_mem_observedUpdates hu
    rw [hplace]
    exact Accessor.apart_metadata (hmetadata f hf) slot
  have hslot {key : Option String} {slot a : Accessor} (h : slot.Apart a) :
      (slotUpdate key map slot e).filterMap (Env.writtenAt? a) = [] := by
    refine filterMap_writtenAt?_of_apart fun u hu => ?_
    rw [fst_of_mem_slotUpdate hu]
    exact h
  unfold attributeUpdates
  refine ⟨fun name hname => ?_, ?_, ?_⟩
  · have ho : (ownerSlot status).Apart (status.field name) :=
      (Accessor.apart_metadata hname _).symm
    have ha : (arnSlot status).Apart (status.field name) :=
      (Accessor.apart_metadata hname _).symm
    rw [List.filterMap_append, List.filterMap_append, filterMap_writtenAt?_observedUpdates,
      hslot ho, hslot ha, List.append_nil, List.append_nil]
  · rw [List.filterMap_append, List.filterMap_append, filterMap_writtenAt?_slotUpdate,
      hslot howner.symm, ownerSlot, hobserved, List.nil_append, List.append_nil]
  · rw [List.filterMap_append, List.filterMap_append, filterMap_writtenAt?_slotUpdate,
      hslot howner, arnSlot, hobserved, List.nil_append, List.nil_append]

/-- **What the response of GetAttributes leaves**, where each place that is written can be
reached. -/
theorem adoptsAttributes_of_execute (hne : map.root ≠ status.root)
    (hmetadata : ∀ f ∈ r.status.values, f.names.camel ≠ metadataField)
    (hwritable : ∀ u ∈ attributeUpdates r routes map status e, e.Writable u.1) :
    ∃ e', (s.program .inbound [] (attributeTransfers r routes map status)).execute e =
        .running e' ∧ AdoptsAttributes r routes map status e e' := by
  have hplace : ∀ u ∈ attributeUpdates r routes map status e, IsStatusPlace status u.1 :=
    fun u hu => isStatusPlace_of_mem_attributeUpdates hmetadata hu
  obtain ⟨f, hf⟩ := Env.exists_storeAll_places (fun u hu w hw hroot hp => by
    rcases (hplace u hu).eq_or_apart (hplace w hw) with heq | hapart
    · rw [heq]
    · exact absurd hp (hapart hroot).1) hwritable
  have hts : ∀ t ∈ attributeTransfers r routes map status, ∃ dest source kind,
      t = .handed dest source kind ∧ dest.root = status.root ∧ ¬ source.root = status.root := by
    intro t ht
    obtain ⟨dest, source, kind, rfl, hdest, hsource⟩ := handed_of_mem_attributeTransfers ht
    exact ⟨dest, source, kind, rfl, hdest, fun heq => hne (hsource.symm.trans heq)⟩
  have hrun : (s.program .inbound [] (attributeTransfers r routes map status)).execute e =
      .running f := by
    refine runAll_handed ⟨.inbound, s.types⟩ (D := (· = status.root)) hts (EqOutside.refl _ e) ?_
    rw [filterMap_attributeTransfers]
    exact hf
  have hlookup {a : Accessor} (ha : IsStatusPlace status a) :
      f.lookup a = ((attributeUpdates r routes map status e).filterMap
        (Env.writtenAt? a)).getLast?.or (e.lookup a) :=
    Env.lookup_storeAll hf fun u hu => (hplace u hu).eq_or_apart ha
  obtain ⟨hfield, howner, harn⟩ :=
    filterMap_writtenAt?_attributeUpdates routes map e hmetadata
  refine ⟨f, hrun, hf, fun name hname => ?_, ?_, ?_, fun x hapart => ?_⟩
  · rw [hlookup (.field hname), hfield name hname]
  · rw [hlookup .owner, howner]
    cases routes.ownerAccountId.bind fun key => e.present? (map.key key) <;> rfl
  · rw [hlookup .arn, harn]
    cases routes.primaryIdentifier.bind fun key => e.present? (map.key key) <;> rfl
  · exact Env.lookup_storeAll_of_apart hf hapart

/-- Where the map is declared, its program is that of its transfers. -/
theorem adoptAttributes_eq {a : AttributeMapConfig} {o : Operation} {reference : String}
    {output : Shape} {m : Member} (ha : s.config.attributesMap? r.name = some a)
    (ho : r.operations.getAttributes = some o) (href : o.output = some reference)
    (houtput : s.model.shape? reference = some output)
    (hm : output.member? a.mapMember = some m) (response status : String) :
    s.adoptAttributes r response status =
      .ok (s.program .inbound [] (attributeTransfers r (.ofConfig a)
        ((Accessor.parse response).field a.mapMember) (.parse status))) := by
  have hfound : output.members.find? (·.name == a.mapMember) = some m := hm
  have hname : m.name = a.mapMember := by simpa using List.find?_some hfound
  have hpayload : s.payload o o.output = .ok (some output) := by
    rw [href]
    exact Result.map_eq_ok_iff.mpr ⟨output, ServiceModel.resolve_eq_ok_iff.mpr houtput, rfl⟩
  unfold adoptAttributes
  simp only [ha, ho]
  refine Result.bind_eq_ok_iff.mpr ⟨some output, hpayload, ?_⟩
  simp only [Option.bind_some, hm, hname]
  rfl

/-- **Keys with other routes do not matter.** What is written depends on nothing but the values of
the keys that are observed or that go to the metadata. -/
theorem attributeUpdates_congr {d : DerivationScope} {create : Operation} {outputs : List Member}
    {a : AttributeMapConfig} (ha : d.config.attributesMap? r.name = some a)
    (hstatus : ∀ key f, r.status.get? key = some f → d.StatusOrigin r.name create outputs key f)
    {e₂ : Env} (hsame : ∀ key, (AttributeRoutes.ofConfig a).Adopts key →
      e₂.present? (map.key key) = e.present? (map.key key)) :
    attributeUpdates r (.ofConfig a) map status e₂ =
      attributeUpdates r (.ofConfig a) map status e := by
  have hobserved : observedUpdates r map status e₂ = observedUpdates r map status e := by
    unfold observedUpdates
    refine List.filterMap_congr fun f hf => ?_
    obtain ⟨key, hkey⟩ := Dict.exists_get?_of_mem_values hf
    rcases hstatus key f hkey with ⟨m, -, -, -, -, shape, type, -, -, rfl⟩ | ⟨hrouted, rfl⟩
    · rfl
    · obtain ⟨a', ha', hmem⟩ := DerivationScope.routed_iff.mp hrouted
      rw [ha] at ha'
      cases ha'
      show (e₂.present? (map.key key)).map _ = _
      rw [hsame key (Or.inl hmem)]
      rfl
  have hslot {key : Option String} (slot : Accessor)
      (hkey : ∀ k, key = some k → (AttributeRoutes.ofConfig a).Adopts k) :
      slotUpdate key map slot e₂ = slotUpdate key map slot e := by
    unfold slotUpdate
    cases key with
    | none => rfl
    | some k => rw [Option.bind_some, Option.bind_some, hsame k (hkey k rfl)]
  unfold attributeUpdates
  rw [hobserved, hslot _ fun k hk => Or.inr (Or.inl hk), hslot _ fun k hk => Or.inr (Or.inr hk)]

/-! ## The request -/

/-- What a request member is asked with, besides its type: the copy of the value at `source`. -/
def CopyOf (s : Synthesizer) (e : Env) (m : Member) (source : Accessor) (w : Value) : Prop :=
  ∃ shape v, s.model.shape? m.target = some shape ∧ s.model.isTyped shape = true ∧
    e.present? source = some v ∧ w = (Copier.mk .outbound s.types).copied shape v

/-- **What the request for the attributes holds in a member.** What takes the ARN gets that of the
metadata. Any other member with a type gets the copy of the field that goes by its name: the first
one of the Status, or of the Spec if the Status has none. -/
inductive Asks (s : Synthesizer) (r : Resource) (object : Accessor) (e : Env) (m : Member) :
    Value → Prop where
  | arn {shape : Shape} {w : Value} (hshape : s.model.shape? m.target = some shape)
      (harn : takesArn r m.name = true)
      (hw : e.present? (arnSlot (object.field "Status")) = some w) : Asks s r object e m w
  | status {f : Field} {w : Value} (hother : takesArn r m.name = false)
      (hf : f.IsFirstOf r.status m.name)
      (hw : s.CopyOf e m ((object.field "Status").field f.names.camel) w) : Asks s r object e m w
  | spec {f : Field} {w : Value} (hother : takesArn r m.name = false)
      (hno : ∀ f ∈ r.status.values, ¬ f.GoesBy m.name) (hf : f.IsFirstOf r.spec m.name)
      (hw : s.CopyOf e m ((object.field "Spec").field f.names.camel) w) : Asks s r object e m w

variable {o : Operation} {input : Shape} {object request : Accessor}

theorem CopyOf.unique {m : Member} {source : Accessor} {w w' : Value}
    (h : s.CopyOf e m source w) (h' : s.CopyOf e m source w') : w = w' := by
  obtain ⟨shape, v, hshape, -, hv, rfl⟩ := h
  obtain ⟨shape', v', hshape', -, hv', rfl⟩ := h'
  rw [hshape] at hshape'
  cases hshape'
  rw [hv] at hv'
  cases hv'
  rfl

/-- The field that a member is copied from is the first that goes by its name, of the Status before
the Spec. -/
theorem fieldByWireName?_eq_some_iff {name : String} {source : Accessor} :
    fieldByWireName? r object name = some source ↔
      (∃ f : Field, f.IsFirstOf r.status name ∧
          source = (object.field "Status").field f.names.camel) ∨
        (∀ f ∈ r.status.values, ¬ f.GoesBy name) ∧
          ∃ f : Field, f.IsFirstOf r.spec name ∧
            source = (object.field "Spec").field f.names.camel := by
  unfold fieldByWireName?
  cases hstatus : r.status.values.find? fun f => !f.isAttribute && f.wireName == name with
  | some f =>
    have hf := Field.find?_eq_some_iff.mp hstatus
    simp only [hstatus]
    constructor
    · intro h
      cases h
      exact Or.inl ⟨f, hf, rfl⟩
    · rintro (⟨f', hf', rfl⟩ | ⟨hno, -⟩)
      · rw [hf.unique hf']
      · exact absurd hf.goesBy (hno f hf.mem_values)
  | none =>
    have hno := Field.find?_eq_none_iff.mp hstatus
    simp only [hstatus]
    constructor
    · intro h
      cases hspec : r.spec.values.find? fun f => !f.isAttribute && f.wireName == name with
      | none => simp [hspec] at h
      | some f =>
        simp only [hspec, Option.some.injEq] at h
        exact Or.inr ⟨hno, f, Field.find?_eq_some_iff.mp hspec, h.symm⟩
    · rintro (⟨f', hf', -⟩ | ⟨-, f', hf', rfl⟩)
      · exact absurd hf'.goesBy (hno f' hf'.mem_values)
      · simp only [Field.find?_eq_some_iff.mpr hf']

theorem Asks.exists_shape {m : Member} {w : Value} (h : s.Asks r object e m w) :
    ∃ shape, s.model.shape? m.target = some shape := by
  cases h with
  | arn hshape => exact ⟨_, hshape⟩
  | status _ _ hw | spec _ _ _ hw =>
    obtain ⟨shape, -, hshape, -⟩ := hw
    exact ⟨shape, hshape⟩

/-- What takes the ARN is asked with that of the metadata. -/
theorem asks_iff_of_takesArn {m : Member} {w : Value} (harn : takesArn r m.name = true) :
    s.Asks r object e m w ↔ (∃ shape, s.model.shape? m.target = some shape) ∧
      e.present? (arnSlot (object.field "Status")) = some w := by
  constructor
  · intro h
    refine ⟨h.exists_shape, ?_⟩
    cases h with
    | arn _ _ hw => exact hw
    | status hother | spec hother => simp [harn] at hother
  · rintro ⟨⟨shape, hshape⟩, hw⟩
    exact .arn hshape harn hw

/-- What takes something else is asked with the copy of a field. -/
theorem asks_iff_copyOf {m : Member} {w : Value} (hother : takesArn r m.name = false) :
    s.Asks r object e m w ↔
      ∃ source, fieldByWireName? r object m.name = some source ∧ s.CopyOf e m source w := by
  constructor
  · intro h
    cases h with
    | arn _ harn => simp [harn] at hother
    | status _ hf hw => exact ⟨_, fieldByWireName?_eq_some_iff.mpr (Or.inl ⟨_, hf, rfl⟩), hw⟩
    | spec _ hno hf hw =>
      exact ⟨_, fieldByWireName?_eq_some_iff.mpr (Or.inr ⟨hno, _, hf, rfl⟩), hw⟩
  · rintro ⟨source, hsource, hw⟩
    rcases fieldByWireName?_eq_some_iff.mp hsource with ⟨f, hf, rfl⟩ | ⟨hno, f, hf, rfl⟩
    · exact .status hother hf hw
    · exact .spec hother hno hf hw

/-- **A member is asked with one value at most.** -/
theorem Asks.unique {m : Member} {w w' : Value} (h : s.Asks r object e m w)
    (h' : s.Asks r object e m w') : w = w' := by
  by_cases harn : takesArn r m.name = true
  · rw [asks_iff_of_takesArn harn] at h h'
    exact Option.some.inj (h.2.symm.trans h'.2)
  · rw [asks_iff_copyOf (Bool.not_eq_true _ ▸ harn)] at h h'
    obtain ⟨source, hsource, hw⟩ := h
    obtain ⟨source', hsource', hw'⟩ := h'
    rw [hsource] at hsource'
    cases hsource'
    exact hw.unique hw'

/-- The transfer that copies a value of a member's shape writes its copy. -/
theorem update?_copyOf_iff {path : List String} {dest source : Accessor} {shape : Shape}
    {t : Option Transfer} {m : Member} (hshape : s.model.shape? m.target = some shape)
    (h : s.copyOf path dest source shape = .ok t) {u : Accessor × Value} :
    t.bind (Transfer.update? ⟨.outbound, s.types⟩ e) = some u ↔
      ∃ w, u = (dest, w) ∧ s.CopyOf e m source w := by
  rcases copyOf_cases h with ⟨htyped, rfl⟩ | ⟨htyped, l, hl, rfl⟩
  · constructor
    · intro hu
      cases hu
    · rintro ⟨w, -, shape', v, hshape', htyped', -⟩
      rw [hshape] at hshape'
      cases hshape'
      rw [htyped] at htyped'
      cases htyped'
  · rw [Option.bind_some, Transfer.update?_eq_some_iff]
    constructor
    · rintro ⟨v, hv, rfl⟩
      exact ⟨_, rfl, shape, v, hshape, htyped, hv, Copier.valueOf_eq_copied _ l hl v⟩
    · rintro ⟨w, rfl, shape', v, hshape', -, hv, rfl⟩
      rw [hshape] at hshape'
      cases hshape'
      exact ⟨v, hv, Prod.ext rfl (Copier.valueOf_eq_copied _ l hl v)⟩

/-- **The transfer into a member writes what the member is asked with.** -/
theorem update?_queryTransfer_iff {m : Member} {t : Option Transfer}
    (h : s.queryTransfer r input object request m = .ok t) {u : Accessor × Value} :
    t.bind (Transfer.update? ⟨.outbound, s.types⟩ e) = some u ↔
      ∃ w, u = (request.field m.name, w) ∧ s.Asks r object e m w := by
  unfold queryTransfer at h
  cases hshape : s.model.shape? m.target with
  | none =>
    have hno (w : Value) : ¬ s.Asks r object e m w := fun hw => by
      obtain ⟨shape, hs⟩ := hw.exists_shape
      simp [hshape] at hs
    simp only [hshape] at h
    cases h
    simp [hno]
  | some shape =>
    simp only [hshape] at h
    by_cases harn : takesArn r m.name = true
    · simp only [harn, if_true] at h
      cases h
      rw [Option.bind_some, Transfer.update?_eq_some_iff]
      simp only [asks_iff_of_takesArn harn]
      constructor
      · rintro ⟨v, hv, rfl⟩
        exact ⟨v, rfl, ⟨shape, hshape⟩, hv⟩
      · rintro ⟨w, rfl, -, hw⟩
        exact ⟨w, hw, rfl⟩
    · simp only [if_neg harn] at h
      simp only [asks_iff_copyOf (Bool.not_eq_true _ ▸ harn)]
      cases hsource : fieldByWireName? r object m.name with
      | none =>
        simp only [hsource] at h
        cases h
        simp
      | some source =>
        simp only [hsource] at h
        rw [update?_copyOf_iff hshape h]
        simp

/-- The transfers of a request lead from the resource to the request. -/
theorem roots_of_queryTransfer {m : Member} {t : Transfer}
    (h : s.queryTransfer r input object request m = .ok (some t)) :
    t.dest.root = request.root ∧ t.source.root = object.root := by
  unfold queryTransfer at h
  cases hshape : s.model.shape? m.target with
  | none => simp only [hshape] at h; cases h
  | some shape =>
    simp only [hshape] at h
    split at h
    · cases h
      exact ⟨rfl, rfl⟩
    · cases hsource : fieldByWireName? r object m.name with
      | none => simp only [hsource] at h; cases h
      | some source =>
        simp only [hsource] at h
        rcases copyOf_cases h with ⟨-, h⟩ | ⟨-, l, -, h⟩
        · cases h
        · cases h
          exact ⟨rfl, root_of_fieldByWireName? hsource⟩

/-- **The program of a query does what its writes do**: one for each member that is asked with a
value. -/
theorem query_agrees {ts : List (Option Transfer)}
    (hts : input.members.mapM (s.queryTransfer r input object request) = .ok ts)
    (hobject : ¬ Temporary.IsTemporary object.root)
    (hrequest : ¬ Temporary.IsTemporary request.root) (hne : object.root ≠ request.root) (e : Env) :
    ∃ us, ((s.program .outbound [] (ts.filterMap id)).execute e).AgreesWith Temporary.IsTemporary
        (e.storeAll us) ∧
      ∀ u, u ∈ us ↔
        ∃ m ∈ input.members, ∃ w, u = (request.field m.name, w) ∧ s.Asks r object e m w := by
  have hroots := forall_of_mapM hts fun _ _ _ hm => roots_of_queryTransfer hm
  refine ⟨_, program_agrees hroots hobject hrequest hne e, fun u => ?_⟩
  constructor
  · intro hu
    obtain ⟨t, ht, hupdate⟩ := List.mem_filterMap.mp hu
    obtain ⟨t', ht', htr⟩ := List.mem_filterMap.mp ht
    obtain rfl : t' = some t := htr
    obtain ⟨m, hm, hquery⟩ := Result.exists_of_mem_mapM hts ht'
    exact ⟨m, hm, (update?_queryTransfer_iff hquery).mp hupdate⟩
  · rintro ⟨m, hm, hw⟩
    obtain ⟨t, ht, hquery⟩ := Result.exists_of_mem_of_mapM hts hm
    have hupdate := (update?_queryTransfer_iff hquery).mpr hw
    obtain ⟨t, rfl, hupdate⟩ := Option.bind_eq_some_iff.mp hupdate
    exact List.mem_filterMap.mpr ⟨t, List.mem_filterMap.mpr ⟨_, ht, rfl⟩, hupdate⟩

/-- The members of the request of an operation; none without an input. -/
def inputMembers (s : Synthesizer) (o : Operation) : List Member :=
  ((o.input.bind s.model.shape?).map (·.members)).getD []

/-- A program that asks for the attributes is empty, or that of the members. -/
theorem fillAttributesQuery_cases {object request : String} {p : Program}
    (ho : r.operations.getAttributes = some o)
    (h : s.fillAttributesQuery r object request = .ok p) :
    p = .empty .outbound ∧ s.inputMembers o = [] ∨
      ∃ (input : Shape) (ts : List (Option Transfer)), s.inputMembers o = input.members ∧
        input.members.mapM (s.queryTransfer r input (.parse object) (.parse request)) = .ok ts ∧
        p = s.program .outbound [] (ts.filterMap id) ∧ input ∈ s.model.shapes.values := by
  unfold fillAttributesQuery at h
  simp only [ho] at h
  obtain ⟨found, hpayload, h⟩ := Result.bind_eq_ok_iff.mp h
  cases href : o.input with
  | none =>
    rw [href] at hpayload
    cases hpayload
    obtain rfl := Result.pure_eq_ok_iff.mp h
    exact Or.inl ⟨rfl, by simp [inputMembers, href]⟩
  | some reference =>
    rw [href] at hpayload
    obtain ⟨input, hinput, rfl⟩ := Result.map_eq_ok_iff.mp hpayload
    have hinput := ServiceModel.resolve_eq_ok_iff.mp hinput
    obtain ⟨ts, hts, h⟩ := Result.bind_eq_ok_iff.mp h
    obtain rfl := Result.pure_eq_ok_iff.mp h
    exact Or.inr ⟨input, ts, by simp [inputMembers, href, hinput], hts, rfl,
      Dict.mem_values_of_get? hinput⟩

/-- **What the request for the attributes holds in the end**: the values that its members are asked
with, and nothing else has changed but temporaries. -/
structure AsksAttributes (s : Synthesizer) (r : Resource) (o : Operation)
    (object request : Accessor) (e e' : Env) : Prop where
  member : ∀ m ∈ s.inputMembers o, ∀ w, s.Asks r object e m w →
    e'.lookup (request.field m.name) = some w
  frame : ∀ x : Accessor, ¬ Temporary.IsTemporary x.root →
    (∀ m ∈ s.inputMembers o, ∀ w, s.Asks r object e m w → (request.field m.name).Apart x) →
    e'.lookup x = e.lookup x

/-- **The request holds what is asked for**, where its members have different names and its path can
be reached. -/
theorem asksAttributes_of_execute {object request : String} {p : Program}
    (ho : r.operations.getAttributes = some o)
    (h : s.fillAttributesQuery r object request = .ok p)
    (hdistinct : ∀ shape ∈ s.model.shapes.values, (shape.members.map (·.name)).Nodup)
    (hobject : ¬ Temporary.IsTemporary (Accessor.parse object).root)
    (hrequest : ¬ Temporary.IsTemporary (Accessor.parse request).root)
    (hne : (Accessor.parse object).root ≠ (Accessor.parse request).root)
    (hopen : e.Open (.parse request)) :
    ∃ e', p.execute e = .running e' ∧
      s.AsksAttributes r o (.parse object) (.parse request) e e' := by
  rcases fillAttributesQuery_cases ho h with ⟨rfl, hmembers⟩ | ⟨input, ts, hmembers, hts, rfl, hin⟩
  · refine ⟨e, Statement.runAll_nil e, fun m hm => ?_, fun x _ _ => rfl⟩
    rw [hmembers] at hm
    cases hm
  · obtain ⟨us, hagrees, hmem⟩ := query_agrees hts hobject hrequest hne e
    have hfields : ∀ u ∈ us, ∃ name, u.1 = (Accessor.parse request).field name := by
      intro u hu
      obtain ⟨m, -, w, rfl, -⟩ := (hmem u).mp hu
      exact ⟨m.name, rfl⟩
    have hunique : ∀ u ∈ us, ∀ u' ∈ us, u.1 = u'.1 → u = u' := by
      intro u hu u' hu' heq
      obtain ⟨m, hm, w, rfl, hw⟩ := (hmem u).mp hu
      obtain ⟨m', hm', w', rfl, hw'⟩ := (hmem u').mp hu'
      obtain rfl := List.inj_on_of_nodup_map (hdistinct input hin) hm hm' (Accessor.field_inj heq)
      exact Prod.ext rfl (hw.unique hw')
    obtain ⟨f, hf, hlookup⟩ := Env.exists_storeAll_fields hfields hunique hopen
    rw [hf] at hagrees
    obtain ⟨e', hrun, heq⟩ := hagrees
    refine ⟨e', hrun, fun m hm w hw => ?_, fun x hx hapart => ?_⟩
    · rw [hmembers] at hm
      rw [heq.lookup (a := (Accessor.parse request).field m.name) hrequest]
      exact hlookup _ ((hmem _).mpr ⟨m, hm, w, rfl, hw⟩)
    · rw [heq.lookup hx]
      refine Env.lookup_storeAll_of_apart hf fun u hu => ?_
      obtain ⟨m, hm, w, rfl, hw⟩ := (hmem u).mp hu
      exact hapart m (hmembers ▸ hm) w hw

end Synthesizer

open Synthesizer in
/-- **GetAttributes moves the routed values.** For every resource of a schema: where a map is
configured and the response declares it, its program goes through wherever each place that is
written can be reached, and leaves what `AdoptsAttributes` says, which no key without a route has a
say in. Where the request can be filled at all, its program goes through wherever the request can
be reached, and leaves what `AsksAttributes` says. -/
theorem Schema.attributes_routed [PatternEngine] {model : ServiceModel} {config : Config}
    {classifier : Classifier} {schema : Schema}
    (hschema : build model config .standard classifier = .ok schema) {rs : List Resource}
    (hrs : schema.resources = .ok rs) {r : Resource} (hr : r ∈ rs) {o : Operation}
    (ho : r.operations.getAttributes = some o)
    (hdistinct : ∀ shape ∈ model.shapes.values, (shape.members.map (·.name)).Nodup) :
    (∀ (a : AttributeMapConfig) (reference : String) (output : Shape) (m : Member)
      (response status : String), config.attributesMap? r.name = some a →
      o.output = some reference → model.shape? reference = some output →
      output.member? a.mapMember = some m →
      (Accessor.parse response).root ≠ (Accessor.parse status).root →
      (∀ f ∈ r.status.values, f.names.camel ≠ metadataField) →
      ∃ p, schema.synthesizer.adoptAttributes r response status = .ok p ∧
        ∀ e : Env,
          ((∀ u ∈ attributeUpdates r (.ofConfig a) ((Accessor.parse response).field a.mapMember)
              (.parse status) e, e.Writable u.1) →
            ∃ e', p.execute e = .running e' ∧
              AdoptsAttributes r (.ofConfig a) ((Accessor.parse response).field a.mapMember)
                (.parse status) e e') ∧
          ∀ e₂ : Env,
            (∀ key, (AttributeRoutes.ofConfig a).Adopts key →
              e₂.present? (((Accessor.parse response).field a.mapMember).key key) =
                e.present? (((Accessor.parse response).field a.mapMember).key key)) →
            attributeUpdates r (.ofConfig a) ((Accessor.parse response).field a.mapMember)
                (.parse status) e₂ =
              attributeUpdates r (.ofConfig a) ((Accessor.parse response).field a.mapMember)
                (.parse status) e) ∧
      ∀ (object request : String) (p : Program),
        schema.synthesizer.fillAttributesQuery r object request = .ok p →
        ¬ Temporary.IsTemporary (Accessor.parse object).root →
        ¬ Temporary.IsTemporary (Accessor.parse request).root →
        (Accessor.parse object).root ≠ (Accessor.parse request).root →
        ∀ e : Env, e.Open (.parse request) →
          ∃ e', p.execute e = .running e' ∧
            schema.synthesizer.AsksAttributes r o (.parse object) (.parse request) e e' := by
  obtain ⟨index, rfl⟩ := build_eq_ok hschema
  obtain ⟨name, -, hderive⟩ := derive_of_mem_resources hrs hr
  obtain ⟨rfl, -, create, -, created, outputs, -, -, -, -, hpartition⟩ :=
    DerivationScope.derive_cases keepsRaw_standard hderive
  constructor
  · intro a reference output m response status ha href houtput hm hne hmetadata
    refine ⟨_, adoptAttributes_eq (s := Schema.synthesizer ⟨model, config, .standard, index⟩) ha ho
      href houtput hm response status, fun e => ⟨?_, ?_⟩⟩
    · exact adoptsAttributes_of_execute hne hmetadata
    · intro e₂ hsame
      exact attributeUpdates_congr ha hpartition.status_origin hsame
  · intro object request p hp hobject hrequest hne e hopen
    exact asksAttributes_of_execute ho hp hdistinct hobject hrequest hne hopen

/-- The operation that asks for the attributes of a queue. -/
def getQueueAttributes : Operation where
  name := "GetQueueAttributes"
  input := some "GetQueueAttributesRequest"
  output := some "GetQueueAttributesResult"

/-- A queue is asked for by its ARN and its name. -/
def getQueueAttributesRequest : Shape where
  name := "GetQueueAttributesRequest"
  kind := .structure
    [{ name := "QueueArn", target := "Text", indirection := true },
      { name := "QueueName", target := "Text", indirection := true }]

/-- The attributes come as a map. -/
def getQueueAttributesResult : Shape where
  name := "GetQueueAttributesResult"
  kind := .structure [{ name := "Attributes", target := "TextMap" }]
  usedAsOutput := true

/-- The service of queues with an operation that asks for their attributes. -/
def askingModel : ServiceModel :=
  (([getQueueAttributesRequest, getQueueAttributesResult].foldl ServiceModel.addShape
    queueModel).addOperation getQueueAttributes).finish

/-- Of the known keys one can be written, one is observed, and two go to the metadata. -/
def askedKeys : AttributeMapConfig where
  fields := .ofList
    [("Delay", {}), ("Depth", { isReadOnly := true }),
      ("Owner", { containsOwnerAccountId := true }),
      ("QueueArn", { isPrimaryIdentifier := true })]

/-- Those keys, and the shortened name of a queue. -/
def askingConfig : Config where
  resources := .ofList [("Queue",
    { attributesMap := some askedKeys,
      renames := some (.ofList [("CreateQueue",
        { inputFields := .ofList [("QueueName", "Name")],
          outputFields := .ofList [("QueueName", "Name")] })]) })]

/-- The schema of the service that is asked. -/
def askingSchema : Schema where
  model := askingModel
  config := askingConfig
  namer := .standard
  index := ⟨[⟨.create, "Queue", createQueue⟩, ⟨.getAttributes, "Queue", getQueueAttributes⟩]⟩

/-- The resource of the service that is asked. -/
def askedQueue : Resource :=
  { queue with
    operations := { create := some createQueue, getAttributes := some getQueueAttributes },
    ownerAccountId := some "Owner" }

theorem build_askingSchema [PatternEngine] :
    Schema.build askingModel askingConfig .standard (.byConvention .standard) =
      .ok askingSchema := rfl

theorem resources_askingSchema : askingSchema.resources = .ok [askedQueue] :=
  Schema.resources_of_single (show askingSchema.resourceNames = ["Queue"] from rfl) rfl

/-- A queue with a given Status and an answer with some of its attributes. -/
def askingEnv (status : Value) (answer : List (String × Value)) : Env :=
  .ofList
    [("ko", .obj [("Spec", .obj [("Name", .str "jobs")]), ("Status", status)]),
      ("resp", .obj [("Attributes", .obj answer)])]

/-- A queue is asked for by its ARN and its name, and its depth and owner are taken over. -/
theorem attributes_routed_queue :
    ∃ p e' q f',
      askingSchema.synthesizer.adoptAttributes askedQueue "resp" "ko.Status" = .ok p ∧
      p.execute (askingEnv .null [("Delay", .str "5"), ("Depth", .str "7"), ("Owner", .str "me")]) =
        .running e' ∧
      e'.lookup ((Accessor.parse "ko.Status").field "Depth") = some (.str "7") ∧
      e'.lookup (ownerSlot (.parse "ko.Status")) = some (.str "me") ∧
      e'.lookup (arnSlot (.parse "ko.Status")) = none ∧
      askingSchema.synthesizer.fillAttributesQuery askedQueue "ko" "req" = .ok q ∧
      q.execute (askingEnv (.obj [("ACKResourceMetadata", .obj [("ARN", .str "arn:q")])]) []) =
        .running f' ∧
      f'.lookup ((Accessor.parse "req").field "QueueArn") = some (.str "arn:q") ∧
      f'.lookup ((Accessor.parse "req").field "QueueName") = some (.str "jobs") := by
  have hreq : ¬ Temporary.IsTemporary (Accessor.parse "req").root :=
    Temporary.not_isTemporary_of_head (by decide)
  obtain ⟨q, hq⟩ : ∃ q,
      askingSchema.synthesizer.fillAttributesQuery askedQueue "ko" "req" = .ok q := ⟨_, rfl⟩
  obtain ⟨hadopts, hasks⟩ := Schema.attributes_routed build_askingSchema resources_askingSchema
    List.mem_cons_self (show askedQueue.operations.getAttributes = some getQueueAttributes from rfl)
    (by decide)
  obtain ⟨p, hp, hrun⟩ := hadopts askedKeys _ getQueueAttributesResult
    { name := "Attributes", target := "TextMap" } "resp" "ko.Status" rfl rfl rfl rfl (by decide)
    camel_ne_metadataField
  obtain ⟨e', he', hleaves⟩ := (hrun
    (askingEnv .null [("Delay", .str "5"), ("Depth", .str "7"), ("Owner", .str "me")])).1
    fun u hu => (Synthesizer.isStatusPlace_of_mem_attributeUpdates camel_ne_metadataField
      hu).writable (by decide)
  obtain ⟨f', hf', hholds⟩ := hasks "ko" "req" q hq not_isTemporary_ko hreq (by decide)
    (askingEnv (.obj [("ACKResourceMetadata", .obj [("ARN", .str "arn:q")])]) []) (by decide)
  refine ⟨p, e', q, f', hp, he', hleaves.field "Depth" (by decide), hleaves.owner, hleaves.arn, hq,
    hf', ?_, ?_⟩
  · exact hholds.member { name := "QueueArn", target := "Text", indirection := true }
      List.mem_cons_self _ (.arn rfl rfl rfl)
  · refine hholds.member { name := "QueueName", target := "Text", indirection := true }
      (List.mem_cons_of_mem _ List.mem_cons_self) _ (.spec rfl (by decide)
        (Field.isFirstOf_of_find? rfl) ⟨_, .str "jobs", rfl, rfl, rfl, ?_⟩)
    rw [Copier.copied_scalar _ _ rfl]

/-- **That the Status can be reached is not enough.** The ARN goes below the metadata, and the run
stops where that is no object. -/
theorem adoptAttributes_stops_at_metadata :
    Schema.build askingModel askingConfig .standard (.byConvention .standard) =
        .ok askingSchema ∧
      askingSchema.resources = .ok [askedQueue] ∧
      (∀ shape ∈ askingModel.shapes.values, (shape.members.map (·.name)).Nodup) ∧
      ∃ p,
        askingSchema.synthesizer.adoptAttributes askedQueue "resp" "ko.Status" = .ok p ∧
        ¬ Temporary.IsTemporary (Accessor.parse "resp").root ∧
        ¬ Temporary.IsTemporary (Accessor.parse "ko.Status").root ∧
        (Accessor.parse "resp").root ≠ (Accessor.parse "ko.Status").root ∧
        (∀ f ∈ askedQueue.status.values, f.names.camel ≠ metadataField) ∧
        (askingEnv (.obj [("ACKResourceMetadata", .str "none")])
          [("QueueArn", .str "arn:q")]).Open (.parse "ko.Status") ∧
        (p.execute (askingEnv (.obj [("ACKResourceMetadata", .str "none")])
          [("QueueArn", .str "arn:q")])).failed =
            some (.notAnObject "ko.Status.ACKResourceMetadata.ARN" "ARN") := by
  refine ⟨build_askingSchema, resources_askingSchema, by decide, _, rfl, not_isTemporary_resp,
    not_isTemporary_ko, by decide, camel_ne_metadataField, by decide, rfl⟩

end ResourceGen
