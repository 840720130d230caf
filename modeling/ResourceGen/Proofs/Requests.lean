import Mathlib.Data.List.Basic
import ResourceGen.Proofs.Partition
import ResourceGen.Proofs.Transfers

/-!
# Requests hold the Spec

Running the program of `Synthesizer.fillRequest` writes members of the request and nothing else,
apart from its own variables. Which ones, and with which values, is told by `Writes` from the
values before the run: the attribute map, if the input declares it, and for each Spec field that
is no key the input member with the field's key as its name in the resource.

Two fields never write one member: a member has one name in the resource. So the order of the
fields does not matter, and every written value is still there at the end.

Results:
* `fillInput_agrees`: the program does what its writes do.
* `Writes.unique`: a member of the request is written with one value at most.
* `ofPairs_sentAttributes`: in a derived resource the attribute map has its entries under the keys
  of the Spec.
* `fillRequest_sends_spec`: what the request holds in the end, and that nothing else changes.
-/

namespace ResourceGen

open Json (Value)
open Statement (runAll)
open Env (EqOutside)

/-- The variables that a request program has for itself: the numbered ones and the one that holds
the attribute map. -/
def IsRequestVariable (x : String) : Prop := Temporary.IsTemporary x ∨ x = attributeMapVar

theorem isRequestVariable_of_numberedFrom {x : String} (h : Temporary.NumberedFrom 0 x) :
    IsRequestVariable x :=
  Or.inl (Temporary.isTemporary_of_numberedFrom h)

theorem not_isTemporary_attributeMapVar : ¬ Temporary.IsTemporary attributeMapVar :=
  Temporary.not_isTemporary_of_head (by decide)

namespace Synthesizer

/-! ## What a request should hold -/

/-- The entries of the attribute map that is sent: the Spec fields that are keys and have a
value. -/
def sentAttributes (r : Resource) (spec : Accessor) (e : Env) : List (String × Value) :=
  r.spec.values.filterMap fun f => f.attributeKey?.bind fun key =>
    (e.present? (spec.field f.names.camel)).map fun v => (key, v)

variable (s : Synthesizer) (r : Resource) (o : Operation) (input : Shape)

/-- A Spec field has a value, and its copy `w` goes to the input member `m`: the first one, apart
from the attribute map, whose name in the resource is the key of the field. -/
def Sends (spec : Accessor) (e : Env) (m : Member) (w : Value) : Prop :=
  ∃ key f shape v, r.spec.get? key = some f ∧ f.isAttribute = false ∧
    s.inputMember? r o input ((s.requestMapMember r input).map (·.name)) key = some m ∧
    s.model.shape? m.target = some shape ∧ s.model.isTyped shape = true ∧
    e.present? (spec.field f.names.camel) = some v ∧
    w = (Copier.mk .outbound s.types).copied shape v

/-- The input member `m` is written with `w`. -/
def Writes (spec : Accessor) (e : Env) (m : Member) (w : Value) : Prop :=
  (s.requestMapMember r input = some m ∧ w = .ofPairs (sentAttributes r spec e)) ∨
    s.Sends r o input spec e m w

variable {s r o input} {spec : Accessor} {e e' : Env}

theorem name_ne_of_inputMember? {mapMember : Option String} {key : String} {m : Member}
    (h : s.inputMember? r o input mapMember key = some m) :
    mapMember ≠ some m.name ∧ s.config.inputName r.name o.name m.name = key := by
  have := List.find?_some h
  rw [Bool.and_eq_true, bne_iff_ne, beq_iff_eq] at this
  exact this

/-- A member has one name in the resource, so it is sent one field at most. -/
theorem Sends.unique {m m' : Member} {w w' : Value} (h : s.Sends r o input spec e m w)
    (h' : s.Sends r o input spec e m' w') (hname : m.name = m'.name) : w = w' := by
  obtain ⟨key, f, shape, v, hf, -, hm, hshape, -, hv, rfl⟩ := h
  obtain ⟨key', f', shape', v', hf', -, hm', hshape', -, hv', rfl⟩ := h'
  obtain rfl : key = key' := by
    rw [← (name_ne_of_inputMember? hm).2, ← (name_ne_of_inputMember? hm').2, hname]
  rw [hm] at hm'
  cases hm'
  rw [hf] at hf'
  cases hf'
  rw [hshape] at hshape'
  cases hshape'
  rw [hv] at hv'
  cases hv'
  rfl

/-- **A member of the request is written with one value at most.** -/
theorem Writes.unique {m m' : Member} {w w' : Value} (h : s.Writes r o input spec e m w)
    (h' : s.Writes r o input spec e m' w') (hname : m.name = m'.name) : w = w' := by
  -- the attribute map is no member that a field is sent to
  have hmap {m m' : Member} {w' : Value} (hm : s.requestMapMember r input = some m)
      (hs : s.Sends r o input spec e m' w') : m.name ≠ m'.name := by
    obtain ⟨key, f, shape, v, -, -, hm', -⟩ := hs
    have hne := (name_ne_of_inputMember? hm').1
    rw [hm, Option.map_some] at hne
    exact fun heq => hne (congrArg some heq)
  rcases h with ⟨hm, rfl⟩ | h <;> rcases h' with ⟨hm', rfl⟩ | h'
  · rfl
  · exact absurd hname (hmap hm h')
  · exact absurd hname.symm (hmap hm' h)
  · exact h.unique h' hname

/-! ## The attribute map -/

/-- Entries under keys of a map in a variable are entered in turn. -/
theorem storeAll_keys {x : String} {done : Entries Value} (h : e.get? x = some (.obj done))
    (pairs : List (String × Value)) :
    ∃ f, e.storeAll (pairs.map fun p => ((Accessor.var x).key p.1, p.2)) = .ok f ∧
      f.get? x = some (.obj (Entries.insertAll done pairs)) ∧ EqOutside (· = x) e f := by
  induction pairs generalizing e done with
  | nil => exact ⟨e, rfl, h, EqOutside.refl _ e⟩
  | cons p rest ih =>
    have hstore : e.store ((Accessor.var x).key p.1) p.2 =
        .ok (e.insert x (.obj (Entries.insert done p.1 p.2))) :=
      Env.store_of_names_singleton (Accessor.key_names _ _) h p.2
    obtain ⟨f, hrest, hf, heq⟩ := ih (Dict.get?_insert_self e x (.obj (Entries.insert done p.1 p.2)))
    refine ⟨f, ?_, hf, (Env.eqOutside_insert (S := (· = x)) e rfl _).trans heq⟩
    rw [List.map_cons, Env.storeAll_cons, hstore]
    exact hrest

/-- The writes of the transfers into the attribute map. -/
theorem filterMap_attributeEntry (c : Copier) (e : Env) :
    (r.spec.values.filterMap (attributeEntry spec)).filterMap (Transfer.update? c e) =
      (sentAttributes r spec e).map fun p => ((Accessor.var attributeMapVar).key p.1, p.2) := by
  unfold sentAttributes attributeEntry
  rw [List.filterMap_filterMap, List.map_filterMap]
  congr 1
  funext f
  cases f.attributeKey? with
  | none => rfl
  | some key =>
    show Transfer.update? c e (.handed _ (spec.field f.names.camel) .value) = _
    unfold Transfer.update? Transfer.source Transfer.dest Transfer.carried
    cases e.present? (spec.field f.names.camel) <;> rfl

/-- **Sending the attributes does what one write of the attribute map does.** -/
theorem sendAttributes_agrees (c : Copier) (spec : Accessor) (mapMember : String)
    {request : Accessor} (hrequest : ¬ IsRequestVariable request.root)
    (hspec : ¬ IsRequestVariable spec.root) (e : Env) :
    (runAll (sendAttributes r request spec mapMember c) e).AgreesWith IsRequestVariable
      (e.store (request.field mapMember) (.ofPairs (sentAttributes r spec e))) := by
  have hsource : spec.root ≠ attributeMapVar := fun h => hspec (Or.inr h)
  have hstart : EqOutside (· = attributeMapVar) e (e.insert attributeMapVar (.obj [])) :=
    Env.eqOutside_insert (S := (· = attributeMapVar)) e rfl _
  have hroots : ∀ t ∈ r.spec.values.filterMap (attributeEntry spec),
      t.dest.root = attributeMapVar ∧ t.source.root = spec.root := by
    intro t ht
    obtain ⟨f, -, hf⟩ := List.mem_filterMap.mp ht
    obtain ⟨key, -, rfl⟩ := Option.map_eq_some_iff.mp hf
    exact ⟨rfl, rfl⟩
  have hfill := c.transfers_agree (S := Temporary.IsTemporary) (D := (· = attributeMapVar))
    (n := 0) (fun x hx => Temporary.isTemporary_of_numberedFrom hx)
    (fun t ht => by
      rw [(hroots t ht).1]
      exact ⟨not_isTemporary_attributeMapVar, rfl⟩)
    (fun t ht => by
      rw [(hroots t ht).2]
      exact ⟨fun h => hspec (Or.inl h), hsource⟩)
    hstart (EqOutside.refl _ _)
  obtain ⟨f, hstore, hmap, heq⟩ := storeAll_keys
    (Dict.get?_insert_self e attributeMapVar (.obj [])) (sentAttributes r spec e)
  rw [filterMap_attributeEntry, hstore] at hfill
  obtain ⟨g, hrun, hfg⟩ := hfill
  have hg : g.get? attributeMapVar = some (.ofPairs (sentAttributes r spec e)) := by
    rw [hfg _ not_isTemporary_attributeMapVar, hmap, Value.ofPairs_eq]
  have hsame : EqOutside IsRequestVariable e g :=
    ((hstart.trans heq).mono fun _ => Or.inr).trans (hfg.mono fun _ => Or.inl)
  rw [sendAttributes, List.cons_append, Statement.runAll_cons, Statement.run,
    Outcome.andThen_running, Statement.runAll_append, hrun, Outcome.andThen_running,
    Statement.runAll_singleton, Copier.run_publish hg]
  exact Outcome.agreesWith_store (a := request.field mapMember) hsame hrequest _

/-! ## The whole request -/

/-- What the transfer of a Spec field writes. -/
theorem specTransfer_cases {mapMember : Option String} {request : Accessor} {key : String}
    {f : Field} {t : Option Transfer}
    (h : s.specTransfer r o input mapMember request spec key f = .ok t) :
    t = none ∧ (f.isAttribute = true ∨ s.inputMember? r o input mapMember key = none ∨
        ∃ m, s.inputMember? r o input mapMember key = some m ∧
          ∀ shape, s.model.shape? m.target = some shape → s.model.isTyped shape = false) ∨
      ∃ m shape, f.isAttribute = false ∧ s.inputMember? r o input mapMember key = some m ∧
        s.model.shape? m.target = some shape ∧ s.model.isTyped shape = true ∧
        ∃ l : Layout, l.Unfolds s.model shape ∧
          t = some (.copied (request.field m.name) (spec.field f.names.camel) l) := by
  unfold specTransfer at h
  split at h
  · rename_i hattr
    cases h
    exact Or.inl ⟨rfl, Or.inl hattr⟩
  · rename_i hattr
    rw [Bool.not_eq_true] at hattr
    cases hm : s.inputMember? r o input mapMember key with
    | none =>
      simp only [hm] at h
      cases h
      exact Or.inl ⟨rfl, Or.inr (Or.inl rfl)⟩
    | some m =>
      simp only [hm] at h
      cases hshape : s.model.shape? m.target with
      | none =>
        simp only [hshape] at h
        cases h
        refine Or.inl ⟨rfl, Or.inr (Or.inr ⟨m, rfl, fun shape hs => ?_⟩)⟩
        rw [hshape] at hs
        cases hs
      | some shape =>
        simp only [hshape] at h
        rcases copyOf_cases h with ⟨htyped, rfl⟩ | ⟨htyped, l, hl, rfl⟩
        · refine Or.inl ⟨rfl, Or.inr (Or.inr ⟨m, rfl, fun shape' hs => ?_⟩)⟩
          rw [hshape] at hs
          cases hs
          exact htyped
        · exact Or.inr ⟨m, shape, hattr, rfl, hshape, htyped, l, hl, rfl⟩

/-- The writes of the transfers of the Spec fields. -/
theorem mem_updates_iff {request : Accessor} {ts : List (Option Transfer)}
    (hts : r.spec.entries.mapM (fun e => s.specTransfer r o input
      ((s.requestMapMember r input).map (·.name)) request spec e.1 e.2) = .ok ts)
    {u : Accessor × Value} :
    u ∈ (ts.filterMap id).filterMap (Transfer.update? ⟨.outbound, s.types⟩ e) ↔
      ∃ m w, u = (request.field m.name, w) ∧ s.Sends r o input spec e m w := by
  constructor
  · intro hu
    obtain ⟨tr, htr, hupdate⟩ := List.mem_filterMap.mp hu
    obtain ⟨t, ht, htr⟩ := List.mem_filterMap.mp htr
    obtain rfl : t = some tr := htr
    obtain ⟨⟨key, f⟩, hentry, hcases⟩ := Result.exists_of_mem_mapM hts ht
    rcases specTransfer_cases hcases with ⟨h, -⟩ | ⟨m, shape, hattr, hm, hshape, htyped, l, hl, h⟩
    · cases h
    · cases h
      obtain ⟨v, hv, rfl⟩ := Transfer.update?_eq_some_iff.mp hupdate
      exact ⟨m, _, rfl, key, f, shape, v, Dict.mem_entries_iff.mp hentry, hattr, hm, hshape, htyped,
        hv, Copier.valueOf_eq_copied _ l hl v⟩
  · rintro ⟨m, w, rfl, key, f, shape, v, hf, hattr, hm, hshape, htyped, hv, rfl⟩
    obtain ⟨t, ht, hcases⟩ := Result.exists_of_mem_of_mapM hts (Dict.mem_entries_iff.mpr hf)
    rcases specTransfer_cases hcases with ⟨-, h⟩ | ⟨m', shape', -, hm', hshape', -, l, hl, rfl⟩
    · -- a field that has all it needs is transferred
      rcases h with h | h | ⟨m', hm', h⟩
      · rw [hattr] at h
        cases h
      · rw [hm] at h
        cases h
      · rw [hm] at hm'
        cases hm'
        rw [h shape hshape] at htyped
        cases htyped
    · rw [hm] at hm'
      cases hm'
      rw [hshape] at hshape'
      cases hshape'
      refine List.mem_filterMap.mpr ⟨_, List.mem_filterMap.mpr ⟨_, ht, rfl⟩, ?_⟩
      refine Transfer.update?_eq_some_iff.mpr ⟨v, hv, ?_⟩
      exact Prod.ext rfl (Copier.valueOf_eq_copied _ l hl v)

/-- The transfers of the Spec fields lead from the Spec to the request. -/
theorem roots_of_mem_transfers {request : Accessor} {mapMember : Option String}
    {ts : List (Option Transfer)}
    (hts : r.spec.entries.mapM (fun e => s.specTransfer r o input mapMember request spec e.1 e.2) =
      .ok ts) :
    ∀ t ∈ ts.filterMap id, t.dest.root = request.root ∧ t.source.root = spec.root := by
  refine forall_of_mapM hts fun entry _ t ht => ?_
  rcases specTransfer_cases ht with ⟨h, -⟩ | ⟨m, shape, -, -, -, -, l, -, h⟩
  · cases h
  · cases h
    exact ⟨rfl, rfl⟩

variable (s r input) in
/-- What runs before the fields: nothing, or the attribute map. -/
theorem first_agrees (spec : Accessor) {request : Accessor} (hrequest : ¬ IsRequestVariable request.root)
    (hspec : ¬ IsRequestVariable spec.root) (e : Env) :
    ∃ us, (∀ u, u ∈ us ↔ ∃ m w, u = (request.field m.name, w) ∧
        s.requestMapMember r input = some m ∧ w = .ofPairs (sentAttributes r spec e)) ∧
      (runAll (match (s.requestMapMember r input).map (·.name) with
        | some member => sendAttributes r request spec member ⟨.outbound, s.types⟩
        | none => []) e).AgreesWith IsRequestVariable (e.storeAll us) := by
  cases hm : s.requestMapMember r input with
  | none =>
    refine ⟨[], fun u => ⟨fun hu => (by cases hu), ?_⟩, ?_⟩
    · rintro ⟨m, w, -, h, -⟩
      cases h
    · show (runAll [] e).AgreesWith IsRequestVariable (.ok e)
      rw [Statement.runAll_nil]
      exact Outcome.agreesWith_running _ e
  | some m =>
    refine ⟨[(request.field m.name, .ofPairs (sentAttributes r spec e))],
      fun u => ⟨fun hu => ⟨m, _, List.mem_singleton.mp hu, rfl, rfl⟩, ?_⟩, ?_⟩
    · rintro ⟨m', w, rfl, h, rfl⟩
      cases h
      exact List.mem_singleton.mpr rfl
    · have hsend := sendAttributes_agrees (r := r) ⟨.outbound, s.types⟩ spec m.name hrequest hspec e
      rw [Env.storeAll_cons]
      cases hf : e.store (request.field m.name) (.ofPairs (sentAttributes r spec e)) <;>
        rw [hf] at hsend <;> exact hsend

/-- **The program that fills a request does what its writes do.** -/
theorem fillInput_agrees {object request : Accessor} {p : Program}
    (h : s.fillInput r o input object request = .ok p)
    (hobject : ¬ IsRequestVariable object.root) (hrequest : ¬ IsRequestVariable request.root)
    (hne : object.root ≠ request.root) (e : Env) :
    ∃ us, (p.execute e).AgreesWith IsRequestVariable (e.storeAll us) ∧
      ∀ u, u ∈ us ↔ ∃ m w, u = (request.field m.name, w) ∧
        s.Writes r o input (object.field "Spec") e m w := by
  unfold fillInput at h
  obtain ⟨ts, hts, h⟩ := Result.bind_eq_ok_iff.mp h
  obtain rfl := Result.pure_eq_ok_iff.mp h
  obtain ⟨first, hmem, hfirst⟩ :=
    first_agrees s r input (object.field "Spec") hrequest hobject e
  refine ⟨first ++ (ts.filterMap id).filterMap
    (Transfer.update? ⟨.outbound, s.types⟩ e), ?_, fun u => ?_⟩
  · rw [Program.execute, program, Statement.runAll_append, Env.storeAll_append]
    refine hfirst.andThen fun f f' hf hff' => ?_
    refine Copier.transfers_agree _ (D := (· = request.root))
      (fun x hx => isRequestVariable_of_numberedFrom hx) (fun t ht => ?_) (fun t ht => ?_) ?_ hff'
    · rw [(roots_of_mem_transfers hts t ht).1]
      exact ⟨hrequest, rfl⟩
    · rw [(roots_of_mem_transfers hts t ht).2]
      exact ⟨hobject, hne⟩
    · refine Env.eqOutside_storeAll hf fun u hu => ?_
      obtain ⟨m, w, rfl, -⟩ := (hmem u).mp hu
      rfl
  · rw [List.mem_append, hmem, mem_updates_iff hts]
    constructor
    · rintro (⟨m, w, hu, h⟩ | ⟨m, w, hu, h⟩)
      · exact ⟨m, w, hu, Or.inl h⟩
      · exact ⟨m, w, hu, Or.inr h⟩
    · rintro ⟨m, w, hu, h | h⟩
      · exact Or.inl ⟨m, w, hu, h⟩
      · exact Or.inr ⟨m, w, hu, h⟩

/-- **A request holds what is written, and nothing else has changed.** -/
theorem fillInput_holds {object request : Accessor} {p : Program}
    (h : s.fillInput r o input object request = .ok p)
    (hobject : ¬ IsRequestVariable object.root) (hrequest : ¬ IsRequestVariable request.root)
    (hne : object.root ≠ request.root) (hopen : e.Open request) :
    ∃ e', p.execute e = .running e' ∧
      (∀ m w, s.Writes r o input (object.field "Spec") e m w →
        e'.lookup (request.field m.name) = some w) ∧
      ∀ a : Accessor, ¬ IsRequestVariable a.root →
        (∀ m w, s.Writes r o input (object.field "Spec") e m w → (request.field m.name).Apart a) →
        e'.lookup a = e.lookup a := by
  obtain ⟨us, hagrees, hmem⟩ := fillInput_agrees h hobject hrequest hne e
  have hfields : ∀ u ∈ us, ∃ name, u.1 = request.field name := by
    intro u hu
    obtain ⟨m, w, rfl, -⟩ := (hmem u).mp hu
    exact ⟨m.name, rfl⟩
  have hunique : ∀ u ∈ us, ∀ u' ∈ us, u.1 = u'.1 → u = u' := by
    intro u hu u' hu' heq
    obtain ⟨m, w, rfl, hw⟩ := (hmem u).mp hu
    obtain ⟨m', w', rfl, hw'⟩ := (hmem u').mp hu'
    exact Prod.ext heq (hw.unique hw' (Accessor.field_inj heq))
  obtain ⟨f, hf, hlookup⟩ := Env.exists_storeAll_fields hfields hunique hopen
  rw [hf] at hagrees
  obtain ⟨e', hrun, heq⟩ := hagrees
  refine ⟨e', hrun, fun m w hw => ?_, fun a ha hapart => ?_⟩
  · rw [heq.lookup (a := request.field m.name) hrequest]
    exact hlookup _ ((hmem _).mpr ⟨m, w, rfl, hw⟩)
  · rw [heq.lookup ha]
    refine Env.lookup_storeAll_of_apart hf fun u hu => ?_
    obtain ⟨m, w, rfl, hw⟩ := (hmem u).mp hu
    exact hapart m w hw

/-- **In a derived resource the attribute map has its entries under the keys of the Spec.** -/
theorem ofPairs_sentAttributes {d : DerivationScope} {create : Operation} {input : Shape}
    (hspec : ∀ key f, r.spec.get? key = some f → d.SpecOrigin r.name create input key f)
    (spec : Accessor) (e : Env) :
    ∃ sent : Dict Value, .ofPairs (sentAttributes r spec e) = Value.obj sent.entries ∧
      ∀ key, sent.get? key = (r.spec.get? key).bind fun f =>
        if f.isAttribute then e.present? (spec.field f.names.camel) else none := by
  have hsent : sentAttributes r spec e = r.spec.entries.filterMap fun entry =>
      (if entry.2.isAttribute then e.present? (spec.field entry.2.names.camel) else none).map
        fun v => (entry.1, v) := by
    unfold sentAttributes Dict.values
    rw [List.filterMap_map]
    refine List.filterMap_congr fun ⟨key, f⟩ hmem => ?_
    rcases hspec key f (Dict.mem_entries_iff.mp hmem) with ⟨m, -, -, -, horigin⟩ | ⟨-, rfl⟩
    · obtain ⟨shape, type, -, -, rfl⟩ := horigin
      rfl
    · rfl
  refine ⟨.ofList (sentAttributes r spec e), rfl, fun key => ?_⟩
  rw [hsent]
  exact Dict.get?_ofList_filterMap r.spec (fun _ f =>
    if f.isAttribute then e.present? (spec.field f.names.camel) else none) key

theorem fillRequest_eq {role : Role} {object request : String} {p : Program} {reference : String}
    (h : s.fillRequest r role object request = .ok p) (ho : r.operations.get? role = some o)
    (href : o.input = some reference) (hinput : s.model.shape? reference = some input) :
    s.fillInput r o input (.parse object) (.parse request) = .ok p := by
  have hresolve : s.model.resolve reference o.name = .ok input :=
    ServiceModel.resolve_eq_ok_iff.mpr hinput
  unfold fillRequest payload at h
  rw [ho] at h
  simp only [href, hresolve] at h
  exact h

end Synthesizer

/-- **Requests are exactly the Spec.** For every resource of a schema and every operation with an
input, the program runs through. Each Spec field with a value that the input takes is in the
request as its copy; the attribute map, if the input declares it, has exactly the keys of the Spec
that have a value; and nothing that these members do not meet has changed. -/
theorem Schema.fillRequest_sends_spec [PatternEngine] {model : ServiceModel} {config : Config}
    {classifier : Classifier} {schema : Schema}
    (hschema : build model config .standard classifier = .ok schema) {rs : List Resource}
    (hrs : schema.resources = .ok rs) {r : Resource} (hr : r ∈ rs) {role : Role} {o : Operation}
    (ho : r.operations.get? role = some o) {reference : String} {input : Shape}
    (href : o.input = some reference) (hinput : model.shape? reference = some input)
    {object request : String} {p : Program}
    (hp : schema.synthesizer.fillRequest r role object request = .ok p)
    (hobject : ¬ IsRequestVariable (Accessor.parse object).root)
    (hrequest : ¬ IsRequestVariable (Accessor.parse request).root)
    (hne : (Accessor.parse object).root ≠ (Accessor.parse request).root) {e : Env}
    (hopen : e.Open (.parse request)) :
    ∃ e', p.execute e = .running e' ∧
      (∀ m w, schema.synthesizer.Sends r o input ((Accessor.parse object).field "Spec") e m w →
        e'.lookup ((Accessor.parse request).field m.name) = some w) ∧
      (∀ m, schema.synthesizer.requestMapMember r input = some m →
        ∃ sent : Dict Value,
          e'.lookup ((Accessor.parse request).field m.name) = some (.obj sent.entries) ∧
          ∀ key, sent.get? key = (r.spec.get? key).bind fun f =>
            if f.isAttribute then
              e.present? (((Accessor.parse object).field "Spec").field f.names.camel)
            else none) ∧
      ∀ a : Accessor, ¬ IsRequestVariable a.root →
        (∀ m w, schema.synthesizer.Sends r o input ((Accessor.parse object).field "Spec") e m w →
          ((Accessor.parse request).field m.name).Apart a) →
        (∀ m, schema.synthesizer.requestMapMember r input = some m →
          ((Accessor.parse request).field m.name).Apart a) →
        e'.lookup a = e.lookup a := by
  obtain ⟨index, rfl⟩ := build_eq_ok hschema
  obtain ⟨name, -, hderive⟩ := derive_of_mem_resources hrs hr
  obtain ⟨rfl, -, create, -, created, outputs, -, -, -, -, hpartition⟩ :=
    DerivationScope.derive_cases keepsRaw_standard hderive
  obtain ⟨e', hrun, hholds, hframe⟩ := Synthesizer.fillInput_holds
    (Synthesizer.fillRequest_eq hp ho href hinput) hobject hrequest hne hopen
  refine ⟨e', hrun, fun m w hw => hholds m w (Or.inr hw), fun m hm => ?_, fun a ha hsent hmap => ?_⟩
  · obtain ⟨sent, hsent, hkeys⟩ := Synthesizer.ofPairs_sentAttributes hpartition.spec_origin
      ((Accessor.parse object).field "Spec") e
    refine ⟨sent, ?_, hkeys⟩
    rw [← hsent]
    exact hholds m _ (Or.inl ⟨hm, rfl⟩)
  · refine hframe a ha fun m w hw => ?_
    rcases hw with ⟨hm, -⟩ | hw
    · exact hmap m hm
    · exact hsent m w hw

/-- A queue with a name and a delay. -/
def queueEnv : Env :=
  .ofList [("ko", .obj [("Spec", .obj [("Delay", .str "5"), ("Name", .str "jobs")])])]

/-- The request that creates the queue. -/
theorem fillRequest_sends_queue :
    ∃ p e', queueSchema.synthesizer.fillRequest queue .create "ko" "res" = .ok p ∧
      p.execute queueEnv = .running e' ∧
      e'.lookup ((Accessor.parse "res").field "QueueName") = some (.str "jobs") ∧
      ∃ sent : Dict Value,
        e'.lookup ((Accessor.parse "res").field "Attributes") = some (.obj sent.entries) ∧
        sent.get? "Delay" = some (.str "5") ∧ sent.get? "Depth" = none := by
  have hvar : ¬ IsRequestVariable "ko" ∧ ¬ IsRequestVariable "res" := by
    constructor <;> rintro (h | h)
    · exact Temporary.not_isTemporary_of_head (by decide) h
    · exact absurd h (by decide)
    · exact Temporary.not_isTemporary_of_head (by decide) h
    · exact absurd h (by decide)
  obtain ⟨p, hp⟩ : ∃ p, queueSchema.synthesizer.fillRequest queue .create "ko" "res" = .ok p :=
    ⟨_, rfl⟩
  have hopen : queueEnv.Open (.parse "res") := by decide
  have ho : queue.operations.get? .create = some createQueue := rfl
  have hinput : queueModel.shape? "CreateQueueRequest" = some createQueueRequest := rfl
  obtain ⟨e', hrun, hsent, hmap, -⟩ := Schema.fillRequest_sends_spec build_queueSchema
    resources_queueSchema List.mem_cons_self ho rfl hinput hp hvar.1 hvar.2 (by decide) hopen
  obtain ⟨sent, hlookup, hkeys⟩ := hmap { name := "Attributes", target := "TextMap" } rfl
  refine ⟨p, e', hp, hrun, ?_, sent, hlookup, (hkeys _).trans rfl, (hkeys _).trans rfl⟩
  refine hsent { name := "QueueName", target := "Text", indirection := true } _ ⟨"Name", _,
    { name := "Text", kind := .scalar .string }, .str "jobs", rfl, rfl, rfl, rfl, rfl, rfl, ?_⟩
  rw [Copier.copied_scalar _ _ rfl]
end ResourceGen
