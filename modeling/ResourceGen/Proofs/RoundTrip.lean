import Mathlib.Data.List.Nodup
import ResourceGen.Proofs.Containment
import ResourceGen.Proofs.Transfers

/-!
# Into the resource and out again

A response is copied into a resource, where members have their camel names, and the resource into
a request, where they have their names on the wire. What arrives of a value is what its shape can
express (`ServiceModel.normal`): members without a value or a field type are gone, a structure or
map that was no object is empty, a list that was none is empty, and all else is as it was.

The way out finds what the way in wrote only if no two members of a structure share a camel name
(`TypeResolver.DistinctNames`); that is asked of the structures a copy can come to.

Results:
* `normal_structure`, `normal_list`, `normal_map`: what a shape expresses, by its kind.
* `copied_copied`: the copy of a copy is what the shape expresses of the value.
* `copyOf_agrees`: the program that copies a value does what one write does.
* `outbound_undoes_inbound`: so do the two programs, one after the other.
-/

namespace ResourceGen

open Json (Value)
open Statement (itemsOf entriesOf)
open Env (EqOutside)
open Relation (ReflTransGen)

/-! ## What a shape expresses -/

/-- Names that are all the text itself. -/
def Namer.verbatim : Namer := ⟨fun text => ⟨text, text, text, text⟩, id, id⟩

namespace ServiceModel

/-- What a shape expresses of a value: the copy that renames nothing. -/
def normal (m : ServiceModel) (s : Shape) (v : Value) : Value :=
  (Copier.mk .outbound ⟨m, .verbatim, []⟩).copied s v

section Equations

variable (m : ServiceModel) {s e : Shape} (v : Value)

theorem normal_scalar {type : ScalarType} (h : s.kind = .scalar type) : m.normal s v = v :=
  Copier.copied_scalar _ v h

/-- Of a structure the members stay that have a field type and a value. -/
theorem normal_structure {members : List Member} (h : s.kind = .structure members) :
    m.normal s v = .ofPairs ((m.typedMembers members).filterMap fun f =>
      (v.presentField? f.1).map fun w => (f.1, m.normal f.2 w)) :=
  Copier.copied_structure _ v h

/-- Of a list all elements stay, in order. -/
theorem normal_list {element : String} (h : s.kind = .list element)
    (he : m.shape? element = some e) :
    m.normal s v = .arr ((itemsOf (some v)).map (m.normal e)) :=
  Copier.copied_list _ v h he

/-- Of a map all keys stay. -/
theorem normal_map {key value : String} (h : s.kind = .map key value)
    (he : m.shape? value = some e) :
    m.normal s v = .ofPairs ((entriesOf (some v)).map fun p => (p.1, m.normal e p.2)) :=
  Copier.copied_map _ v h he

end Equations

end ServiceModel

/-- The members of a structure have different names in the resource, and so on the wire. -/
def TypeResolver.DistinctNames (r : TypeResolver) (s : Shape) : Prop :=
  (s.members.map fun f => (r.namer.names f.name).camel).Nodup

/-! ## The copy of a copy -/

namespace Json.Value

theorem sizeOf_of_mem_itemsOf {v w : Value} (h : w ∈ itemsOf (some v)) : sizeOf w < sizeOf v := by
  cases v with
  | arr items =>
    have := List.sizeOf_lt_of_mem (show w ∈ items from h)
    simp only [arr.sizeOf_spec]
    omega
  | _ => cases h

theorem sizeOf_of_mem_entriesOf {v : Value} {p : String × Value} (h : p ∈ entriesOf (some v)) :
    sizeOf p.2 < sizeOf v := by
  cases v with
  | obj entries =>
    have := List.sizeOf_lt_of_mem (show p ∈ entries from h)
    obtain ⟨k, w⟩ := p
    simp only [obj.sizeOf_spec, Prod.mk.sizeOf_spec] at this ⊢
    omega
  | _ => cases h

end Json.Value

namespace Copier

/-- A value that is there stays there. -/
theorem isNull_copied (c : Copier) {s : Shape} (hs : c.types.model.isTyped s = true) {v : Value}
    (hv : v.isNull = false) : (c.copied s v).isNull = false := by
  cases hk : s.kind with
  | scalar type => rw [c.copied_scalar v hk, hv]
  | «structure» members => rw [c.copied_structure v hk]; rfl
  | list element =>
    obtain ⟨type, htype⟩ := ServiceModel.isTyped_iff.mp hs
    obtain ⟨e, -, he, -⟩ := (ServiceModel.typeWithin_list_iff hk).mp htype
    rw [c.copied_list v hk he]
    rfl
  | map key value =>
    obtain ⟨type, htype⟩ := ServiceModel.isTyped_iff.mp hs
    obtain ⟨-, e, -, -, -, he, -⟩ := (ServiceModel.typeWithin_map_iff hk).mp htype
    rw [c.copied_map v hk he]
    rfl
  | unsupported label =>
    obtain ⟨type, htype⟩ := ServiceModel.isTyped_iff.mp hs
    rw [ServiceModel.shapeType, ServiceModel.typeWithin, hk] at htype
    cases htype

variable (types : TypeResolver)

/-- Different members have different camel names, so what the way in writes for one is what the
way out finds for it. -/
theorem presentField?_copied {s : Shape} {members : List Member}
    (hk : s.kind = .structure members) (hnames : types.DistinctNames s) {f : String × Shape}
    (hf : f ∈ types.model.typedMembers members) (v : Value) :
    ((Copier.mk .inbound types).copied s v).presentField? (types.namer.names f.1).camel =
      (v.presentField? f.1).map ((Copier.mk .inbound types).copied f.2) := by
  have hnodup : ((types.model.typedMembers members).map fun g =>
      (types.namer.names g.1).camel).Nodup := by
    unfold TypeResolver.DistinctNames at hnames
    rw [ServiceModel.members_eq hk] at hnames
    have hsub := (types.model.map_typedMembers_sublist members).map fun wire =>
      (types.namer.names wire).camel
    rw [List.map_map, List.map_map] at hsub
    exact hnames.sublist hsub
  have hget := Entries.get?_insertAll_filterMap (fun g : String × Shape =>
      (types.namer.names g.1).camel)
    (fun g => (v.presentField? g.1).map ((Copier.mk .inbound types).copied g.2)) hnodup hf
    (l := []) rfl
  have hcopied : (Copier.mk .inbound types).copied s v = .ofPairs
      ((types.model.typedMembers members).filterMap fun g =>
        ((v.presentField? g.1).map ((Copier.mk .inbound types).copied g.2)).map fun w =>
          ((types.namer.names g.1).camel, w)) := by
    rw [copied_structure _ v hk]
    simp only [Option.map_map]
    rfl
  rw [hcopied, Value.ofPairs_eq, Value.presentField?, Value.field?_obj, hget]
  cases hv : v.presentField? f.1 with
  | none => rfl
  | some w =>
    obtain ⟨-, hw⟩ := Option.filter_eq_some_iff.mp hv
    obtain ⟨g, hg, -, -, htyped⟩ := ServiceModel.mem_typedMembers_iff.mp hf
    have hnull : ((Copier.mk .inbound types).copied f.2 w).isNull = false :=
      isNull_copied (Copier.mk .inbound types) htyped (by simpa using hw)
    rw [Option.map_some, Option.filter_some, hnull]
    rfl

/-- The entries of a copied map are copied where they are. -/
theorem entriesOf_ofPairs_map (g : Value → Value) (entries : List (String × Value)) :
    Value.ofPairs ((entriesOf (some (.ofPairs entries))).map fun p => (p.1, g p.2)) =
      .ofPairs (entries.map fun p => (p.1, g p.2)) := by
  have hascending : Entries.Ascending ((Dict.ofList entries).entries.map fun p => (p.1, g p.2)) := by
    rw [Entries.Ascending, List.pairwise_map]
    exact (Dict.ofList entries).ascending
  show Value.ofPairs ((Dict.ofList entries).entries.map fun p => (p.1, g p.2)) = _
  rw [Value.ofPairs_of_ascending hascending, Value.ofPairs_eq, Dict.entries_ofList,
    ← Entries.insertAll_map]
  rfl

/-- **The copy of a copy is what the shape expresses of the value.** -/
theorem copied_copied {s : Shape} (hs : types.model.isTyped s = true)
    (hnames : ∀ t, ReflTransGen types.model.Contains s t → types.DistinctNames t) (v : Value) :
    (Copier.mk .outbound types).copied s ((Copier.mk .inbound types).copied s v) =
      types.model.normal s v := by
  obtain ⟨type, htype⟩ := ServiceModel.isTyped_iff.mp hs
  -- what is said of the shape holds of every shape that it contains
  have hpart {t : Shape} (ht : types.model.Contains s t) :
      types.model.isTyped t = true ∧
        ∀ u, ReflTransGen types.model.Contains t u → types.DistinctNames u :=
    ⟨ServiceModel.isTyped_of_contains ht hs, fun u hu => hnames u (hu.head ht)⟩
  cases hk : s.kind with
  | scalar type => rw [copied_scalar _ _ hk, copied_scalar _ _ hk, types.model.normal_scalar v hk]
  | «structure» members =>
    rw [copied_structure _ _ hk, types.model.normal_structure v hk]
    congr 1
    refine List.filterMap_congr fun f hf => ?_
    have hfound := presentField?_copied types hk (hnames s ReflTransGen.refl) hf v
    show (((Copier.mk .inbound types).copied s v).presentField?
      (types.namer.names f.1).camel).map _ = _
    rw [hfound]
    cases hv : v.presentField? f.1 with
    | none => rfl
    | some w =>
      obtain ⟨g, hg, -, ht, htyped⟩ := ServiceModel.mem_typedMembers_iff.mp hf
      have hmember : types.model.Contains s f.2 :=
        .member (ServiceModel.members_eq hk ▸ hg) ht htyped
      have ih := copied_copied (hpart hmember).1 (hpart hmember).2 w
      simp only [Option.map_some]
      rw [ih]
      rfl
  | list element =>
    obtain ⟨e, -, he, -⟩ := (ServiceModel.typeWithin_list_iff hk).mp htype
    have hpart := hpart (.part (.element hk he))
    rw [copied_list _ _ hk he, copied_list _ _ hk he, types.model.normal_list v hk he]
    show Value.arr ((List.map _ (itemsOf (some v))).map _) = _
    rw [List.map_map]
    congr 1
    refine List.map_congr_left fun w hw => ?_
    exact copied_copied hpart.1 hpart.2 w
  | map key value =>
    obtain ⟨-, e, -, -, -, he, -⟩ := (ServiceModel.typeWithin_map_iff hk).mp htype
    have hpart := hpart (.part (.value hk he))
    rw [copied_map _ _ hk he, copied_map _ _ hk he, types.model.normal_map v hk he,
      entriesOf_ofPairs_map, List.map_map]
    congr 1
    refine List.map_congr_left fun p hp => ?_
    show (p.1, _) = _
    rw [copied_copied hpart.1 hpart.2 p.2]
  | unsupported label =>
    rw [ServiceModel.shapeType, ServiceModel.typeWithin, hk] at htype
    cases htype
termination_by sizeOf v
decreasing_by
  · exact Value.sizeOf_presentField? hv
  · exact Value.sizeOf_of_mem_itemsOf hw
  · exact Value.sizeOf_of_mem_entriesOf hp

end Copier

/-! ## One program after the other -/

namespace Env

/-- Nothing is at the path, and nothing on the way to it stops a write. -/
structure Absent (e : Env) (a : Accessor) : Prop where
  writable : e.Writable a
  lookup : e.lookup a = none

theorem Absent.of_eqOutside {S : String → Prop} {e e' : Env} {a : Accessor} (h : e.Absent a)
    (heq : EqOutside S e e') (ha : ¬ S a.root) : e'.Absent a := by
  have hroot : e'.get? a.root = e.get? a.root := heq a.root ha
  refine ⟨fun k hk v hv => h.writable k hk v ?_, ?_⟩
  · rw [← lookup_of_root_eq (a := ⟨a.root, a.segments.take k⟩) hroot]
    exact hv
  · rw [lookup_of_root_eq hroot]
    exact h.lookup

end Env

namespace Synthesizer

variable {s : Synthesizer} {d : Direction} {path : List String} {shape : Shape}

/-- The program that copies a value of a shape with a type does what one write does. -/
theorem copyOf_agrees {dest source : Accessor} {t : Option Transfer}
    (htyped : s.model.isTyped shape = true) (hcopy : s.copyOf path dest source shape = .ok t)
    (hdest : ¬ Temporary.IsTemporary dest.root) (hsource : ¬ Temporary.IsTemporary source.root)
    (e : Env) :
    ((s.program d [] t.toList).execute e).AgreesWith Temporary.IsTemporary
      (e.storeAll ((e.present? source).map fun v =>
        (dest, (Copier.mk d s.types).copied shape v)).toList) := by
  rcases copyOf_cases hcopy with ⟨h, -⟩ | ⟨-, l, hl, rfl⟩
  · rw [htyped] at h
    cases h
  · have hrun := Copier.transfer_agrees ⟨d, s.types⟩ (S := Temporary.IsTemporary) (n := 0)
      (fun _ => Temporary.isTemporary_of_numberedFrom) (t := .copied dest source l) hdest hsource
      (EqOutside.refl _ e)
    have hupdate : Transfer.update? ⟨d, s.types⟩ e (.copied dest source l) =
        (e.present? source).map fun v => (dest, (Copier.mk d s.types).copied shape v) := by
      unfold Transfer.update?
      refine congrArg (Option.map · _) (funext fun v => ?_)
      exact congrArg (Prod.mk dest) (Copier.valueOf_eq_copied _ l hl v)
    rw [← hupdate, Option.toList_some, Program.execute, program_copied]
    exact hrun

/-- Copied to where nothing is, a value arrives if there is one. -/
theorem copyOf_arrives {dest source : Accessor} {t : Option Transfer}
    (htyped : s.model.isTyped shape = true) (hcopy : s.copyOf path dest source shape = .ok t)
    (hdest : ¬ Temporary.IsTemporary dest.root) (hsource : ¬ Temporary.IsTemporary source.root)
    {e : Env} (habsent : e.Absent dest) :
    ∃ e', (s.program d [] t.toList).execute e = .running e' ∧
      e'.lookup dest = (e.present? source).map ((Copier.mk d s.types).copied shape) ∧
      EqOutside (fun x => Temporary.IsTemporary x ∨ x = dest.root) e e' := by
  have hrun := copyOf_agrees (d := d) htyped hcopy hdest hsource e
  cases hv : e.present? source with
  | none =>
    rw [hv] at hrun
    obtain ⟨e', he', heq⟩ := hrun
    refine ⟨e', he', ?_, heq.mono fun _ => Or.inl⟩
    rw [heq.lookup hdest, habsent.lookup]
    rfl
  | some v =>
    obtain ⟨f, hf⟩ := (Env.exists_store_iff e dest
      ((Copier.mk d s.types).copied shape v)).mpr habsent.writable
    rw [hv, Option.map_some, Option.toList_some, Env.storeAll_cons, hf] at hrun
    obtain ⟨e', he', heq⟩ := hrun
    refine ⟨e', he', ?_, ?_⟩
    · rw [heq.lookup hdest, Env.lookup_store_self hf]
      rfl
    · have hfirst : EqOutside (fun x => Temporary.IsTemporary x ∨ x = dest.root) e f :=
        fun x hx => Env.get?_store_of_ne hf fun h => hx (Or.inr h)
      exact hfirst.trans (heq.mono fun _ => Or.inl)

/-- **Outbound undoes inbound.** Copied into a resource where nothing was, and from there into a
request where nothing was, a value that is there becomes what its shape expresses of it; without
one there is nothing in the request. -/
theorem outbound_undoes_inbound {root root' : String} {side : Side} {type : FieldType}
    (htype : s.types.fieldType side shape = .ok (some type))
    (hnames : ∀ t, ReflTransGen s.model.Contains shape t → s.types.DistinctNames t)
    {source resource request : Accessor} {inn out : Option Transfer}
    (hin : s.copyOf [root] resource source shape = .ok inn)
    (hout : s.copyOf [root'] request resource shape = .ok out)
    (hsource : ¬ Temporary.IsTemporary source.root)
    (hresource : ¬ Temporary.IsTemporary resource.root)
    (hrequest : ¬ Temporary.IsTemporary request.root) (hne : resource.root ≠ request.root)
    {e : Env} (habsent : e.Absent resource) (habsent' : e.Absent request) :
    ∃ e' e'', (s.program .inbound [] inn.toList).execute e = .running e' ∧
      (s.program .outbound [] out.toList).execute e' = .running e'' ∧
      e''.lookup request = (e.present? source).map (s.model.normal shape) := by
  have htyped : s.model.isTyped shape = true :=
    (Copier.isTyped_iff_fieldType s.types side shape).mpr ⟨type, htype⟩
  obtain ⟨e', hrun, hlookup, heq⟩ :=
    copyOf_arrives (d := .inbound) htyped hin hresource hsource habsent
  have hfree : ¬ (Temporary.IsTemporary request.root ∨ request.root = resource.root) := by
    rintro (h | h)
    · exact hrequest h
    · exact hne h.symm
  obtain ⟨e'', hrun', hlookup', -⟩ := copyOf_arrives (d := .outbound) htyped hout hrequest hresource
    (habsent'.of_eqOutside heq hfree)
  refine ⟨e', e'', hrun, hrun', ?_⟩
  -- what came into the resource is not null, so it goes out again
  have hpresent : e'.present? resource =
      (e.present? source).map ((Copier.mk .inbound s.types).copied shape) := by
    rw [Env.present?, hlookup]
    cases hv : e.present? source with
    | none => rfl
    | some v =>
      obtain ⟨-, hv⟩ := Option.filter_eq_some_iff.mp hv
      have hnull := Copier.isNull_copied ⟨.inbound, s.types⟩ htyped (v := v) (by simpa using hv)
      rw [Option.map_some, Option.filter_some, hnull]
      rfl
  rw [hlookup', hpresent, Option.map_map]
  congr 1
  funext v
  exact Copier.copied_copied s.types htyped hnames v

end Synthesizer

/-- A response with two rules; one has a member that its shape does not know, one is null. -/
def listedEnv : Env :=
  .ofList [("resp", .obj [("Rules", .obj
    [("a", .obj [("arn", .str "arn:a"), ("maxSize", .str "9"), ("names", .arr [.str "x"])]),
      ("b", .null)])])]

/-- The rules of a response reach a request through a resource. -/
theorem outbound_undoes_inbound_rules :
    ∃ inn out e' e'',
      ruleSynthesizer.copyOf ["Input"] ((Accessor.var "ko").field "Rules")
        ((Accessor.var "resp").field "Rules") rules = .ok inn ∧
      ruleSynthesizer.copyOf ["Input"] ((Accessor.var "res").field "rules")
        ((Accessor.var "ko").field "Rules") rules = .ok out ∧
      (ruleSynthesizer.program .inbound [] inn.toList).execute listedEnv = .running e' ∧
      (ruleSynthesizer.program .outbound [] out.toList).execute e' = .running e'' ∧
      e''.lookup ((Accessor.var "res").field "rules") = some (.obj
        [("a", .obj [("maxSize", .str "9"), ("names", .arr [.str "x"])]), ("b", .obj [])]) := by
  obtain ⟨inn, hinn⟩ : ∃ inn, ruleSynthesizer.copyOf ["Input"] ((Accessor.var "ko").field "Rules")
      ((Accessor.var "resp").field "Rules") rules = .ok inn := ⟨_, rfl⟩
  obtain ⟨out, hout⟩ : ∃ out, ruleSynthesizer.copyOf ["Input"] ((Accessor.var "res").field "rules")
      ((Accessor.var "ko").field "Rules") rules = .ok out := ⟨_, rfl⟩
  have hnames (t : Shape) (ht : ReflTransGen ruleModel.Contains rules t) :
      ruleSynthesizer.types.DistinctNames t := by
    have hall : ∀ t ∈ ruleModel.shapes.values, ruleSynthesizer.types.DistinctNames t := by
      simp only [TypeResolver.DistinctNames]
      decide
    exact hall t (ServiceModel.mem_values_of_contains ht (by decide))
  have hko : listedEnv.Absent ((Accessor.var "ko").field "Rules") :=
    ⟨Env.writable_field_iff.mpr (by decide), rfl⟩
  have hres : listedEnv.Absent ((Accessor.var "res").field "rules") :=
    ⟨Env.writable_field_iff.mpr (by decide), rfl⟩
  have hpresent : listedEnv.present? ((Accessor.var "resp").field "Rules") = some (.obj
      [("a", .obj [("arn", .str "arn:a"), ("maxSize", .str "9"), ("names", .arr [.str "x"])]),
        ("b", .null)]) := rfl
  obtain ⟨e', e'', hrun, hrun', hlookup⟩ := Synthesizer.outbound_undoes_inbound
    (show ruleSynthesizer.types.fieldType .resource rules =
      .ok (some (.map .string (.structure "Rule"))) from rfl) hnames hinn hout
    (Temporary.not_isTemporary_of_head (by decide)) (Temporary.not_isTemporary_of_head (by decide))
    (Temporary.not_isTemporary_of_head (by decide)) (by decide) hko hres
  refine ⟨inn, out, e', e'', hinn, hout, hrun, hrun', ?_⟩
  rw [hlookup, hpresent, Option.map_some, ServiceModel.normal, Copier.copied_of_layout _ rfl
    (show ruleModel.layout [] rules = .ok (some rulesLayout) from rfl)]
  rfl

end ResourceGen
