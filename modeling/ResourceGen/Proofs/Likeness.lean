import ResourceGen.Proofs.Recursion
import ResourceGen.Proofs.Renaming
import ResourceGen.Schema

/-!
# Models that agree

Shapes are alike when they differ at most in being marked as an output. Two models agree beside a
name when the first refers to it nowhere and they have like shapes under every other name
(`ServiceModel.AgreesBeside`). The second model may then have more shapes, so the two go down
with different bounds, and a path may have names that the other does not have. Neither shows in
what comes out: a type that is found at all is found (`shapeType_eq_some_iff`), and a layout is
told from the shape alone (`eq_of_unfolds`).

Programs name types by the names of shapes, whatever is behind them (`Copier.renamedBy_withModel`).

Results:
* `eq_of_shapeType`, `eq_of_layout`: types and layouts of like shapes.
* `eq_of_fieldType`, `eq_of_memberTransfers`: field types and transfers of like shapes.
* `program_withModel`: the program of given transfers.
-/

namespace ResourceGen

/-- The second shape is the first, up to the mark of an output. -/
structure Shape.Like (s s' : Shape) : Prop where
  name : s'.name = s.name
  kind : s'.kind = s.kind

namespace Shape.Like

variable {s s' : Shape} (h : s.Like s')

include h

theorem members : s'.members = s.members := by
  unfold Shape.members
  rw [h.kind]

theorem isStructure : s'.isStructure = s.isStructure := by
  unfold Shape.isStructure
  rw [h.kind]

end Shape.Like

/-- A member leads to one of the references of its structure. -/
theorem Shape.target_ne {s : Shape} {name : String} (hs : name ∉ s.references) {f : Member}
    (hf : f ∈ s.members) : f.target ≠ name := by
  rintro rfl
  refine hs ?_
  unfold Shape.members at hf
  unfold Shape.references
  cases hk : s.kind with
  | «structure» members => rw [hk] at hf; exact List.mem_map_of_mem hf
  | _ => rw [hk] at hf; cases hf

namespace ServiceModel

open Layout (Unfolds UnfoldsMembers)

/-- The first model refers to a name nowhere, and under every other name the second has a like
shape, or none as the first. -/
structure AgreesBeside (name : String) (m m' : ServiceModel) : Prop where
  alike : ∀ reference, reference ≠ name →
    Option.Rel Shape.Like (m.shape? reference) (m'.shape? reference)
  unreferenced : ∀ s ∈ m.shapes.values, name ∉ s.references

namespace AgreesBeside

variable {name : String} {m m' : ServiceModel} (h : m.AgreesBeside name m')

include h

theorem exists_like {reference : String} (hne : reference ≠ name) {s : Shape}
    (hs : m.shape? reference = some s) : ∃ s', m'.shape? reference = some s' ∧ s.Like s' := by
  have hrel := h.alike reference hne
  rw [hs] at hrel
  cases hs' : m'.shape? reference with
  | none => rw [hs'] at hrel; cases hrel
  | some s' =>
    rw [hs'] at hrel
    cases hrel with
    | some hlike => exact ⟨s', rfl, hlike⟩

/-- Where both models have a shape under a name that the first refers to, the two are alike. -/
theorem like {reference : String} (hne : reference ≠ name) {s s' : Shape}
    (hs : m.shape? reference = some s) (hs' : m'.shape? reference = some s') : s.Like s' := by
  obtain ⟨t, ht, hlike⟩ := h.exists_like hne hs
  rw [ht] at hs'
  cases hs'
  exact hlike

/-- A step that treats like shapes alike gives the same behind a reference. -/
theorem bind_resolve_congr {α : Type} {reference context : String} (hne : reference ≠ name)
    {f f' : Shape → Result α}
    (hf : ∀ s s', m.shape? reference = some s → s.Like s' → f' s' = f s) :
    (m'.resolve reference context >>= f') = (m.resolve reference context >>= f) := by
  have hrel := h.alike reference hne
  unfold resolve
  cases hs : m.shape? reference with
  | none =>
    rw [hs] at hrel
    cases hs' : m'.shape? reference with
    | none => rfl
    | some s' => rw [hs'] at hrel; cases hrel
  | some s =>
    obtain ⟨s', hs', hlike⟩ := h.exists_like hne hs
    rw [hs']
    exact hf s s' hs hlike

variable {s s' : Shape} (hs : name ∉ s.references) (hlike : s.Like s')

include hs hlike

/-! ## Types -/

/-- Like shapes have like types, as far as one looks. -/
theorem typeWithin_eq (d : Nat) : m'.typeWithin d s' = m.typeWithin d s := by
  induction d generalizing s s' with
  | zero => rfl
  | succ d ih =>
    have hpart {reference : String} {t t' : Shape} (ht : m.shape? reference = some t)
        (htt' : t.Like t') : m'.typeWithin d t' = m.typeWithin d t :=
      ih (h.unreferenced t (Dict.mem_values_of_get? ht)) htt'
    rw [typeWithin_succ, typeWithin_succ]
    unfold typeStep
    unfold Shape.references at hs
    rw [hlike.kind, hlike.name]
    cases hk : s.kind with
    | list element =>
      rw [hk] at hs
      refine h.bind_resolve_congr (fun heq => hs (by simp [heq])) fun e e' he hee' => ?_
      rw [hpart he hee']
    | map key value =>
      rw [hk] at hs
      refine h.bind_resolve_congr (fun heq => hs (by simp [heq])) fun k k' hk hkk' => ?_
      refine h.bind_resolve_congr (fun heq => hs (by simp [heq])) fun v v' hv hvv' => ?_
      rw [hpart hk hkk', hpart hv hvv']
    | _ => rfl

theorem shapeType_iff {type : FieldType} :
    m'.shapeType s' = .ok (some type) ↔ m.shapeType s = .ok (some type) := by
  simp only [shapeType_eq_some_iff, h.typeWithin_eq hs hlike]

/-- **Like shapes have the same type**, where looking for it comes to an answer. -/
theorem eq_of_shapeType {t t' : Option FieldType} (ht : m.shapeType s = .ok t)
    (ht' : m'.shapeType s' = .ok t') : t' = t := by
  cases t with
  | some type =>
    rw [(h.shapeType_iff hs hlike).mpr ht] at ht'
    cases ht'
    rfl
  | none =>
    cases t' with
    | none => rfl
    | some type =>
      rw [(h.shapeType_iff hs hlike).mp ht'] at ht
      cases ht

theorem isTyped_eq : m'.isTyped s' = m.isTyped s := by
  rw [Bool.eq_iff_iff, isTyped_iff, isTyped_iff]
  exact exists_congr fun _ => h.shapeType_iff hs hlike

end AgreesBeside

/-! ## Layouts -/

variable {m : ServiceModel} {l : Layout} {s : Shape}

theorem eq_scalar_of_unfolds (h : Unfolds m l s) {t : ScalarType} (hk : s.kind = .scalar t) :
    l = .scalar t := by
  cases l with
  | scalar t' => cases hk.symm.trans h; rfl
  | «structure» name parts => obtain ⟨-, members, hk', -⟩ := h; rw [hk] at hk'; cases hk'
  | list type l => obtain ⟨element, e, hk', -⟩ := h; rw [hk] at hk'; cases hk'
  | map type l => obtain ⟨key, value, v, hk', -⟩ := h; rw [hk] at hk'; cases hk'

theorem eq_structure_of_unfolds (h : Unfolds m l s) {members : List Member}
    (hk : s.kind = .structure members) :
    ∃ parts, l = .structure s.name parts ∧ UnfoldsMembers m parts (m.typedMembers members) := by
  cases l with
  | scalar t => cases hk.symm.trans h
  | «structure» name parts =>
    obtain ⟨rfl, members', hk', hparts⟩ := h
    cases hk.symm.trans hk'
    exact ⟨parts, rfl, hparts⟩
  | list type l => obtain ⟨element, e, hk', -⟩ := h; rw [hk] at hk'; cases hk'
  | map type l => obtain ⟨key, value, v, hk', -⟩ := h; rw [hk] at hk'; cases hk'

theorem eq_list_of_unfolds (h : Unfolds m l s) {element : String} (hk : s.kind = .list element) :
    ∃ type l' e, l = .list type l' ∧ m.shape? element = some e ∧
      m.shapeType e = .ok (some type) ∧ Unfolds m l' e := by
  cases l with
  | scalar t => cases hk.symm.trans h
  | «structure» name parts => obtain ⟨-, members, hk', -⟩ := h; rw [hk] at hk'; cases hk'
  | list type l =>
    obtain ⟨element', e, hk', he, htype, hl⟩ := h
    cases hk.symm.trans hk'
    exact ⟨type, l, e, rfl, he, htype, hl⟩
  | map type l => obtain ⟨key, value, v, hk', -⟩ := h; rw [hk] at hk'; cases hk'

theorem eq_map_of_unfolds (h : Unfolds m l s) {key value : String}
    (hk : s.kind = .map key value) :
    ∃ type l' v, l = .map type l' ∧ m.shape? value = some v ∧
      m.shapeType v = .ok (some type) ∧ Unfolds m l' v := by
  cases l with
  | scalar t => cases hk.symm.trans h
  | «structure» name parts => obtain ⟨-, members, hk', -⟩ := h; rw [hk] at hk'; cases hk'
  | list type l => obtain ⟨element, e, hk', -⟩ := h; rw [hk] at hk'; cases hk'
  | map type l =>
    obtain ⟨key', value', v, hk', hv, htype, hl⟩ := h
    cases hk.symm.trans hk'
    exact ⟨type, l, v, rfl, hv, htype, hl⟩

namespace AgreesBeside

variable {name : String} {m' : ServiceModel}

/-- The members that can be copied are those with like shapes. -/
theorem forall₂_typedMembers (h : m.AgreesBeside name m') {members : List Member}
    (hmembers : ∀ f ∈ members, f.target ≠ name) :
    List.Forall₂ (fun p p' => p'.1 = p.1 ∧ p.2.Like p'.2 ∧ name ∉ p.2.references)
      (m.typedMembers members) (m'.typedMembers members) := by
  induction members with
  | nil => exact .nil
  | cons f members ih =>
    have hrest := ih fun g hg => hmembers g (List.mem_cons_of_mem f hg)
    have hrel := h.alike f.target (hmembers f List.mem_cons_self)
    unfold typedMembers typedMember? at hrest ⊢
    rw [List.filterMap_cons, List.filterMap_cons]
    cases hs : m.shape? f.target with
    | none =>
      rw [hs] at hrel
      cases hs' : m'.shape? f.target with
      | none => exact hrest
      | some s' => rw [hs'] at hrel; cases hrel
    | some s =>
      obtain ⟨s', hs', hlike⟩ := h.exists_like (hmembers f List.mem_cons_self) hs
      have hrefs := h.unreferenced s (Dict.mem_values_of_get? hs)
      rw [hs', Option.filter_some, Option.filter_some, h.isTyped_eq hrefs hlike]
      cases m.isTyped s with
      | false => exact hrest
      | true => exact .cons ⟨rfl, hlike, hrefs⟩ hrest

mutual

/-- **A layout is told from the shape.** -/
theorem eq_of_unfolds (h : m.AgreesBeside name m') : ∀ (l : Layout) {l' : Layout}
    {s s' : Shape}, name ∉ s.references → s.Like s' → Unfolds m l s → Unfolds m' l' s' → l' = l
  | .scalar t, l', s, s', _, hlike, hl, hl' => eq_scalar_of_unfolds hl' (hlike.kind.trans hl)
  | .structure shape parts, l', s, s', hs, hlike, hl, hl' => by
    obtain ⟨rfl, members, hk, hparts⟩ := hl
    obtain ⟨parts', rfl, hparts'⟩ := eq_structure_of_unfolds hl' (hlike.kind.trans hk)
    have hmembers : ∀ f ∈ members, f.target ≠ name := fun f hf =>
      Shape.target_ne hs (members_eq hk ▸ hf)
    rw [hlike.name, h.eq_of_unfoldsMembers parts (h.forall₂_typedMembers hmembers) hparts hparts']
  | .list type l, l', s, s', hs, hlike, hl, hl' => by
    obtain ⟨element, e, hk, he, htype, hl⟩ := hl
    obtain ⟨type', l', e', rfl, he', htype', hl'⟩ :=
      eq_list_of_unfolds hl' (hlike.kind.trans hk)
    have hne : element ≠ name := by
      rintro rfl
      unfold Shape.references at hs
      rw [hk] at hs
      exact hs List.mem_cons_self
    have hee' := h.like hne he he'
    have hrefs := h.unreferenced e (Dict.mem_values_of_get? he)
    rw [Option.some.inj (h.eq_of_shapeType hrefs hee' htype htype'),
      h.eq_of_unfolds l hrefs hee' hl hl']
  | .map type l, l', s, s', hs, hlike, hl, hl' => by
    obtain ⟨key, value, v, hk, hv, htype, hl⟩ := hl
    obtain ⟨type', l', v', rfl, hv', htype', hl'⟩ := eq_map_of_unfolds hl' (hlike.kind.trans hk)
    have hne : value ≠ name := by
      rintro rfl
      unfold Shape.references at hs
      rw [hk] at hs
      exact hs (List.mem_cons_of_mem key List.mem_cons_self)
    have hvv' := h.like hne hv hv'
    have hrefs := h.unreferenced v (Dict.mem_values_of_get? hv)
    rw [Option.some.inj (h.eq_of_shapeType hrefs hvv' htype htype'),
      h.eq_of_unfolds l hrefs hvv' hl hl']

theorem eq_of_unfoldsMembers (h : m.AgreesBeside name m') : ∀ (parts : List (String × Layout))
    {parts' : List (String × Layout)} {fs fs' : List (String × Shape)},
    List.Forall₂ (fun p p' => p'.1 = p.1 ∧ p.2.Like p'.2 ∧ name ∉ p.2.references) fs fs' →
    UnfoldsMembers m parts fs → UnfoldsMembers m' parts' fs' → parts' = parts
  | [], parts', _, _, hfs, hparts, hparts' => by
    cases hfs with
    | nil =>
      cases parts' with
      | nil => rfl
      | cons part' rest' => cases hparts'
    | cons => cases hparts
  | (wire, l) :: parts, parts', _, _, hfs, hparts, hparts' => by
    cases hfs with
    | nil => cases hparts
    | cons hf hfs =>
      obtain ⟨hname, hlike, hrefs⟩ := hf
      obtain ⟨rfl, hl, hparts⟩ := hparts
      cases parts' with
      | nil => cases hparts'
      | cons part' parts' =>
        obtain ⟨hwire', hl', hparts'⟩ := hparts'
        have hpart : part'.2 = l := h.eq_of_unfolds l hrefs hlike hl hl'
        rw [h.eq_of_unfoldsMembers parts hfs hparts hparts', ← hpart, ← hname, ← hwire']

end

/-- **Like shapes have the same layout**, wherever they stand. -/
theorem eq_of_layout (h : m.AgreesBeside name m') {s s' : Shape} (hs : name ∉ s.references)
    (hlike : s.Like s') {path path' : List String} {l l' : Option Layout}
    (hl : m.layout path s = .ok l) (hl' : m'.layout path' s' = .ok l') : l' = l := by
  have htyped := h.isTyped_eq hs hlike
  cases ht : m.isTyped s with
  | false => rw [layout_eq_none hl ht, layout_eq_none hl' (htyped.trans ht)]
  | true =>
    obtain ⟨l, rfl, hunfolds⟩ := unfolds_of_layout ht hl
    obtain ⟨l', rfl, hunfolds'⟩ := unfolds_of_layout (htyped.trans ht) hl'
    rw [h.eq_of_unfolds l hs hlike hunfolds hunfolds']

/-- Like shapes with the same mark are alike without their wrappers. -/
theorem like_of_unwrap (h : m.AgreesBeside name m') {s s' : Shape} (hs : name ∉ s.references)
    (hlike : s.Like s') (hmark : s'.usedAsOutput = s.usedAsOutput) {u u' : Unwrapped}
    (hu : m.unwrap s = .ok u) (hu' : m'.unwrap s' = .ok u') :
    u.shape.Like u'.shape ∧ name ∉ u.shape.references := by
  unfold unwrap at hu hu'
  rw [hlike.members] at hu'
  split at hu
  · rename_i f hmembers
    simp only [hmembers, hmark] at hu'
    split at hu
    · rename_i hmarked
      rw [if_pos hmarked] at hu'
      obtain ⟨inner, hinner, hu⟩ := Result.bind_eq_ok_iff.mp hu
      obtain ⟨inner', hinner', hu'⟩ := Result.bind_eq_ok_iff.mp hu'
      have hinner := resolve_eq_ok_iff.mp hinner
      have hne : f.target ≠ name := Shape.target_ne hs (hmembers ▸ List.mem_cons_self)
      have hinners := h.like hne hinner (resolve_eq_ok_iff.mp hinner')
      obtain rfl := Result.pure_eq_ok_iff.mp hu
      obtain rfl := Result.pure_eq_ok_iff.mp hu'
      rw [hinners.isStructure]
      split
      · exact ⟨hinners, h.unreferenced inner (Dict.mem_values_of_get? hinner)⟩
      · exact ⟨hlike, hs⟩
    · rename_i hmarked
      rw [if_neg hmarked] at hu'
      cases hu
      cases hu'
      exact ⟨hlike, hs⟩
  · rename_i hmembers
    split at hu'
    · rename_i f hf
      exact absurd hf (hmembers f)
    · cases hu
      cases hu'
      exact ⟨hlike, hs⟩

end AgreesBeside

end ServiceModel

/-! ## The same names for another service -/

/-- The resolver with its names, for another service. -/
def TypeResolver.withModel (types : TypeResolver) (m : ServiceModel) : TypeResolver :=
  { types with model := m }

/-- The resource with other operations. -/
def Resource.withOperations (r : Resource) (x : ResourceOperations) : Resource :=
  { r with operations := x }

namespace Resource

variable (r : Resource) (x : ResourceOperations)

@[simp]
theorem name_withOperations : (r.withOperations x).name = r.name := rfl

@[simp]
theorem spec_withOperations : (r.withOperations x).spec = r.spec := rfl

@[simp]
theorem isArnMember_withOperations (member : String) :
    (r.withOperations x).isArnMember member = r.isArnMember member := rfl

end Resource

/-- The copier with its names, for another service. -/
def Copier.withModel (c : Copier) (m : ServiceModel) : Copier :=
  { c with types := c.types.withModel m }

/-- The synthesizer with its names and its configuration, for another service. -/
def Synthesizer.withModel (s : Synthesizer) (m : ServiceModel) : Synthesizer :=
  { s with types := s.types.withModel m }

namespace Copier

variable (c : Copier) (m : ServiceModel)

/-- Copying names types and members without a look at the service. -/
theorem renamedBy_withModel : RenamedBy id c (c.withModel m) := ⟨rfl, rfl, fun _ => rfl⟩

theorem transfers_withModel (ts : List Transfer) (n : Nat) :
    (c.withModel m).transfers ts n = c.transfers ts n := by
  rw [(c.renamedBy_withModel m).transfers, Statement.renamedOf_id]

end Copier

namespace Synthesizer

variable (s : Synthesizer) {m : ServiceModel} {name : String}

/-- **The program of given transfers** does not depend on the service. -/
theorem program_withModel (m : ServiceModel) (d : Direction) (first : List Statement)
    (ts : List Transfer) : (s.withModel m).program d first ts = s.program d first ts :=
  congrArg (fun rest => (⟨d, first ++ rest⟩ : Program))
    (Copier.transfers_withModel ⟨d, s.types⟩ m ts 0)

@[simp]
theorem model_withModel (m : ServiceModel) : (s.withModel m).model = m := rfl

@[simp]
theorem config_withModel (m : ServiceModel) : (s.withModel m).config = s.config := rfl

@[simp]
theorem outputDest?_withOperations (r : Resource) (x : ResourceOperations)
    (target : InboundTarget) (key : String) :
    outputDest? (r.withOperations x) target key = outputDest? r target key := rfl

variable {s} (h : s.model.AgreesBeside name m)

include h

/-- A copy is the same for like shapes, on any path. -/
theorem eq_of_copyOf {path path' : List String} {dest source : Accessor} {shape shape' : Shape}
    (hs : name ∉ shape.references) (hlike : shape.Like shape') {t t' : Option Transfer}
    (ht : s.copyOf path dest source shape = .ok t)
    (ht' : (s.withModel m).copyOf path' dest source shape' = .ok t') : t' = t := by
  obtain ⟨l, hl, ht⟩ := Result.bind_eq_ok_iff.mp ht
  obtain ⟨l', hl', ht'⟩ := Result.bind_eq_ok_iff.mp ht'
  cases h.eq_of_layout hs hlike hl hl'
  cases ht
  cases ht'
  rfl

/-- The transfer of an output member is the same, on any path. -/
theorem eq_of_memberTransfer {r : Resource} {o o' : Operation} {path path' : List String}
    {source : Accessor} {target : InboundTarget} {f : Member} (hne : f.target ≠ name)
    (x : ResourceOperations) (ho : o'.name = o.name) {t t' : Option Transfer}
    (ht : s.memberTransfer r o path source target f = .ok t)
    (ht' : (s.withModel m).memberTransfer (r.withOperations x) o' path' source target f =
      .ok t') : t' = t := by
  have hrel := h.alike f.target hne
  unfold memberTransfer at ht ht'
  simp only [model_withModel, config_withModel, outputDest?_withOperations,
    Resource.name_withOperations, Resource.spec_withOperations,
    Resource.isArnMember_withOperations, ho] at ht'
  cases hs : s.model.shape? f.target with
  | none =>
    rw [hs] at hrel ht
    cases hs' : m.shape? f.target with
    | none =>
      rw [hs'] at ht'
      exact Except.ok.inj (ht'.symm.trans ht)
    | some shape' => rw [hs'] at hrel; cases hrel
  | some shape =>
    obtain ⟨shape', hs', hlike⟩ := h.exists_like hne hs
    simp only [hs] at ht
    simp only [hs'] at ht'
    split at ht
    · rename_i hmap
      rw [if_pos hmap] at ht'
      exact Except.ok.inj (ht'.symm.trans ht)
    · rename_i hmap
      rw [if_neg hmap] at ht'
      cases hdest : outputDest? r target (s.config.outputName r.name o.name f.name) with
      | some dest =>
        rw [hdest] at ht ht'
        exact eq_of_copyOf h (h.unreferenced shape (Dict.mem_values_of_get? hs)) hlike ht ht'
      | none =>
        rw [hdest] at ht ht'
        exact Except.ok.inj (ht'.symm.trans ht)

/-- **Like shapes give the same transfers**, wherever they stand. -/
theorem eq_of_memberTransfers {r : Resource} {o o' : Operation} {path path' : List String}
    {source : Accessor} {target : InboundTarget} {shape shape' : Shape}
    (hs : name ∉ shape.references) (hlike : shape.Like shape') (x : ResourceOperations)
    (ho : o'.name = o.name) {ts ts' : List Transfer}
    (hts : s.memberTransfers r o path source target shape = .ok ts)
    (hts' : (s.withModel m).memberTransfers (r.withOperations x) o' path' source target shape' =
      .ok ts') : ts' = ts := by
  unfold memberTransfers at hts hts'
  obtain ⟨os, hos, hts⟩ := Result.bind_eq_ok_iff.mp hts
  obtain ⟨os', hos', hts'⟩ := Result.bind_eq_ok_iff.mp hts'
  rw [hlike.members] at hos'
  have heq : os' = os := Result.eq_of_mapM hos hos' fun f hf t t' ht ht' =>
    eq_of_memberTransfer h (Shape.target_ne hs hf) x ho ht ht'
  cases heq
  cases hts
  cases hts'
  rfl

end Synthesizer

end ResourceGen
