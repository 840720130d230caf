import ResourceGen.Proofs.Containment

/-!
# Recursion without a bound

`ServiceModel.shapeType` and `ServiceModel.layout` count their steps down from a bound. In a model
where no list or map contains itself the bound is never met: both satisfy the equation of the
recursion without it (`shapeType_eq`, `layout_eq`), and what they call themselves on gets smaller
(`wellFounded_typePart`, `wellFounded_calls`).

Types go down lists and maps, where the number of shapes that are still to come decreases
(`rank`). Layouts also go into structures, but every structure of the model that is entered leaves
less room for others; `steps` puts the one bound before the other.

Results:
* `rank_lt`, `steps_lt_of_calls`: the bounds decrease.
* `typeStep_congr`, `layoutStep_congr`: one level of the recursion looks at nothing but its calls.
* `shapeType_eq`, `layout_eq`: the recursion without a bound.
* `shapeType_eq_some_iff`: a type that some number of steps finds is found, in any model.
* `exists_shapeType`: where all references resolve, types are found or not, without an error.
-/

namespace ResourceGen

open Relation (TransGen)

open Classical in
/-- Along a step fewer values can still be reached, unless there is a way back. -/
theorem length_filter_transGen_lt {α : Type} {r : α → α → Prop} {l : List α} {a b : α}
    (hmem : b ∈ l) (h : r a b) (hcycle : ¬ TransGen r b b) :
    (l.filter fun c => TransGen r b c).length < (l.filter fun c => TransGen r a c).length := by
  have hfilter : l.filter (fun c => TransGen r b c) =
      (l.filter fun c => TransGen r a c).filter fun c => TransGen r b c := by
    rw [List.filter_filter]
    refine List.filter_congr fun c _ => ?_
    by_cases hc : TransGen r b c
    · simp [hc, hc.head h]
    · simp [hc]
  rw [hfilter]
  refine List.length_filter_lt_length_iff_exists.mpr ⟨b, ?_, ?_⟩
  · exact List.mem_filter.mpr ⟨hmem, by simpa using TransGen.single h⟩
  · simpa using hcycle

/-- The names of the shapes that a shape refers to. -/
def Shape.references (s : Shape) : List String :=
  match s.kind with
  | .structure members => members.map (·.target)
  | .list element => [element]
  | .map key value => [key, value]
  | .scalar _ | .unsupported _ => []

namespace ServiceModel

/-- Every reference of the model names a shape. -/
structure Resolves (m : ServiceModel) : Prop where
  shapes : ∀ s ∈ m.shapes.values, ∀ reference ∈ s.references, (m.shape? reference).isSome
  payloads : ∀ o ∈ m.operations.values, ∀ reference ∈ o.input.toList ++ o.output.toList,
    (m.shape? reference).isSome

/-- The parts of the type of a list or map: what it holds, and the keys of a map. -/
inductive TypePart (m : ServiceModel) : Shape → Shape → Prop where
  | held {s t : Shape} (h : m.Holds s t) : TypePart m s t
  | key {s t : Shape} {key value : String} (hkind : s.kind = .map key value)
      (ht : m.shape? key = some t) : TypePart m s t

/-- No list or map contains itself without a structure in between. -/
def PartsAcyclic (m : ServiceModel) : Prop := ∀ s ∈ m.shapes.values, ¬ TransGen m.TypePart s s

variable {m : ServiceModel} {s t : Shape}

theorem mem_values_of_typePart (h : m.TypePart s t) : t ∈ m.shapes.values := by
  cases h with
  | held h => exact mem_values_of_holds h
  | key _ ht => exact Dict.mem_values_of_get? ht

open Classical in
/-- The number of shapes of the model that are parts of a shape, parts of these and so on. -/
noncomputable def rank (m : ServiceModel) (s : Shape) : Nat :=
  (m.shapes.values.filter fun t => TransGen m.TypePart s t).length

theorem rank_le_size (s : Shape) : m.rank s ≤ m.shapes.size := by
  refine Nat.le_trans (List.length_filter_le _ _) ?_
  simp [Dict.values, Dict.size]

/-- **A part has fewer parts.** -/
theorem rank_lt (hacyclic : m.PartsAcyclic) (h : m.TypePart s t) : m.rank t < m.rank s :=
  have hmem := mem_values_of_typePart h
  length_filter_transGen_lt hmem h (hacyclic t hmem)

/-- **Going down the parts of types ends.** -/
theorem wellFounded_typePart (hacyclic : m.PartsAcyclic) :
    WellFounded fun t s => m.TypePart s t :=
  Subrelation.wf (fun h => rank_lt hacyclic h) (measure m.rank).wf

/-- A size that decreases along the references of lists and maps shows that none contains
itself. -/
theorem partsAcyclic_of_size (size : Shape → Nat)
    (h : ∀ s ∈ m.shapes.values, s.isStructure = false → ∀ reference ∈ s.references,
      (m.shape? reference).all fun t => size t < size s) : m.PartsAcyclic := by
  have hstep {s t : Shape} (hs : s ∈ m.shapes.values) (ht : m.TypePart s t) : size t < size s := by
    have hrefs := h s hs
    unfold Shape.isStructure Shape.references at hrefs
    cases ht with
    | held ht =>
      cases ht with
      | @element element hk ht =>
        rw [hk] at hrefs
        simpa [ht] using hrefs rfl element
      | @value key value hk ht =>
        rw [hk] at hrefs
        simpa [ht] using hrefs rfl value
    | @key key value hk ht =>
      rw [hk] at hrefs
      simpa [ht] using hrefs rfl key
  intro s hs hcycle
  have hlt {t : Shape} (ht : TransGen m.TypePart s t) : size t < size s := by
    induction ht with
    | single ht => exact hstep hs ht
    | tail hst ht ih =>
      obtain ⟨u, -, hu⟩ := TransGen.tail'_iff.mp hst
      exact Nat.lt_trans (hstep (mem_values_of_typePart hu) ht) ih
  exact Nat.lt_irrefl _ (hlt hcycle)

/-! ## Types -/

/-- One level of a type, from the types of its parts. -/
def typeStep (m : ServiceModel) (typeOf : Shape → Result (Option FieldType)) (s : Shape) :
    Result (Option FieldType) :=
  match s.kind with
  | .scalar t => .ok (some (.ofScalar t))
  | .structure _ => .ok (some (.structure s.name))
  | .list element => do
    let e ← m.resolve element (s.name ++ ".member")
    return (← typeOf e).map .list
  | .map key value => do
    let k ← m.resolve key (s.name ++ ".key")
    let v ← m.resolve value (s.name ++ ".value")
    match ← typeOf k, ← typeOf v with
    | some k, some v => return some (.map k v)
    | _, _ => return none
  | .unsupported _ => .ok none

theorem typeWithin_succ (d : Nat) (s : Shape) :
    m.typeWithin (d + 1) s = m.typeStep (m.typeWithin d) s := by
  rw [typeWithin]
  rfl

/-- One level of a type looks at nothing but the parts. -/
theorem typeStep_congr {f g : Shape → Result (Option FieldType)}
    (h : ∀ t, m.TypePart s t → f t = g t) : m.typeStep f s = m.typeStep g s := by
  unfold typeStep
  cases hk : s.kind with
  | list element =>
    refine Result.bind_congr_ok fun e he => ?_
    rw [h e (.held (.element hk (resolve_eq_ok_iff.mp he)))]
  | map key value =>
    refine Result.bind_congr_ok fun ks hks => Result.bind_congr_ok fun vs hvs => ?_
    rw [h ks (.key hk (resolve_eq_ok_iff.mp hks)),
      h vs (.held (.value hk (resolve_eq_ok_iff.mp hvs)))]
  | _ => rfl

theorem typeWithin_eq_of_rank_lt (hacyclic : m.PartsAcyclic) {d d' : Nat} (hd : m.rank s < d)
    (hd' : m.rank s < d') : m.typeWithin d s = m.typeWithin d' s := by
  induction d generalizing d' s with
  | zero => omega
  | succ d ih =>
    obtain ⟨d', rfl⟩ : ∃ k, d' = k + 1 := ⟨d' - 1, by omega⟩
    rw [typeWithin_succ, typeWithin_succ]
    refine typeStep_congr fun t ht => ?_
    have hlt := rank_lt hacyclic ht
    exact ih (by omega) (by omega)

/-- A part of a shape with a type has a type that is smaller. -/
theorem exists_typeWithin_of_typePart {d : Nat} {type : FieldType}
    (h : m.typeWithin d s = .ok (some type)) (ht : m.TypePart s t) :
    ∃ d' part, m.typeWithin d' t = .ok (some part) ∧ sizeOf part < sizeOf type := by
  obtain ⟨d, rfl⟩ : ∃ k, d = k + 1 := by
    cases d with
    | zero => cases h
    | succ k => exact ⟨k, rfl⟩
  cases ht with
  | held ht =>
    cases ht with
    | element hk ht =>
      obtain ⟨e, part, he, hpart, rfl⟩ := (typeWithin_list_iff hk).mp h
      cases ht.symm.trans he
      exact ⟨d, part, hpart, by simp⟩
    | value hk ht =>
      obtain ⟨ks, vs, k, v, -, hvs, -, hv, rfl⟩ := (typeWithin_map_iff hk).mp h
      cases ht.symm.trans hvs
      exact ⟨d, v, hv, by simp only [FieldType.map.sizeOf_spec]; omega⟩
  | key hk ht =>
    obtain ⟨ks, vs, k, v, hks, -, hk', -, rfl⟩ := (typeWithin_map_iff hk).mp h
    cases ht.symm.trans hks
    exact ⟨d, k, hk', by simp only [FieldType.map.sizeOf_spec]; omega⟩

/-- A shape with a type is no part of itself. -/
theorem not_transGen_typePart_self {d : Nat} {type : FieldType}
    (h : m.typeWithin d s = .ok (some type)) : ¬ TransGen m.TypePart s s := by
  have hsmaller {t : Shape} (ht : TransGen m.TypePart s t) :
      ∃ d' part, m.typeWithin d' t = .ok (some part) ∧ sizeOf part < sizeOf type := by
    induction ht with
    | single ht => exact exists_typeWithin_of_typePart h ht
    | tail _ ht ih =>
      obtain ⟨d', part, hpart, hlt⟩ := ih
      obtain ⟨d'', part', hpart', hlt'⟩ := exists_typeWithin_of_typePart hpart ht
      exact ⟨d'', part', hpart', Nat.lt_trans hlt' hlt⟩
  intro hcycle
  obtain ⟨d', part, hpart, hlt⟩ := hsmaller hcycle
  -- with enough steps both are the type of the shape
  have hleft := typeWithin_mono (Nat.le_max_left d d') h
  have hright := typeWithin_mono (Nat.le_max_right d d') hpart
  rw [hleft] at hright
  cases hright
  exact Nat.lt_irrefl _ hlt

/-- A type that is found at all is found within as many steps as a shape has parts. -/
theorem typeWithin_of_rank_lt {d k : Nat} {type : FieldType}
    (h : m.typeWithin d s = .ok (some type)) (hk : m.rank s < k) :
    m.typeWithin k s = .ok (some type) := by
  induction d generalizing s k type with
  | zero => cases h
  | succ d ih =>
    obtain ⟨k, rfl⟩ : ∃ j, k = j + 1 := ⟨k - 1, by omega⟩
    have hpart {t : Shape} {part : FieldType} (ht : m.TypePart s t)
        (hpart : m.typeWithin d t = .ok (some part)) : m.typeWithin k t = .ok (some part) := by
      have hlt : m.rank t < m.rank s := length_filter_transGen_lt (mem_values_of_typePart ht) ht
        (not_transGen_typePart_self hpart)
      exact ih hpart (by omega)
    cases hkind : s.kind with
    | list element =>
      obtain ⟨e, t, he, ht, rfl⟩ := (typeWithin_list_iff hkind).mp h
      exact (typeWithin_list_iff hkind).mpr
        ⟨e, t, he, hpart (.held (.element hkind he)) ht, rfl⟩
    | map key value =>
      obtain ⟨ks, vs, kt, vt, hks, hvs, hkt, hvt, rfl⟩ := (typeWithin_map_iff hkind).mp h
      exact (typeWithin_map_iff hkind).mpr ⟨ks, vs, kt, vt, hks, hvs,
        hpart (.key hkind hks) hkt, hpart (.held (.value hkind hvs)) hvt, rfl⟩
    | _ =>
      rw [typeWithin, hkind] at h ⊢
      exact h

/-- **A type that is found at all is found**, also where lists or maps contain themselves. -/
theorem shapeType_eq_some_iff {type : FieldType} :
    m.shapeType s = .ok (some type) ↔ ∃ d, m.typeWithin d s = .ok (some type) := by
  constructor
  · intro h
    exact ⟨_, h⟩
  · rintro ⟨d, h⟩
    have hrank := rank_le_size (m := m) s
    exact typeWithin_of_rank_lt h (by omega)

/-- **The recursion of types, without a bound.** -/
theorem shapeType_eq (hacyclic : m.PartsAcyclic) (s : Shape) :
    m.shapeType s = m.typeStep m.shapeType s := by
  have hrank := rank_le_size (m := m) s
  have hmore : m.shapeType s = m.typeWithin (m.shapes.size + 2 + 1) s :=
    typeWithin_eq_of_rank_lt hacyclic (by omega) (by omega)
  rw [hmore, typeWithin_succ]
  rfl

/-- Where references resolve, looking for a type comes to an answer. -/
theorem exists_shapeType (hresolves : m.Resolves) (hacyclic : m.PartsAcyclic)
    (hs : s ∈ m.shapes.values) : ∃ type, m.shapeType s = .ok type := by
  induction s using (wellFounded_typePart hacyclic).induction with
  | _ s ih =>
    have hrefs := hresolves.shapes s hs
    have hpart {t : Shape} (h : m.TypePart s t) : ∃ type, m.shapeType t = .ok type :=
      ih t h (mem_values_of_typePart h)
    rw [shapeType_eq hacyclic, typeStep]
    unfold Shape.references at hrefs
    cases hk : s.kind with
    | scalar type => exact ⟨_, rfl⟩
    | «structure» members => exact ⟨_, rfl⟩
    | unsupported label => exact ⟨_, rfl⟩
    | list element =>
      rw [hk] at hrefs
      obtain ⟨e, he⟩ := Option.isSome_iff_exists.mp (hrefs element (by simp))
      obtain ⟨type, htype⟩ := hpart (.held (.element hk he))
      exact ⟨_, Result.bind_eq_ok_iff.mpr ⟨e, resolve_eq_ok_iff.mpr he,
        Result.bind_eq_ok_iff.mpr ⟨type, htype, rfl⟩⟩⟩
    | map key value =>
      rw [hk] at hrefs
      obtain ⟨ks, hks⟩ := Option.isSome_iff_exists.mp (hrefs key (by simp))
      obtain ⟨vs, hvs⟩ := Option.isSome_iff_exists.mp (hrefs value (by simp))
      obtain ⟨k, hktype⟩ := hpart (.key hk hks)
      obtain ⟨v, hvtype⟩ := hpart (.held (.value hk hvs))
      refine ⟨k.bind fun k => v.map (.map k), Result.bind_eq_ok_iff.mpr ⟨ks,
        resolve_eq_ok_iff.mpr hks, Result.bind_eq_ok_iff.mpr ⟨vs, resolve_eq_ok_iff.mpr hvs,
          Result.bind_eq_ok_iff.mpr ⟨k, hktype, Result.bind_eq_ok_iff.mpr ⟨v, hvtype, ?_⟩⟩⟩⟩⟩
      cases k <;> cases v <;> rfl

/-! ## Layouts -/

/-- One level of a layout, from the layouts of what the shape contains. -/
def layoutStep (m : ServiceModel) (layoutOf : List String → Shape → Result (Option Layout))
    (path : List String) (s : Shape) : Result (Option Layout) := do
  match ← m.shapeType s with
  | none => return none
  | some type =>
    match s.kind, type with
    | .scalar t, _ => return some (.scalar t)
    | .structure members, _ =>
      let path ← enter path s.name
      let parts ← members.mapM fun f =>
        match m.shape? f.target with
        | none => pure none
        | some target => do return (← layoutOf path target).map fun l => (f.name, l)
      return some (.structure s.name (parts.filterMap id))
    | .list element, .list elementType => do
      let target ← m.resolve element (s.name ++ ".member")
      return (← layoutOf path target).map (.list elementType)
    | .map _ value, .map _ valueType => do
      let target ← m.resolve value (s.name ++ ".value")
      return (← layoutOf path target).map (.map valueType)
    | _, _ => return none

theorem layoutWithin_succ (d : Nat) (path : List String) (s : Shape) :
    m.layoutWithin (d + 1) path s = m.layoutStep (m.layoutWithin d) path s := by
  rw [layoutWithin]
  rfl

/-- What unfolding a shape inside the structures of a path calls itself on: the shapes of the
members of a structure that is entered, and what a list or map holds. -/
inductive Calls (m : ServiceModel) : List String × Shape → List String × Shape → Prop where
  | member {path : List String} {s t : Shape} {f : Member} (hnew : path.contains s.name = false)
      (hf : f ∈ s.members) (ht : m.shape? f.target = some t) :
      Calls m (path, s) (path ++ [s.name], t)
  | part {path : List String} {s t : Shape} (h : m.Holds s t) : Calls m (path, s) (path, t)

theorem mem_values_of_calls {a b : List String × Shape} (h : m.Calls a b) :
    b.2 ∈ m.shapes.values := by
  cases h with
  | member _ _ ht => exact Dict.mem_values_of_get? ht
  | part h => exact mem_values_of_holds h

/-- One level of a layout looks at nothing but its calls. -/
theorem layoutStep_congr {f g : List String → Shape → Result (Option Layout)} {path : List String}
    (h : ∀ c, m.Calls (path, s) c → f c.1 c.2 = g c.1 c.2) :
    m.layoutStep f path s = m.layoutStep g path s := by
  have hpart {t : Shape} (ht : m.Holds s t) : f path t = g path t := h (path, t) (.part ht)
  unfold layoutStep
  refine Result.bind_congr_ok fun o _ => ?_
  cases o with
  | none => rfl
  | some type =>
    cases hk : s.kind with
    | «structure» members =>
      refine Result.bind_congr_ok fun inner hinner => ?_
      have hnew : path.contains s.name = false ∧ inner = path ++ [s.name] := by
        unfold enter at hinner
        split at hinner
        · cases hinner
        · rename_i hnew
          cases hinner
          exact ⟨by simpa using hnew, rfl⟩
      obtain ⟨hnew, rfl⟩ := hnew
      congr 1
      refine Result.mapM_congr fun member hmember => ?_
      cases ht : m.shape? member.target with
      | none => rfl
      | some t => simp only [h (_, t) (.member hnew (members_eq hk ▸ hmember) ht)]
    | list element =>
      cases type with
      | list elementType =>
        refine Result.bind_congr_ok fun e he => ?_
        rw [hpart (.element hk (resolve_eq_ok_iff.mp he))]
      | _ => rfl
    | map key value =>
      cases type with
      | map keyType valueType =>
        refine Result.bind_congr_ok fun vs hvs => ?_
        rw [hpart (.value hk (resolve_eq_ok_iff.mp hvs))]
      | _ => rfl
    | _ => rfl

/-- A bound on the calls below one another: every structure of the model that can still be entered
takes as many steps as lists and maps can be inside one another. -/
noncomputable def steps (m : ServiceModel) (c : List String × Shape) : Nat :=
  m.room c.1 * (m.shapes.size + 3) + m.rank c.2

theorem steps_le (c : List String × Shape) :
    m.steps c ≤ m.shapes.size * (m.shapes.size + 3) + m.shapes.size :=
  Nat.add_le_add (Nat.mul_le_mul_right _ (room_le_size _)) (rank_le_size _)

/-- **A call has fewer steps to go.** -/
theorem steps_lt_of_calls (hacyclic : m.PartsAcyclic) {a b : List String × Shape}
    (ha : a.2 ∈ m.shapes.values) (h : m.Calls a b) : m.steps b < m.steps a := by
  unfold steps
  cases h with
  | @member path s t f hnew hf ht =>
    have hroom : (m.room (path ++ [s.name]) + 1) * (m.shapes.size + 3) ≤
        m.room path * (m.shapes.size + 3) := Nat.mul_le_mul_right _ (room_append_lt ha hnew)
    have hrank := rank_le_size (m := m) t
    rw [Nat.succ_mul] at hroom
    show m.room (path ++ [s.name]) * _ + m.rank t < m.room path * _ + m.rank s
    omega
  | part h => exact Nat.add_lt_add_left (rank_lt hacyclic (.held h)) _

/-- **Unfolding a shape ends.** -/
theorem wellFounded_calls (hacyclic : m.PartsAcyclic) : WellFounded fun b a => m.Calls a b := by
  have hmem (a : List String × Shape) (ha : a.2 ∈ m.shapes.values) :
      Acc (fun b a => m.Calls a b) a := by
    induction hn : m.steps a using Nat.strongRecOn generalizing a with
    | _ n ih =>
      subst hn
      exact Acc.intro a fun b hb =>
        ih _ (steps_lt_of_calls hacyclic ha hb) b (mem_values_of_calls hb) rfl
  -- a shape that is not of the model calls only shapes that are
  exact ⟨fun a => Acc.intro a fun b hb => hmem b (mem_values_of_calls hb)⟩

theorem layoutWithin_eq_of_steps_lt (hacyclic : m.PartsAcyclic) {d d' : Nat} {path : List String}
    (hs : s ∈ m.shapes.values) (hd : m.steps (path, s) < d) (hd' : m.steps (path, s) < d') :
    m.layoutWithin d path s = m.layoutWithin d' path s := by
  induction d generalizing d' path s with
  | zero => omega
  | succ d ih =>
    obtain ⟨d', rfl⟩ : ∃ k, d' = k + 1 := ⟨d' - 1, by omega⟩
    rw [layoutWithin_succ, layoutWithin_succ]
    refine layoutStep_congr fun ⟨path', t⟩ hc => ?_
    have hlt := steps_lt_of_calls hacyclic hs hc
    show m.layoutWithin d path' t = m.layoutWithin d' path' t
    exact ih (mem_values_of_calls hc) (by omega) (by omega)

/-- **The recursion of layouts, without a bound.** -/
theorem layout_eq (hacyclic : m.PartsAcyclic) (path : List String) (hs : s ∈ m.shapes.values) :
    m.layout path s = m.layoutStep m.layout path s := by
  have hsteps := steps_le (m := m) (path, s)
  have hbound : m.shapes.size * (m.shapes.size + 3) + m.shapes.size <
      (m.shapes.size + 3) * (m.shapes.size + 3) := by
    rw [Nat.add_mul m.shapes.size 3]
    omega
  have hmore : m.layout path s =
      m.layoutWithin ((m.shapes.size + 3) * (m.shapes.size + 3) + 1) path s :=
    layoutWithin_eq_of_steps_lt hacyclic hs (by omega) (by omega)
  rw [hmore, layoutWithin_succ]
  rfl

end ServiceModel

end ResourceGen
