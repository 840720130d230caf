import ResourceGen.Layout
import ResourceGen.Proofs.Dictionary
import ResourceGen.Proofs.Result

/-!
# What a layout unfolds

`ServiceModel.layout` stops after a number of steps that depends on the size of the model. Here it
is shown never to stop early: a layout that it gives is the whole shape (`Layout.Unfolds`), with
every structure member whose shape is defined and has a type.

Two bounds carry the argument. A type that is found at all is found within as many steps as there
are shapes (`shapeType_of_typeWithin`), so between two structures there are at most that many
lists and maps. And every structure that is entered leaves fewer shapes whose names are not on
the path (`room_append_lt`), which bounds the structures inside one another.

Results:
* `typeWithin_mono`: a type does not change when more steps are allowed.
* `unfolds_of_layoutWithin`: enough steps give a shape with a type its whole layout.
* `unfolds_of_layout`: `layout` has enough steps.
-/

namespace ResourceGen

namespace ServiceModel

variable (m : ServiceModel)

/-! ## Types -/

/-- Whether a shape has a field type. -/
def isTyped (s : Shape) : Bool :=
  match m.shapeType s with
  | .ok (some _) => true
  | _ => false

/-- A member with its shape, if that is defined and has a field type. -/
def typedMember? (f : Member) : Option (String × Shape) :=
  ((m.shape? f.target).filter m.isTyped).map fun s => (f.name, s)

/-- The members that can be copied, by name with their shapes. -/
def typedMembers (members : List Member) : List (String × Shape) :=
  members.filterMap m.typedMember?

variable {m}

theorem isTyped_iff {s : Shape} : m.isTyped s = true ↔ ∃ t, m.shapeType s = .ok (some t) := by
  unfold isTyped
  split
  · rename_i t h
    simp [h]
  · rename_i h
    simp only [Bool.false_eq_true, false_iff, not_exists]
    exact h

theorem typedMember?_eq_some_iff {f : Member} {p : String × Shape} :
    m.typedMember? f = some p ↔
      p.1 = f.name ∧ m.shape? f.target = some p.2 ∧ m.isTyped p.2 = true := by
  obtain ⟨name, s⟩ := p
  unfold typedMember?
  rw [Option.map_eq_some_iff]
  constructor
  · rintro ⟨t, ht, heq⟩
    obtain ⟨hs, ht⟩ := Option.filter_eq_some_iff.mp ht
    cases heq
    exact ⟨rfl, hs, ht⟩
  · rintro ⟨rfl, hs, ht⟩
    exact ⟨s, Option.filter_eq_some_iff.mpr ⟨hs, ht⟩, rfl⟩

theorem resolve_eq_ok_iff {reference context : String} {s : Shape} :
    m.resolve reference context = .ok s ↔ m.shape? reference = some s := by
  unfold resolve
  cases m.shape? reference <;> simp

/-- The type of a list within a number of steps. -/
theorem typeWithin_list_iff {s : Shape} {element : String} (h : s.kind = .list element) {d : Nat}
    {type : FieldType} :
    m.typeWithin (d + 1) s = .ok (some type) ↔
      ∃ e t, m.shape? element = some e ∧ m.typeWithin d e = .ok (some t) ∧ type = .list t := by
  rw [typeWithin, h]
  simp only [Result.bind_eq_ok_iff, resolve_eq_ok_iff, Result.pure_eq_ok_iff]
  constructor
  · rintro ⟨e, he, o, ho, hmap⟩
    obtain ⟨t, rfl, rfl⟩ := Option.map_eq_some_iff.mp hmap
    exact ⟨e, t, he, ho, rfl⟩
  · rintro ⟨e, t, he, ht, rfl⟩
    exact ⟨e, he, some t, ht, rfl⟩

/-- The type of a map within a number of steps. -/
theorem typeWithin_map_iff {s : Shape} {key value : String} (h : s.kind = .map key value) {d : Nat}
    {type : FieldType} :
    m.typeWithin (d + 1) s = .ok (some type) ↔
      ∃ ks vs k v, m.shape? key = some ks ∧ m.shape? value = some vs ∧
        m.typeWithin d ks = .ok (some k) ∧ m.typeWithin d vs = .ok (some v) ∧
        type = .map k v := by
  rw [typeWithin, h]
  simp only [Result.bind_eq_ok_iff, resolve_eq_ok_iff]
  constructor
  · rintro ⟨ks, hks, vs, hvs, k, hk, v, hv, hkv⟩
    cases k with
    | none => cases hkv
    | some k =>
      cases v with
      | none => cases hkv
      | some v => cases hkv; exact ⟨ks, vs, k, v, hks, hvs, hk, hv, rfl⟩
  · rintro ⟨ks, vs, k, v, hks, hvs, hk, hv, rfl⟩
    exact ⟨ks, hks, vs, hvs, some k, hk, some v, hv, rfl⟩

/-- **More steps leave a type as it is.** -/
theorem typeWithin_mono {d d' : Nat} (hd : d ≤ d') {s : Shape} {type : FieldType}
    (h : m.typeWithin d s = .ok (some type)) : m.typeWithin d' s = .ok (some type) := by
  induction d generalizing d' s type with
  | zero => cases h
  | succ d ih =>
    obtain ⟨d', rfl⟩ : ∃ k, d' = k + 1 := ⟨d' - 1, by omega⟩
    cases hk : s.kind with
    | list element =>
      obtain ⟨e, t, he, ht, rfl⟩ := (typeWithin_list_iff hk).mp h
      exact (typeWithin_list_iff hk).mpr ⟨e, t, he, ih (by omega) ht, rfl⟩
    | map key value =>
      obtain ⟨ks, vs, k, v, hks, hvs, hkt, hvt, rfl⟩ := (typeWithin_map_iff hk).mp h
      exact (typeWithin_map_iff hk).mpr
        ⟨ks, vs, k, v, hks, hvs, ih (by omega) hkt, ih (by omega) hvt, rfl⟩
    | _ =>
      rw [typeWithin, hk] at h ⊢
      exact h

theorem shapeType_of_typeWithin {d : Nat} (hd : d ≤ m.shapes.size + 2) {s : Shape}
    {type : FieldType} (h : m.typeWithin d s = .ok (some type)) :
    m.shapeType s = .ok (some type) :=
  typeWithin_mono hd h

end ServiceModel

/-! ## Whole layouts -/

namespace Layout

variable (m : ServiceModel)

mutual

/-- The layout is the whole of a shape. -/
def Unfolds : Layout → Shape → Prop
  | .scalar t, s => s.kind = .scalar t
  | .structure name parts, s =>
    name = s.name ∧ ∃ members, s.kind = .structure members ∧
      UnfoldsMembers parts (m.typedMembers members)
  | .list type l, s =>
    ∃ element e, s.kind = .list element ∧ m.shape? element = some e ∧
      m.shapeType e = .ok (some type) ∧ Unfolds l e
  | .map type l, s =>
    ∃ key value v, s.kind = .map key value ∧ m.shape? value = some v ∧
      m.shapeType v = .ok (some type) ∧ Unfolds l v

/-- The layouts are the wholes of the shapes of given members, one by one. -/
def UnfoldsMembers : List (String × Layout) → List (String × Shape) → Prop
  | [], [] => True
  | (wire, l) :: parts, f :: rest => wire = f.1 ∧ Unfolds l f.2 ∧ UnfoldsMembers parts rest
  | _, _ => False

end

end Layout

namespace ServiceModel

open Layout (Unfolds UnfoldsMembers)

variable {m : ServiceModel}

/-- The number of shapes whose name is not on the path. -/
def room (m : ServiceModel) (path : List String) : Nat :=
  (m.shapes.values.filter fun s => !path.contains s.name).length

theorem room_le_size (path : List String) : m.room path ≤ m.shapes.size := by
  have := List.length_filter_le (fun s : Shape => !path.contains s.name) m.shapes.values
  simpa [room, Dict.values, Dict.size] using this

theorem room_append (path : List String) (name : String) :
    m.room (path ++ [name]) =
      ((m.shapes.values.filter fun s => !path.contains s.name).filter fun s =>
        s.name != name).length := by
  rw [room, List.filter_filter]
  congr 2
  funext s
  simp only [List.contains_append, List.contains_cons, List.contains_nil, Bool.or_false,
    Bool.not_or, Bool.and_comm]
  rfl

theorem room_append_le (path : List String) (name : String) :
    m.room (path ++ [name]) ≤ m.room path := by
  rw [room_append]
  exact List.length_filter_le _ _

/-- Entering a structure of the model takes room. -/
theorem room_append_lt {path : List String} {s : Shape} (hs : s ∈ m.shapes.values)
    (hp : path.contains s.name = false) : m.room (path ++ [s.name]) < m.room path := by
  rw [room_append]
  refine List.length_filter_lt_length_iff_exists.mpr ⟨s, ?_, by simp⟩
  rw [List.mem_filter]
  exact ⟨hs, by rw [hp]; rfl⟩

/-- The layouts of the members of a structure, when every typed shape within it has its whole
layout. -/
theorem unfoldsMembers_of_mapM {d : Nat} {path : List String} {members : List Member}
    {parts : List (Option (String × Layout))}
    (hm : ∀ s r, s ∈ m.shapes.values → m.layoutWithin d path s = .ok r →
      (r = none ∧ m.isTyped s = false) ∨ ∃ l, r = some l ∧ m.isTyped s = true ∧ Unfolds m l s)
    (h : (members.mapM fun f =>
      match m.shape? f.target with
      | none => pure none
      | some target => do
        return (← m.layoutWithin d path target).map fun l => (f.name, l)) = .ok parts) :
    UnfoldsMembers m (parts.filterMap id) (m.typedMembers members) := by
  induction members generalizing parts with
  | nil =>
    rw [Result.mapM_nil_eq_ok_iff.mp h]
    simp [UnfoldsMembers, typedMembers]
  | cons f members ih =>
    obtain ⟨part, rest, hpart, hrest, rfl⟩ := Result.mapM_cons_eq_ok_iff.mp h
    have hi := ih hrest
    unfold typedMembers at hi ⊢
    cases hs : m.shape? f.target with
    | none =>
      have hnone : m.typedMember? f = none := by rw [typedMember?, hs]; rfl
      rw [hs] at hpart
      cases hpart
      rw [List.filterMap_cons_none rfl, List.filterMap_cons_none hnone]
      exact hi
    | some target =>
      rw [hs] at hpart
      obtain ⟨r, hr, hpart⟩ := Result.bind_eq_ok_iff.mp hpart
      cases hpart
      rcases hm target r (Dict.mem_values_of_get? hs) hr with ⟨rfl, ht⟩ | ⟨l, rfl, ht, hl⟩
      · have hnone : m.typedMember? f = none := by
          rw [typedMember?, hs, Option.filter_some, ht]
          rfl
        rw [List.filterMap_cons_none rfl, List.filterMap_cons_none hnone]
        exact hi
      · have hsome : m.typedMember? f = some (f.name, target) :=
          typedMember?_eq_some_iff.mpr ⟨rfl, hs, ht⟩
        have hpart : id ((some l).map fun l => (f.name, l)) = some (f.name, l) := rfl
        rw [List.filterMap_cons_some hpart, List.filterMap_cons_some hsome]
        exact ⟨rfl, hl, hi⟩

/-- A shape without a type has no layout. -/
theorem layoutWithin_eq_none {d : Nat} {path : List String} {s : Shape} {r : Option Layout}
    (h : m.layoutWithin d path s = .ok r) (ht : m.isTyped s = false) : r = none := by
  cases d with
  | zero => cases h; rfl
  | succ d =>
    rw [layoutWithin] at h
    obtain ⟨o, ho, h⟩ := Result.bind_eq_ok_iff.mp h
    cases o with
    | none => cases h; rfl
    | some type =>
      rw [isTyped_iff.mpr ⟨type, ho⟩] at ht
      cases ht

/-- **Enough steps give a shape with a type its whole layout.** Of the structures that may still
be entered there are `w`, and the type of the shape itself is found within `k` steps; a shape
that is not of the model counts as one more structure. -/
theorem unfolds_of_layoutWithin {d w k : Nat} {path : List String} {s : Shape} {type : FieldType}
    {r : Option Layout} (hw : m.room path < w ∨ s ∈ m.shapes.values ∧ m.room path ≤ w)
    (hk : k ≤ m.shapes.size + 2) (ht : m.typeWithin k s = .ok (some type))
    (hd : w * (m.shapes.size + 3) + k ≤ d) (h : m.layoutWithin d path s = .ok r) :
    ∃ l, r = some l ∧ Unfolds m l s := by
  induction d generalizing w k path s type r with
  | zero =>
    obtain rfl : k = 0 := by omega
    cases ht
  | succ d ih =>
    obtain ⟨k, rfl⟩ : ∃ j, k = j + 1 := by
      cases k with
      | zero => cases ht
      | succ j => exact ⟨j, rfl⟩
    have hroom : m.room path ≤ w := by
      rcases hw with hw | hw
      · exact Nat.le_of_lt hw
      · exact hw.2
    rw [layoutWithin, shapeType_of_typeWithin hk ht] at h
    obtain ⟨o, ho, h⟩ := Result.bind_eq_ok_iff.mp h
    cases ho
    cases hkind : s.kind with
    | scalar t =>
      simp only [hkind] at h
      cases h
      exact ⟨_, rfl, hkind⟩
    | «structure» members =>
      simp only [hkind] at h
      obtain ⟨inner, hinner, h⟩ := Result.bind_eq_ok_iff.mp h
      obtain ⟨parts, hparts, h⟩ := Result.bind_eq_ok_iff.mp h
      cases h
      unfold enter at hinner
      split at hinner
      · cases hinner
      rename_i hp
      cases hinner
      refine ⟨_, rfl, rfl, members, hkind, unfoldsMembers_of_mapM (fun target r hmem hr => ?_) hparts⟩
      cases htyped : m.isTyped target with
      | false => exact Or.inl ⟨layoutWithin_eq_none hr htyped, rfl⟩
      | true =>
        -- the structure has left the room, so one round of steps is free for its members
        obtain ⟨t, htt⟩ := isTyped_iff.mp htyped
        have hlt : m.room (path ++ [s.name]) < w := by
          rcases hw with hw | ⟨hs, -⟩
          · exact Nat.lt_of_le_of_lt (room_append_le path s.name) hw
          · exact Nat.lt_of_lt_of_le (room_append_lt hs (by simpa using hp)) hroom
        obtain ⟨v, rfl⟩ : ∃ v, w = v + 1 := ⟨w - 1, by omega⟩
        rw [Nat.succ_mul] at hd
        obtain ⟨l, rfl, hl⟩ := ih (w := v) (Or.inr ⟨hmem, by omega⟩) (Nat.le_refl _) htt (by omega) hr
        exact Or.inr ⟨l, rfl, rfl, hl⟩
    | list element =>
      obtain ⟨e, t, he, het, rfl⟩ := (typeWithin_list_iff hkind).mp ht
      simp only [hkind] at h
      obtain ⟨target, htarget, h⟩ := Result.bind_eq_ok_iff.mp h
      rw [resolve_eq_ok_iff, he] at htarget
      cases htarget
      obtain ⟨o, ho, h⟩ := Result.bind_eq_ok_iff.mp h
      cases h
      obtain ⟨l, rfl, hl⟩ := ih (Or.inr ⟨Dict.mem_values_of_get? he, hroom⟩) (by omega) het
        (by omega) ho
      exact ⟨_, rfl, element, e, hkind, he, shapeType_of_typeWithin (by omega) het, hl⟩
    | map key value =>
      obtain ⟨ks, vs, kt, vt, -, hv, -, hvt, rfl⟩ := (typeWithin_map_iff hkind).mp ht
      simp only [hkind] at h
      obtain ⟨target, htarget, h⟩ := Result.bind_eq_ok_iff.mp h
      rw [resolve_eq_ok_iff, hv] at htarget
      cases htarget
      obtain ⟨o, ho, h⟩ := Result.bind_eq_ok_iff.mp h
      cases h
      obtain ⟨l, rfl, hl⟩ := ih (Or.inr ⟨Dict.mem_values_of_get? hv, hroom⟩) (by omega) hvt
        (by omega) ho
      exact ⟨_, rfl, key, value, vs, hkind, hv, shapeType_of_typeWithin (by omega) hvt, hl⟩
    | unsupported label =>
      rw [typeWithin, hkind] at ht
      cases ht

/-- **The layout of a shape with a type is whole.** -/
theorem unfolds_of_layout {path : List String} {s : Shape} {r : Option Layout}
    (ht : m.isTyped s = true) (h : m.layout path s = .ok r) : ∃ l, r = some l ∧ Unfolds m l s := by
  obtain ⟨type, htype⟩ := isTyped_iff.mp ht
  refine unfolds_of_layoutWithin (w := m.shapes.size + 1) (Or.inl ?_) (Nat.le_refl _) htype ?_ h
  · have := room_le_size (m := m) path
    omega
  · have hmul : (m.shapes.size + 3) * (m.shapes.size + 3) =
        (m.shapes.size + 1) * (m.shapes.size + 3) + 2 * (m.shapes.size + 3) := by
      rw [← Nat.add_mul]
    omega

theorem layout_eq_none {path : List String} {s : Shape} {r : Option Layout}
    (h : m.layout path s = .ok r) (ht : m.isTyped s = false) : r = none :=
  layoutWithin_eq_none h ht

end ServiceModel

end ResourceGen
