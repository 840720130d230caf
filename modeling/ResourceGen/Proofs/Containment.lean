import Mathlib.Logic.Relation
import ResourceGen.Proofs.Unfolding

/-!
# What shapes are made of

A `Step` leads from a shape to one that it refers to. A list *holds* its elements and a map its
values: no structure stands in between. A structure has
the shapes of its members. Copying a value goes from a shape to what it *contains* in either way,
and never to a member without a field type.

Results:
* `isTyped_of_isStructure`, `isTyped_of_holds`: structures have a field type, and what a list or
  map with a field type holds has one too.
* `mem_typedMembers_iff`, `map_typedMembers_sublist`: the members that can be copied, and their
  names.
-/

namespace ResourceGen

/-- The way from a shape to one that it refers to. -/
inductive Step where
  | member (name : String)
  | element
  | key
  | value
  deriving DecidableEq, Repr

/-- The name of the shape to which a step leads. -/
def Shape.target? (s : Shape) : Step → Option String
  | .member name => (s.member? name).map (·.target)
  | .element =>
    match s.kind with
    | .list element => some element
    | _ => none
  | .key =>
    match s.kind with
    | .map key _ => some key
    | _ => none
  | .value =>
    match s.kind with
    | .map _ value => some value
    | _ => none

namespace ServiceModel

/-- A list holds its elements, a map its values. -/
inductive Holds (m : ServiceModel) : Shape → Shape → Prop where
  | element {s t : Shape} {element : String} (hkind : s.kind = .list element)
      (ht : m.shape? element = some t) : Holds m s t
  | value {s t : Shape} {key value : String} (hkind : s.kind = .map key value)
      (ht : m.shape? value = some t) : Holds m s t

/-- A shape contains the next shapes that a copy goes to: members with a field type, elements and
values. -/
inductive Contains (m : ServiceModel) : Shape → Shape → Prop where
  | member {s t : Shape} {f : Member} (hf : f ∈ s.members) (ht : m.shape? f.target = some t)
      (htyped : m.isTyped t = true) : Contains m s t
  | part {s t : Shape} (h : m.Holds s t) : Contains m s t

variable {m : ServiceModel} {s t : Shape}

theorem mem_values_of_holds (h : m.Holds s t) : t ∈ m.shapes.values := by
  cases h with
  | element _ ht | value _ ht => exact Dict.mem_values_of_get? ht

/-- What is contained is in the model. -/
theorem mem_values_of_contains (h : Relation.ReflTransGen m.Contains s t)
    (hs : s ∈ m.shapes.values) : t ∈ m.shapes.values := by
  cases h.cases_tail with
  | inl heq => exact heq ▸ hs
  | inr h =>
    obtain ⟨u, -, h⟩ := h
    cases h with
    | member _ ht _ => exact Dict.mem_values_of_get? ht
    | part h => exact mem_values_of_holds h

theorem members_eq {members : List Member} (h : s.kind = .structure members) :
    s.members = members := by
  rw [Shape.members, h]

theorem isStructure_iff : s.isStructure = true ↔ ∃ members, s.kind = .structure members := by
  unfold Shape.isStructure
  cases s.kind <;> simp

theorem isTyped_of_isStructure (h : s.isStructure = true) : m.isTyped s = true := by
  obtain ⟨members, hk⟩ := isStructure_iff.mp h
  refine isTyped_iff.mpr ⟨.structure s.name, ?_⟩
  rw [shapeType, typeWithin, hk]

/-- What a list or map with a field type holds has a field type. -/
theorem isTyped_of_holds (h : m.Holds s t) (hs : m.isTyped s = true) : m.isTyped t = true := by
  obtain ⟨type, htype⟩ := isTyped_iff.mp hs
  cases h with
  | element hk ht =>
    obtain ⟨e, et, he, het, -⟩ := (typeWithin_list_iff hk).mp htype
    cases ht.symm.trans he
    exact isTyped_iff.mpr ⟨et, shapeType_of_typeWithin (Nat.le_succ _) het⟩
  | value hk ht =>
    obtain ⟨ks, vs, k, v, -, hvs, -, hv, -⟩ := (typeWithin_map_iff hk).mp htype
    cases ht.symm.trans hvs
    exact isTyped_iff.mpr ⟨v, shapeType_of_typeWithin (Nat.le_succ _) hv⟩

theorem isTyped_of_contains (h : m.Contains s t) (hs : m.isTyped s = true) :
    m.isTyped t = true := by
  cases h with
  | member _ _ htyped => exact htyped
  | part h => exact isTyped_of_holds h hs

theorem mem_typedMembers_iff {members : List Member} {p : String × Shape} :
    p ∈ m.typedMembers members ↔
      ∃ f ∈ members, f.name = p.1 ∧ m.shape? f.target = some p.2 ∧ m.isTyped p.2 = true := by
  unfold typedMembers
  rw [List.mem_filterMap]
  refine exists_congr fun f => and_congr_right fun _ => ?_
  rw [typedMember?_eq_some_iff, eq_comm (a := p.1)]

/-- The members that can be copied keep their names and their order. -/
theorem map_typedMembers_sublist (m : ServiceModel) (members : List Member) :
    ((m.typedMembers members).map Prod.fst).Sublist (members.map (·.name)) := by
  induction members with
  | nil => exact List.Sublist.refl _
  | cons f members ih =>
    unfold typedMembers at ih ⊢
    cases hf : m.typedMember? f with
    | none =>
      rw [List.filterMap_cons_none hf, List.map_cons]
      exact ih.cons _
    | some p =>
      rw [List.filterMap_cons_some hf, List.map_cons, List.map_cons,
        (typedMember?_eq_some_iff.mp hf).1]
      exact ih.cons_cons _

end ServiceModel

end ResourceGen
