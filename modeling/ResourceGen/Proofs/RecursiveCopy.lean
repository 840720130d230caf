import ResourceGen.Proofs.Environment
import ResourceGen.Proofs.Unfolding
import ResourceGen.Synthesis

/-!
# The copy that a program makes

What copying a value of a shape means, apart from any program. `Copier.copied` follows the shapes
of the model: a scalar stays as it is, a structure keeps the members that have a field type and a
value, a list and a map keep all their parts. Names change from the side that is read to the side
that is written.

`Copier.valueOf` says the same along a layout, as the statements of a program do it.

Results:
* `copied_scalar`, `copied_structure`, `copied_list`, `copied_map`: the copy by kind of shape.
* `isTyped_iff_fieldType`: having a field type does not depend on the side.
* `valueOf_eq_copied`: along the whole layout of a shape, the copy is that of the shape.
* `copied_of_layout`: so the copy can be computed.
-/

namespace ResourceGen

open Json (Value)
open Statement (itemsOf entriesOf)

/-! ## Parts of a value -/

namespace Json.Value

/-- The value of a field that is there and is not null. -/
def presentField? (v : Value) (name : String) : Option Value :=
  (v.field? name).filter fun w => !w.isNull

/-- The object with the given entries in key order; of two for one key the later wins. -/
def ofPairs (l : List (String × Value)) : Value := .obj (Dict.ofList l).entries

theorem ofPairs_eq (l : List (String × Value)) : ofPairs l = .obj (Entries.insertAll [] l) := by
  rw [ofPairs, Dict.entries_ofList]

/-- Entries that are in key order stay as they are. -/
theorem ofPairs_of_ascending {l : Entries Value} (h : l.Ascending) : ofPairs l = .obj l := by
  rw [ofPairs, Dict.ofList_of_ascending h]

theorem sizeOf_get? {entries : Entries Value} {name : String} {w : Value}
    (h : Entries.get? entries name = some w) : sizeOf w < sizeOf entries := by
  have hmem := List.sizeOf_lt_of_mem (Entries.mem_of_get? h)
  simp only [Prod.mk.sizeOf_spec] at hmem
  omega

theorem sizeOf_presentField? {v w : Value} {name : String} (h : v.presentField? name = some w) :
    sizeOf w < sizeOf v := by
  obtain ⟨hf, -⟩ := Option.filter_eq_some_iff.mp h
  cases v with
  | obj entries =>
    have := sizeOf_get? hf
    simp only [obj.sizeOf_spec]
    omega
  | _ => cases hf

end Json.Value

/-! ## The copy along shapes -/

namespace Copier

/-- The recursive copy of a value of a shape. -/
def copied (c : Copier) (s : Shape) (v : Value) : Value :=
  match s.kind with
  | .scalar _ => v
  | .structure members =>
    .ofPairs ((c.types.model.typedMembers members).filterMap fun f =>
      match _h : v.presentField? (c.sourceName f.1) with
      | some w => some (c.destName f.1, c.copied f.2 w)
      | none => none)
  | .list element =>
    match c.types.model.shape? element, v with
    | some e, .arr items => .arr (items.map fun w => c.copied e w)
    | _, _ => .arr []
  | .map _ value =>
    match c.types.model.shape? value, v with
    | some e, .obj entries => .ofPairs (entries.map fun p => (p.1, c.copied e p.2))
    | _, _ => .ofPairs []
  | .unsupported _ => .null
termination_by sizeOf v
decreasing_by
  · exact Value.sizeOf_presentField? _h
  · have := List.sizeOf_lt_of_mem ‹w ∈ items›
    simp only [Value.arr.sizeOf_spec]
    omega
  · have := List.sizeOf_lt_of_mem ‹p ∈ entries›
    obtain ⟨k, w⟩ := p
    simp only [Value.obj.sizeOf_spec, Prod.mk.sizeOf_spec] at this ⊢
    omega

section Equations

variable (c : Copier) {s e : Shape} (v : Value)

theorem copied_scalar {type : ScalarType} (h : s.kind = .scalar type) : c.copied s v = v := by
  rw [copied, h]

theorem copied_structure {members : List Member} (h : s.kind = .structure members) :
    c.copied s v = .ofPairs ((c.types.model.typedMembers members).filterMap fun f =>
      (v.presentField? (c.sourceName f.1)).map fun w => (c.destName f.1, c.copied f.2 w)) := by
  rw [copied, h]
  have hf (f : String × Shape) :
      (match _h : v.presentField? (c.sourceName f.1) with
        | some w => some (c.destName f.1, c.copied f.2 w)
        | none => none) =
      (v.presentField? (c.sourceName f.1)).map fun w => (c.destName f.1, c.copied f.2 w) := by
    split <;> rename_i h <;> rw [h] <;> rfl
  simp only [hf]

theorem copied_list {element : String} (h : s.kind = .list element)
    (he : c.types.model.shape? element = some e) :
    c.copied s v = .arr ((itemsOf (some v)).map (c.copied e)) := by
  rw [copied, h]
  simp only [he]
  cases v <;> rfl

theorem copied_map {key value : String} (h : s.kind = .map key value)
    (he : c.types.model.shape? value = some e) :
    c.copied s v = .ofPairs ((entriesOf (some v)).map fun p => (p.1, c.copied e p.2)) := by
  rw [copied, h]
  simp only [he]
  cases v <;> rfl

end Equations

/-- Whether a shape has a field type does not depend on the side. -/
theorem isTyped_iff_fieldType (r : TypeResolver) (side : Side) (s : Shape) :
    r.model.isTyped s = true ↔ ∃ t, r.fieldType side s = .ok (some t) := by
  unfold TypeResolver.fieldType
  simp only [ServiceModel.isTyped_iff, Result.bind_eq_ok_iff, Result.pure_eq_ok_iff,
    Option.map_eq_some_iff]
  constructor
  · rintro ⟨t, h⟩
    exact ⟨_, some t, h, t, rfl, rfl⟩
  · rintro ⟨-, o, h, t, rfl, -⟩
    exact ⟨t, h⟩

/-! ## The copy along layouts -/

mutual

/-- The copy of a value of a layout. -/
def valueOf (c : Copier) : Layout → Value → Value
  | .scalar _, v => v
  | .structure _ parts, v => .ofPairs (c.pairsOf parts v)
  | .list _ l, v => .arr ((itemsOf (some v)).map (c.valueOf l))
  | .map _ l, v => .ofPairs ((entriesOf (some v)).map fun p => (p.1, c.valueOf l p.2))

/-- The copies of the members of a structure that have a value, by the names they get. -/
def pairsOf (c : Copier) : List (String × Layout) → Value → List (String × Value)
  | [], _ => []
  | (wire, l) :: rest, v =>
    ((v.presentField? (c.sourceName wire)).map fun w => (c.destName wire, c.valueOf l w)).toList ++
      c.pairsOf rest v

end

mutual

/-- **The copy along the whole layout of a shape is the copy of the shape.** -/
theorem valueOf_eq_copied (c : Copier) : ∀ (l : Layout) {s : Shape},
    l.Unfolds c.types.model s → ∀ v, c.valueOf l v = c.copied s v
  | .scalar t, s, h, v => by
    rw [valueOf, c.copied_scalar v h]
  | .structure name parts, s, h, v => by
    obtain ⟨-, members, hk, hparts⟩ := h
    rw [valueOf, c.copied_structure v hk, pairsOf_eq c parts hparts v]
  | .list type l, s, h, v => by
    obtain ⟨element, e, hk, he, -, hl⟩ := h
    rw [valueOf, c.copied_list v hk he]
    congr 2
    funext w
    exact valueOf_eq_copied c l hl w
  | .map type l, s, h, v => by
    obtain ⟨key, value, e, hk, he, -, hl⟩ := h
    rw [valueOf, c.copied_map v hk he]
    congr 2
    funext p
    rw [valueOf_eq_copied c l hl p.2]

theorem pairsOf_eq (c : Copier) : ∀ (parts : List (String × Layout)) {fs : List (String × Shape)},
    Layout.UnfoldsMembers c.types.model parts fs → ∀ v,
      c.pairsOf parts v = fs.filterMap fun f =>
        (v.presentField? (c.sourceName f.1)).map fun w => (c.destName f.1, c.copied f.2 w)
  | [], [], _, v => rfl
  | [], _ :: _, h, _ => h.elim
  | _ :: _, [], h, _ => h.elim
  | (wire, l) :: parts, f :: fs, h, v => by
    obtain ⟨hw, hl, hrest⟩ := h
    have hw : wire = f.1 := hw
    rw [pairsOf, pairsOf_eq c parts hrest v, List.filterMap_cons, hw]
    cases v.presentField? (c.sourceName f.1) with
    | none => rfl
    | some w =>
      rw [Option.map_some, Option.map_some, valueOf_eq_copied c l hl w]
      rfl

end

/-- The copy can be computed along the layout. -/
theorem copied_of_layout (c : Copier) {path : List String} {s : Shape} {l : Layout}
    (ht : c.types.model.isTyped s = true) (h : c.types.model.layout path s = .ok (some l))
    (v : Value) : c.copied s v = c.valueOf l v := by
  obtain ⟨l', hl, hu⟩ := ServiceModel.unfolds_of_layout ht h
  cases hl
  exact (valueOf_eq_copied c l hu v).symm

end Copier

end ResourceGen
