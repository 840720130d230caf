import Mathlib.Data.List.Chain
import Mathlib.Data.List.Nodup
import ResourceGen.Proofs.Recursion

/-!
# Cycles of structures

Unfolding a shape stops with an error when it comes to a structure that it is inside of already.
`CycleAt` is the walk that leads there: the structures that are entered one after the other, the
last of which is on the path. A walk exists exactly when the layout fails, and the error shows the
names along it.

In a model where every reference resolves there is no other error.

Results:
* `layout_error_of_holds`, `layout_structure_error`: where an error of a layout comes from.
* `cycleAt_of_layout_error`: an error shows a walk.
* `CycleAt.layout_error`: every walk leads to an error.
* `CycleAt.isCycle`: what such a walk looks like.
-/

namespace ResourceGen.ServiceModel

open Relation (ReflTransGen)

/-- The structures that a copy of a shape goes to first: the shape itself, or what lists and maps
hold in the end. -/
def Enters (m : ServiceModel) (s b : Shape) : Prop :=
  ReflTransGen m.Holds s b ∧ b.isStructure = true

/-- **A walk from a shape to a structure that is on the path.** It goes to structures that are not
on the path, through members that have a field type, until one is. -/
inductive CycleAt (m : ServiceModel) : List String → Shape → List Shape → Prop where
  | meet {path : List String} {s b : Shape} (hs : m.isTyped s = true) (hb : m.Enters s b)
      (hpath : b.name ∈ path) : CycleAt m path s [b]
  | enter {path : List String} {s b t : Shape} {f : Member} {walk : List Shape}
      (hs : m.isTyped s = true) (hb : m.Enters s b) (hpath : b.name ∉ path) (hf : f ∈ b.members)
      (ht : m.shape? f.target = some t) (h : CycleAt m (path ++ [b.name]) t walk) :
      CycleAt m path s (b :: walk)

/-- A structure leads to another one: through a member, and from there through lists and maps. -/
def Links (m : ServiceModel) (a b : Shape) : Prop :=
  ∃ f ∈ a.members, ∃ t, m.shape? f.target = some t ∧ ReflTransGen m.Holds t b

/-- **A cycle as it is reported**: structures that lead to one another, of which the last one has
the name of an earlier one and no others have the same name. -/
structure IsCycle (m : ServiceModel) (first : Shape) (shapes : List Shape) : Prop where
  starts : shapes.head? = some first
  linked : shapes.IsChain m.Links
  closes : ∃ last, shapes.getLast? = some last ∧ last.name ∈ shapes.dropLast.map (·.name)
  once : (shapes.dropLast.map (·.name)).Nodup

variable {m : ServiceModel} {s t : Shape} {path : List String}

/-! ## What a walk looks like -/

/-- What holds a shape enters what the shape enters. -/
theorem CycleAt.of_holds {walk : List Shape} (hs : m.isTyped s = true) (h : m.Holds s t)
    (hw : m.CycleAt path t walk) : m.CycleAt path s walk := by
  cases hw with
  | meet _ hb hpath => exact .meet hs ⟨hb.1.head h, hb.2⟩ hpath
  | enter _ hb hpath hf ht hw => exact .enter hs ⟨hb.1.head h, hb.2⟩ hpath hf ht hw

/-- A structure that is entered through a member is linked to the structure of the member. -/
theorem isChain_concat {base : List Shape} {inner b : Shape} {f : Member}
    (hlinked : base.IsChain m.Links) (hinner : base.getLast? = some inner) (hf : f ∈ inner.members)
    (ht : m.shape? f.target = some t) (hb : m.Enters t b) : (base ++ [b]).IsChain m.Links := by
  refine List.isChain_append.mpr ⟨hlinked, List.isChain_singleton b, ?_⟩
  intro x hx y hy
  obtain rfl : inner = x := Option.some.inj (hinner.symm.trans hx)
  obtain rfl : b = y := Option.some.inj hy
  exact ⟨f, hf, t, ht, hb.1⟩

/-- **A walk out of the innermost of given structures closes a cycle with them.** -/
theorem CycleAt.isCycle {base walk : List Shape} {first inner : Shape} {f : Member}
    (h : m.CycleAt path t walk) (hpath : path = base.map (·.name))
    (hfirst : base.head? = some first) (hinner : base.getLast? = some inner)
    (hlinked : base.IsChain m.Links) (hnodup : (base.map (·.name)).Nodup) (hf : f ∈ inner.members)
    (ht : m.shape? f.target = some t) : m.IsCycle first (base ++ walk) := by
  induction h generalizing base inner f with
  | @meet path s b hs hb hmem =>
    subst hpath
    refine ⟨?_, isChain_concat hlinked hinner hf ht hb, ⟨b, List.getLast?_concat, ?_⟩, ?_⟩
    · rw [List.head?_append, hfirst]
      rfl
    · rw [List.dropLast_concat]
      exact hmem
    · rw [List.dropLast_concat]
      exact hnodup
  | @enter path s b t' g walk hs hb hmem hg ht' h ih =>
    subst hpath
    have hname : (base ++ [b]).map (·.name) = base.map (·.name) ++ [b.name] := List.map_append
    have hnext : m.IsCycle first (base ++ [b] ++ walk) := by
      refine ih hname.symm ?_ List.getLast?_concat (isChain_concat hlinked hinner hf ht hb) ?_ hg ht'
      · rw [List.head?_append, hfirst]
        rfl
      · rw [hname]
        exact List.nodup_append.mpr ⟨hnodup, List.nodup_singleton _, by
          rintro x hx y hy rfl
          exact hmem (List.mem_singleton.mp hy ▸ hx)⟩
    rw [List.append_assoc] at hnext
    exact hnext

/-! ## Where an error comes from -/

theorem enter_of_mem {name : String} (hpath : name ∈ path) :
    enter path name = .error (.shapeCycle (path ++ [name])) := by
  rw [enter, if_pos (by simpa using hpath)]

theorem enter_of_not_mem {name : String} (hpath : name ∉ path) :
    enter path name = .ok (path ++ [name]) := by
  rw [enter, if_neg (by simpa using hpath)]

/-- The layout of a member, by the name of the member; none without a shape or a type. -/
def memberLayout (m : ServiceModel) (path : List String) (f : Member) :
    Result (Option (String × Layout)) :=
  match m.shape? f.target with
  | none => pure none
  | some target => do return (← m.layout path target).map fun l => (f.name, l)

theorem memberLayout_error_iff {f : Member} {err : GeneratorError} :
    m.memberLayout path f = .error err ↔
      ∃ t, m.shape? f.target = some t ∧ m.layout path t = .error err := by
  unfold memberLayout
  cases ht : m.shape? f.target with
  | none =>
    refine ⟨fun h => (by cases h), ?_⟩
    rintro ⟨t, h, -⟩
    cases h
  | some t =>
    simp only [Option.some.injEq, exists_eq_left']
    rw [Result.bind_eq_error_iff, or_iff_left]
    rintro ⟨l, -, h⟩
    cases h

section Errors

variable (hacyclic : m.PartsAcyclic) (hs : s ∈ m.shapes.values) (htyped : m.isTyped s = true)

include hacyclic hs htyped

/-- A list or map has the layout of what it holds inside its own. -/
theorem layout_of_holds (path : List String) (h : m.Holds s t) :
    ∃ wrap : Layout → Layout, m.layout path s =
      (m.layout path t >>= fun l => pure (l.map wrap)) := by
  obtain ⟨type, htype⟩ := isTyped_iff.mp htyped
  rw [layout_eq hacyclic path hs, layoutStep, htype]
  cases h with
  | @element element hk ht =>
    obtain ⟨e, et, -, -, rfl⟩ := (typeWithin_list_iff hk).mp htype
    have hresolve : m.resolve element (s.name ++ ".member") = .ok t := resolve_eq_ok_iff.mpr ht
    refine ⟨.list et, ?_⟩
    simp only [hk]
    show (m.resolve element (s.name ++ ".member") >>= fun target =>
      m.layout path target >>= fun l => pure (l.map (Layout.list et))) = _
    rw [hresolve]
    rfl
  | @value key value hk ht =>
    obtain ⟨ks, vs, k, v, -, -, -, -, rfl⟩ := (typeWithin_map_iff hk).mp htype
    have hresolve : m.resolve value (s.name ++ ".value") = .ok t := resolve_eq_ok_iff.mpr ht
    refine ⟨.map v, ?_⟩
    simp only [hk]
    show (m.resolve value (s.name ++ ".value") >>= fun target =>
      m.layout path target >>= fun l => pure (l.map (Layout.map v))) = _
    rw [hresolve]
    rfl

/-- A list or map fails as what it holds fails. -/
theorem layout_error_of_holds (h : m.Holds s t) {err : GeneratorError} :
    m.layout path s = .error err ↔ m.layout path t = .error err := by
  obtain ⟨wrap, heq⟩ := layout_of_holds hacyclic hs htyped path h
  rw [heq, Result.bind_eq_error_iff, or_iff_left]
  rintro ⟨l, -, hl⟩
  cases hl

/-- A structure enters its name, and then has the layouts of its members. -/
theorem layout_structure (path : List String) {members : List Member}
    (hk : s.kind = .structure members) :
    m.layout path s = (enter path s.name >>= fun path =>
      members.mapM (m.memberLayout path) >>= fun parts =>
        pure (some (.structure s.name (parts.filterMap id)))) := by
  obtain ⟨type, htype⟩ := isTyped_iff.mp htyped
  rw [layout_eq hacyclic path hs, layoutStep, htype]
  simp only [hk]
  rfl

/-- A structure on the path is reported. -/
theorem layout_structure_of_mem (hstructure : s.isStructure = true) (hpath : s.name ∈ path) :
    m.layout path s = .error (.shapeCycle (path ++ [s.name])) := by
  obtain ⟨members, hk⟩ := isStructure_iff.mp hstructure
  rw [layout_structure hacyclic hs htyped path hk, enter_of_mem hpath]
  rfl

/-- A structure that is not on the path fails as a member of it does. -/
theorem layout_structure_error (hstructure : s.isStructure = true) (hpath : s.name ∉ path)
    {err : GeneratorError} (h : m.layout path s = .error err) :
    ∃ f ∈ s.members, ∃ t, m.shape? f.target = some t ∧
      m.layout (path ++ [s.name]) t = .error err := by
  obtain ⟨members, hk⟩ := isStructure_iff.mp hstructure
  rw [layout_structure hacyclic hs htyped path hk, enter_of_not_mem hpath] at h
  rcases Result.bind_eq_error_iff.mp h with h | ⟨inner, hinner, h⟩
  · cases h
  · cases hinner
    rcases Result.bind_eq_error_iff.mp h with h | ⟨parts, -, h⟩
    · obtain ⟨f, hf, h⟩ := Result.exists_of_mapM_eq_error h
      exact ⟨f, members_eq hk ▸ hf, memberLayout_error_iff.mp h⟩
    · cases h

/-- A structure that is not on the path fails if any member of it does. -/
theorem exists_layout_structure_error (hstructure : s.isStructure = true) (hpath : s.name ∉ path)
    {f : Member} (hf : f ∈ s.members) (ht : m.shape? f.target = some t) {err : GeneratorError}
    (h : m.layout (path ++ [s.name]) t = .error err) :
    ∃ err', m.layout path s = .error err' := by
  obtain ⟨members, hk⟩ := isStructure_iff.mp hstructure
  obtain ⟨err', herr⟩ := Result.exists_mapM_eq_error (members_eq hk ▸ hf)
    (memberLayout_error_iff.mpr ⟨t, ht, h⟩)
  rw [layout_structure hacyclic hs htyped path hk, enter_of_not_mem hpath]
  exact ⟨err', Result.bind_eq_error_iff.mpr (Or.inr ⟨_, rfl,
    Result.bind_eq_error_iff.mpr (Or.inl herr)⟩)⟩

end Errors

/-- A shape with a type is a scalar, a structure, or holds another shape. -/
theorem isTyped_cases (htyped : m.isTyped s = true) :
    (∃ type, s.kind = .scalar type) ∨ s.isStructure = true ∨ ∃ t, m.Holds s t := by
  obtain ⟨type, htype⟩ := isTyped_iff.mp htyped
  cases hk : s.kind with
  | scalar type => exact Or.inl ⟨type, rfl⟩
  | «structure» members => exact Or.inr (Or.inl (isStructure_iff.mpr ⟨members, hk⟩))
  | list element =>
    obtain ⟨e, -, he, -⟩ := (typeWithin_list_iff hk).mp htype
    exact Or.inr (Or.inr ⟨e, .element hk he⟩)
  | map key value =>
    obtain ⟨-, vs, -, -, -, hvs, -⟩ := (typeWithin_map_iff hk).mp htype
    exact Or.inr (Or.inr ⟨vs, .value hk hvs⟩)
  | unsupported label =>
    rw [shapeType, typeWithin, hk] at htype
    cases htype

/-- Where references resolve, only a shape with a type has a layout that can fail. -/
theorem isTyped_of_layout_error (hresolves : m.Resolves) (hacyclic : m.PartsAcyclic)
    (hs : s ∈ m.shapes.values) {err : GeneratorError} (h : m.layout path s = .error err) :
    m.isTyped s = true := by
  obtain ⟨o, ho⟩ := exists_shapeType hresolves hacyclic hs
  cases o with
  | none =>
    rw [layout_eq hacyclic path hs, layoutStep, ho] at h
    cases h
  | some type => exact isTyped_iff.mpr ⟨type, ho⟩

/-- **An error shows a walk**, and the names along it. -/
theorem cycleAt_of_layout_error (hresolves : m.Resolves) (hacyclic : m.PartsAcyclic)
    (hs : s ∈ m.shapes.values) {err : GeneratorError} (h : m.layout path s = .error err) :
    ∃ walk, m.CycleAt path s walk ∧ err = .shapeCycle (path ++ walk.map (·.name)) := by
  generalize hc : (path, s) = c at h
  induction c using (wellFounded_calls hacyclic).induction generalizing path s with
  | _ c ih =>
    subst hc
    have htyped := isTyped_of_layout_error hresolves hacyclic hs h
    rcases isTyped_cases htyped with ⟨type, hk⟩ | hstructure | ⟨t, ht⟩
    · obtain ⟨type', htype⟩ := isTyped_iff.mp htyped
      rw [layout_eq hacyclic path hs, layoutStep, htype] at h
      simp only [hk] at h
      cases h
    · by_cases hpath : s.name ∈ path
      · rw [layout_structure_of_mem hacyclic hs htyped hstructure hpath] at h
        cases h
        exact ⟨[s], .meet htyped ⟨ReflTransGen.refl, hstructure⟩ hpath, rfl⟩
      · obtain ⟨f, hf, t, ht, h⟩ := layout_structure_error hacyclic hs htyped hstructure hpath h
        obtain ⟨walk, hwalk, rfl⟩ := ih _ (.member (by simpa using hpath) hf ht)
          (Dict.mem_values_of_get? ht) h rfl
        refine ⟨s :: walk, .enter htyped ⟨ReflTransGen.refl, hstructure⟩ hpath hf ht hwalk, ?_⟩
        rw [List.append_assoc]
        rfl
    · obtain ⟨walk, hwalk, herr⟩ := ih _ (.part ht) (mem_values_of_holds ht)
        ((layout_error_of_holds hacyclic hs htyped ht).mp h) rfl
      exact ⟨walk, hwalk.of_holds htyped ht, herr⟩

/-- A shape fails as the structures do that it enters. -/
theorem layout_error_of_enters (hacyclic : m.PartsAcyclic) {b : Shape}
    (hs : s ∈ m.shapes.values) (htyped : m.isTyped s = true) (hb : ReflTransGen m.Holds s b)
    {err : GeneratorError} (h : m.layout path b = .error err) : m.layout path s = .error err := by
  induction hb using ReflTransGen.head_induction_on with
  | refl => exact h
  | @head s t hst _ ih =>
    exact (layout_error_of_holds hacyclic hs htyped hst).mpr
      (ih (mem_values_of_holds hst) (isTyped_of_holds hst htyped))

theorem mem_values_of_enters {b : Shape} (hs : s ∈ m.shapes.values) (hb : m.Enters s b) :
    b ∈ m.shapes.values :=
  mem_values_of_contains (hb.1.lift id fun _ _ => Contains.part) hs

/-- **Every walk leads to an error.** -/
theorem CycleAt.layout_error (hacyclic : m.PartsAcyclic) {walk : List Shape}
    (h : m.CycleAt path s walk) (hs : s ∈ m.shapes.values) :
    ∃ err, m.layout path s = .error err := by
  induction h with
  | meet htyped hb hpath =>
    exact ⟨_, layout_error_of_enters hacyclic hs htyped hb.1
      (layout_structure_of_mem hacyclic (mem_values_of_enters hs hb) (isTyped_of_isStructure hb.2)
        hb.2 hpath)⟩
  | enter htyped hb hpath hf ht _ ih =>
    obtain ⟨err, herr⟩ := ih (Dict.mem_values_of_get? ht)
    obtain ⟨err', herr'⟩ := exists_layout_structure_error hacyclic (mem_values_of_enters hs hb)
      (isTyped_of_isStructure hb.2) hb.2 hpath hf ht herr
    exact ⟨err', layout_error_of_enters hacyclic hs htyped hb.1 herr'⟩

end ResourceGen.ServiceModel
