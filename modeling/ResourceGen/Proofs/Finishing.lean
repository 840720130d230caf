import ResourceGen.Proofs.Dictionary
import ResourceGen.ServiceModel

/-!
# Finished models

Finishing a model marks its outputs and the members that are held through a pointer, and keeps
everything else (`shape?_finish`). A model that is put together by `addShape` and `addOperation`
has each of them under its own name (`Keyed`), so the shape that an operation answers with is
marked (`usedAsOutput_of_output`). Finishing a model again changes nothing (`finish_finish`).
-/

namespace ResourceGen

namespace ServiceModel

theorem isPointed_markMembers (s : Shape) (pointed : List String) (usedAsOutput : Bool) :
    isPointed { s with usedAsOutput := usedAsOutput, kind := markMembers pointed s.kind } =
      isPointed s := by
  unfold isPointed
  cases hk : s.kind <;> simp [markMembers]

/-- Deriving the flags does not change which shapes are held through a pointer. -/
theorem pointedNames_finish (m : ServiceModel) : m.finish.pointedNames = m.pointedNames := by
  unfold ServiceModel.pointedNames ServiceModel.finish
  rw [Dict.values_mapValues]
  unfold Dict.values
  rw [List.filter_map, List.filter_map, List.map_map, List.map_map]
  refine congrArg₂ _ rfl (List.filter_congr fun e _ => ?_)
  exact isPointed_markMembers e.2 _ _

/-- A shape with its flags. -/
def marked (m : ServiceModel) (s : Shape) : Shape :=
  { s with
    usedAsOutput := s.usedAsOutput || m.outputNames.contains s.name
    kind := markMembers m.pointedNames s.kind }

theorem members_marked (m : ServiceModel) (s : Shape) :
    (m.marked s).members =
      s.members.map fun f => { f with indirection := m.pointedNames.contains f.target } := by
  unfold Shape.members marked
  cases s.kind <;> simp [markMembers]

theorem isStructure_marked (m : ServiceModel) (s : Shape) :
    (m.marked s).isStructure = s.isStructure := by
  unfold Shape.isStructure marked
  cases s.kind <;> simp [markMembers]

/-- Finishing a model keeps its shapes, with their flags. -/
theorem shape?_finish (m : ServiceModel) (name : String) :
    m.finish.shape? name = (m.shape? name).map m.marked :=
  Dict.get?_mapValues _ _ _

/-- Marking twice is marking once. -/
theorem markMembers_markMembers (pointed : List String) (k : ShapeKind) :
    markMembers pointed (markMembers pointed k) = markMembers pointed k := by
  cases k <;> simp [markMembers]

/-- **Finishing twice is finishing once.** -/
theorem finish_finish (m : ServiceModel) : m.finish.finish = m.finish := by
  have hmarked (s : Shape) : m.finish.marked (m.marked s) = m.marked s := by
    have houtputs : m.finish.outputNames = m.outputNames := rfl
    unfold marked
    rw [pointedNames_finish, houtputs]
    simp [markMembers_markMembers]
  have hshapes : m.finish.finish.shapes = m.finish.shapes := by
    refine Dict.ext_get? fun name s => ?_
    show m.finish.finish.shape? name = some s ↔ m.finish.shape? name = some s
    rw [shape?_finish, shape?_finish, Option.map_map]
    have hcomp : m.finish.marked ∘ m.marked = m.marked := funext hmarked
    rw [hcomp]
  exact congrArg (fun shapes => { m with shapes := shapes }) hshapes

/-- What is marked depends on nothing but which names are held through a pointer. -/
theorem markMembers_congr {pointed pointed' : List String}
    (h : ∀ name, name ∈ pointed' ↔ name ∈ pointed) (k : ShapeKind) :
    markMembers pointed' k = markMembers pointed k := by
  cases k <;> simp [markMembers, h]

theorem mem_pointedNames_iff {m : ServiceModel} {name : String} :
    name ∈ m.pointedNames ↔ ∃ s ∈ m.shapes.values, isPointed s = true ∧ s.name = name := by
  simp [pointedNames, and_assoc]

theorem mem_outputNames_iff {m : ServiceModel} {name : String} :
    name ∈ m.outputNames ↔ ∃ o ∈ m.operations.values, o.output = some name := by
  simp [outputNames]

/-! ## Names -/

/-- Every shape and every operation is under its own name. -/
structure Keyed (m : ServiceModel) : Prop where
  shapes : ∀ key s, m.shapes.get? key = some s → s.name = key
  operations : ∀ key o, m.operations.get? key = some o → o.name = key

theorem keyed_new (serviceId : String) : (new serviceId).Keyed :=
  ⟨fun _ _ h => (by cases h), fun _ _ h => (by cases h)⟩

variable {m : ServiceModel}

theorem Keyed.addShape (h : m.Keyed) (s : Shape) : (m.addShape s).Keyed := by
  refine ⟨fun key t ht => ?_, h.operations⟩
  have ht : (m.shapes.insert s.name s).get? key = some t := ht
  rw [Dict.get?_insert] at ht
  split at ht
  · rename_i hkey
    cases ht
    exact hkey.symm
  · exact h.shapes key t ht

theorem Keyed.addOperation (h : m.Keyed) (o : Operation) : (m.addOperation o).Keyed := by
  refine ⟨h.shapes, fun key p hp => ?_⟩
  have hp : (m.operations.insert o.name o).get? key = some p := hp
  rw [Dict.get?_insert] at hp
  split at hp
  · rename_i hkey
    cases hp
    exact hkey.symm
  · exact h.operations key p hp

theorem Keyed.finish (h : m.Keyed) : m.finish.Keyed := by
  refine ⟨fun key t ht => ?_, h.operations⟩
  obtain ⟨s, hs, rfl⟩ := Option.map_eq_some_iff.mp ((shape?_finish m key).symm.trans ht)
  exact h.shapes key s hs

/-- **The outputs of a finished model are marked.** -/
theorem usedAsOutput_of_output (h : m.Keyed) {o : Operation} (ho : o ∈ m.operations.values)
    {reference : String} (href : o.output = some reference) {s : Shape}
    (hs : m.finish.shape? reference = some s) : s.usedAsOutput = true := by
  rw [shape?_finish] at hs
  obtain ⟨t, ht, rfl⟩ := Option.map_eq_some_iff.mp hs
  have hmem : m.outputNames.contains t.name = true := by
    rw [List.contains_iff_mem, mem_outputNames_iff, h.shapes reference t ht]
    exact ⟨o, ho, href⟩
  show (t.usedAsOutput || m.outputNames.contains t.name) = true
  rw [hmem, Bool.or_true]

end ServiceModel

end ResourceGen
