import ResourceGen.Proofs.Wrapping

/-!
# Unwrapping twice

`unwrap` takes one wrapper off an output. A shape stays as it is exactly when it is no wrapper
(`IsWrapper`), so unwrapping again leaves what was inside, unless that is a wrapper itself. In a
finished model this depends on all of its operations: a structure with a single structure inside is
no wrapper by being the inside of one, but it is one as soon as some operation answers with it.

Results:
* `unwrap_eq_self_iff`: the shapes that stay as they are.
* `isWrapper_marked_iff`: the wrappers of a finished model.
* `unwrap_unwrap_iff`: when unwrapping twice is unwrapping once.
* `unwrap_unwrap_opens_wrapper`: a wrapper in a wrapper.
-/

namespace ResourceGen

namespace ServiceModel

/-- A wrapper: an output with a single member that leads to a structure, or to no shape at all. -/
def IsWrapper (m : ServiceModel) (s : Shape) : Prop :=
  s.usedAsOutput = true ∧
    ∃ f, s.members = [f] ∧ ∀ t, m.shape? f.target = some t → t.isStructure = true

variable {m : ServiceModel} {s : Shape}

/-- **The shapes that stay as they are** are the ones that are no wrappers. -/
theorem unwrap_eq_self_iff : m.unwrap s = .ok ⟨s, none⟩ ↔ ¬ m.IsWrapper s := by
  unfold unwrap IsWrapper
  split
  · rename_i f hmembers
    rw [hmembers]
    by_cases houtput : s.usedAsOutput = true
    · cases ht : m.shape? f.target with
      | none => simp [resolve, ht, houtput, Bind.bind, Except.bind]
      | some t =>
        by_cases hstructure : t.isStructure = true
        · simp [resolve, ht, houtput, hstructure, Bind.bind, Except.bind, pure, Except.pure]
        · simp [resolve, ht, houtput, hstructure, Bind.bind, Except.bind, pure, Except.pure]
    · simp [houtput]
  · rename_i hmembers
    simp only [true_iff, not_and, not_exists]
    intro _ f hf
    exact absurd hf (hmembers f)

/-- What is behind a wrapper is a shape of the model. -/
theorem exists_shape?_of_unwrap {u : Unwrapped} (hu : m.unwrap s = .ok u)
    (hwrapper : u.wrapper ≠ none) : ∃ reference, m.shape? reference = some u.shape := by
  unfold unwrap at hu
  split at hu
  · rename_i f _
    split at hu
    · obtain ⟨inner, hinner, hu⟩ := Result.bind_eq_ok_iff.mp hu
      obtain rfl := Result.pure_eq_ok_iff.mp hu
      split at hwrapper
      · rename_i hstructure
        rw [if_pos hstructure]
        exact ⟨f.target, resolve_eq_ok_iff.mp hinner⟩
      · exact absurd rfl hwrapper
    · cases hu
      exact absurd rfl hwrapper
  · cases hu
    exact absurd rfl hwrapper

/-- **The wrappers of a finished model.** A shape is marked as an output before, or because some
operation of the model answers with it. -/
theorem isWrapper_marked_iff (m : ServiceModel) (t : Shape) :
    m.finish.IsWrapper (m.marked t) ↔
      (t.usedAsOutput = true ∨ ∃ o ∈ m.operations.values, o.output = some t.name) ∧
        ∃ f, t.members = [f] ∧ ∀ v, m.shape? f.target = some v → v.isStructure = true := by
  have houtput : (m.marked t).usedAsOutput = true ↔
      t.usedAsOutput = true ∨ ∃ o ∈ m.operations.values, o.output = some t.name := by
    rw [← mem_outputNames_iff, ← List.contains_iff_mem, ← Bool.or_eq_true]
    rfl
  have hinside (target : String) :
      (∀ v, m.finish.shape? target = some v → v.isStructure = true) ↔
        ∀ v, m.shape? target = some v → v.isStructure = true := by
    simp [shape?_finish, isStructure_marked]
  unfold IsWrapper
  rw [houtput, members_marked]
  refine and_congr_right fun _ => ⟨?_, ?_⟩
  · rintro ⟨g, hg, hstructure⟩
    obtain ⟨f, hf, rfl⟩ := List.map_eq_singleton_iff.mp hg
    exact ⟨f, hf, (hinside f.target).mp hstructure⟩
  · rintro ⟨f, hf, hstructure⟩
    rw [hf]
    exact ⟨_, rfl, (hinside f.target).mpr hstructure⟩

/-- What keeps a shape from being a wrapper of the finished model. -/
theorem not_isWrapper_marked_iff (m : ServiceModel) (t : Shape) :
    ¬ m.finish.IsWrapper (m.marked t) ↔
      (t.usedAsOutput = false ∧ ∀ o ∈ m.operations.values, o.output ≠ some t.name) ∨
        (∀ f, t.members ≠ [f]) ∨
        ∃ f v, t.members = [f] ∧ m.shape? f.target = some v ∧ v.isStructure = false := by
  rw [isWrapper_marked_iff, not_and_or, not_or, Bool.not_eq_true]
  refine or_congr (and_congr_right fun _ => by simp) ⟨fun h => ?_, ?_⟩
  · by_cases hsingle : ∃ f, t.members = [f]
    · obtain ⟨f, hf⟩ := hsingle
      have hinside : ¬ ∀ v, m.shape? f.target = some v → v.isStructure = true :=
        fun hall => h ⟨f, hf, hall⟩
      simp only [not_forall, Bool.not_eq_true] at hinside
      obtain ⟨v, hv, hstructure⟩ := hinside
      exact Or.inr ⟨f, v, hf, hv, hstructure⟩
    · exact Or.inl (not_exists.mp hsingle)
  · rintro (hnone | ⟨f, v, hf, hv, hstructure⟩) ⟨g, hg, hinside⟩
    · exact hnone g hg
    · cases hf.symm.trans hg
      rw [hinside v hv] at hstructure
      cases hstructure

/-- **Unwrapping twice.** In a finished model, what `unwrap` gives is unwrapped to itself, without a
member that leads to it, exactly when nothing was taken off or what was inside is no wrapper: no
operation answers with it, or it has not exactly one member, or its member is no structure. -/
theorem unwrap_unwrap_iff {u : Unwrapped} (hu : m.finish.unwrap s = .ok u) :
    m.finish.unwrap u.shape = .ok ⟨u.shape, none⟩ ↔
      u.wrapper = none ∨
        ∃ t, u.shape = m.marked t ∧
          ((t.usedAsOutput = false ∧ ∀ o ∈ m.operations.values, o.output ≠ some t.name) ∨
            (∀ f, t.members ≠ [f]) ∨
            ∃ f v, t.members = [f] ∧ m.shape? f.target = some v ∧ v.isStructure = false) := by
  rw [unwrap_eq_self_iff]
  by_cases hwrapper : u.wrapper = none
  · have hself : m.finish.unwrap s = .ok ⟨s, none⟩ := by
      rw [hu, ← hwrapper, ← shape_of_unwrap hu hwrapper]
    have hstays := unwrap_eq_self_iff.mp hself
    rw [← shape_of_unwrap hu hwrapper] at hstays
    simp [hwrapper, hstays]
  · obtain ⟨reference, href⟩ := exists_shape?_of_unwrap hu hwrapper
    rw [shape?_finish] at href
    obtain ⟨t, -, ht⟩ := Option.map_eq_some_iff.mp href
    rw [or_iff_right hwrapper]
    constructor
    · intro h
      rw [← ht] at h
      exact ⟨t, ht.symm, (not_isWrapper_marked_iff m t).mp h⟩
    · rintro ⟨v, hv, hstays⟩
      rw [hv]
      exact (not_isWrapper_marked_iff m v).mpr hstays

end ServiceModel

/-- The service whose read operation wraps the description of a queue. -/
def wrappedReadingModel : ServiceModel := readingModel.wrapOutput getQueue getQueueResponse

/-- The description of a queue is unwrapped to itself. -/
theorem unwrap_unwrap_description :
    wrappedReadingModel.finish.unwrap (wrappedReadingModel.marked getQueueResponse) =
        .ok ⟨wrappedReadingModel.marked queueDescription, some "Queue"⟩ ∧
      wrappedReadingModel.finish.unwrap (wrappedReadingModel.marked queueDescription) =
        .ok ⟨wrappedReadingModel.marked queueDescription, none⟩ := by
  have hu : wrappedReadingModel.finish.unwrap (wrappedReadingModel.marked getQueueResponse) =
      .ok ⟨wrappedReadingModel.marked queueDescription, some "Queue"⟩ := by decide
  refine ⟨hu, (ServiceModel.unwrap_unwrap_iff hu).mpr (Or.inr ⟨queueDescription, rfl, ?_⟩)⟩
  exact Or.inl ⟨rfl, by decide⟩

/-- The wrapper around the answer of the read operation. -/
def pollQueueResponse : Shape := wrapperOf "PollQueueResponse" "Result" "GetQueueResponse"

/-- The service with another operation, which wraps the answer of the read operation. -/
def pollingModel : ServiceModel :=
  (wrappedReadingModel.addShape pollQueueResponse).addOperation
    { name := "PollQueue", output := some "PollQueueResponse" }

/-- **A wrapper in a wrapper**: the inside of one output is the output of another operation, and
unwrapping it again opens it. -/
theorem unwrap_unwrap_opens_wrapper :
    ∃ outer inner core,
      pollingModel.finish.shape? "PollQueueResponse" = some outer ∧ outer.isStructure = true ∧
      pollingModel.finish.unwrap outer = .ok ⟨inner, some "Result"⟩ ∧
      pollingModel.finish.unwrap inner = .ok ⟨core, some "Queue"⟩ ∧
      pollingModel.finish.unwrap inner ≠ .ok ⟨inner, none⟩ :=
  ⟨pollingModel.marked pollQueueResponse, pollingModel.marked getQueueResponse,
    pollingModel.marked queueDescription, by decide⟩

end ResourceGen
