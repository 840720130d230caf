import ResourceGen.Proofs.ArnSlot
import ResourceGen.Proofs.Assembly

/-!
# Programs that take over responses

A program that takes over a response does nothing, or transfers the members of the output without
its wrapper, or transfers those of the only element of a list (`Synthesizer.Adopts`). In each form
every source is a member of one structure: of the place where the output is without its wrapper, or
of the variable of the element.

Results:
* `adopts_of_adoptResponse`: there are no other forms.
* `source_of_memberTransfers`: the sources are members of one structure.
-/

namespace ResourceGen

namespace Synthesizer

variable {s : Synthesizer} {r : Resource} {o : Operation} {role : Role} {path : List String}
  {source response : Accessor} {target : InboundTarget}

/-! ## Sources -/

/-- A member is transferred from its place in the structure. -/
theorem source_of_memberTransfer {m : Member} {t : Transfer}
    (h : s.memberTransfer r o path source target m = .ok (some t)) :
    t.source = source.field m.name := by
  unfold memberTransfer at h
  cases hshape : s.model.shape? m.target with
  | none => simp only [hshape] at h; cases h
  | some shape =>
    simp only [hshape] at h
    split at h
    · cases h
    · cases hdest : outputDest? r target (s.config.outputName r.name o.name m.name) with
      | some dest =>
        simp only [hdest] at h
        rcases copyOf_cases h with ⟨-, h⟩ | ⟨-, l, -, h⟩
        · cases h
        · cases h
          rfl
      | none =>
        simp only [hdest] at h
        split at h
        · cases h
          rfl
        · cases h

theorem source_of_memberTransfers {shape : Shape} {ts : List Transfer}
    (h : s.memberTransfers r o path source target shape = .ok ts) :
    ∀ t ∈ ts, ∃ m ∈ shape.members, t.source = source.field m.name := by
  unfold memberTransfers at h
  obtain ⟨os, hos, h⟩ := Result.bind_eq_ok_iff.mp h
  obtain rfl := Result.pure_eq_ok_iff.mp h
  exact forall_of_mapM hos fun m hm _ ht => ⟨m, hm, source_of_memberTransfer ht⟩

/-! ## Forms -/

variable (s r role) in
/-- The output of the operation with a role. -/
def OutputOf (o : Operation) (output : Shape) : Prop :=
  r.operations.get? role = some o ∧ s.payload o o.output = .ok (some output)

variable (s r role response target) in
/-- The program takes over a response of the operation with a role, from the path `response`. -/
inductive Adopts : Program → Prop where
  | nothing : Adopts (.empty .inbound)
  | members {o : Operation} {output : Shape} {u : Unwrapped} {path : List String}
      {ts : List Transfer} (houtput : s.OutputOf r role o output)
      (hlist : role = .list → s.resourceList r output = .ok .absent)
      (hu : s.model.unwrap output = .ok u)
      (hts : s.memberTransfers r o path (u.place response) target u.shape = .ok ts) :
      Adopts (s.program .inbound [] ts)
  | element {o : Operation} {output : Shape} {l : ListMember} {path : List String}
      {ts : List Transfer} (houtput : s.OutputOf r role o output) (hrole : role = .list)
      (hlist : s.resourceList r output = .ok (.found l))
      (hts : s.memberTransfers r o path (.var onlyElementVar) target l.element = .ok ts) :
      Adopts ⟨.inbound, [.ifSingleElement (response.field l.name) onlyElementVar
        (s.program .inbound [] ts).statements]⟩

variable {output : Shape} {p : Program}

/-- The members of an output are taken over from behind its wrapper. -/
theorem transfers_of_adoptMembers (h : s.adoptMembers r o output response target = .ok p) :
    ∃ u path ts, s.model.unwrap output = .ok u ∧
      s.memberTransfers r o path (u.place response) target u.shape = .ok ts ∧
      p = s.program .inbound [] ts := by
  unfold adoptMembers at h
  obtain ⟨u, hu, h⟩ := Result.bind_eq_ok_iff.mp h
  cases hw : u.wrapper with
  | none =>
    simp only [hw] at h
    obtain ⟨ts, hts, h⟩ := Result.bind_eq_ok_iff.mp h
    refine ⟨u, [output.name], ts, hu, ?_, (Result.pure_eq_ok_iff.mp h).symm⟩
    rw [Unwrapped.place, hw]
    exact hts
  | some wrapper =>
    simp only [hw] at h
    obtain ⟨path, -, h⟩ := Result.bind_eq_ok_iff.mp h
    obtain ⟨ts, hts, h⟩ := Result.bind_eq_ok_iff.mp h
    refine ⟨u, path, ts, hu, ?_, (Result.pure_eq_ok_iff.mp h).symm⟩
    rw [Unwrapped.place, hw]
    exact hts

theorem adopts_of_adoptMembers (h : s.adoptMembers r o output response target = .ok p)
    (houtput : s.OutputOf r role o output)
    (hlist : role = .list → s.resourceList r output = .ok .absent) :
    s.Adopts r role response target p := by
  obtain ⟨u, path, ts, hu, hts, rfl⟩ := transfers_of_adoptMembers h
  exact .members houtput hlist hu hts

theorem adopts_of_adoptElement {l : ListMember}
    (h : s.adoptElement r o output response target l = .ok p)
    (houtput : s.OutputOf r role o output) (hrole : role = .list)
    (hlist : s.resourceList r output = .ok (.found l)) : s.Adopts r role response target p := by
  unfold adoptElement at h
  obtain ⟨path, -, h⟩ := Result.bind_eq_ok_iff.mp h
  obtain ⟨ts, hts, h⟩ := Result.bind_eq_ok_iff.mp h
  obtain rfl := Result.pure_eq_ok_iff.mp h
  exact .element houtput hrole hlist hts

/-- **A response is taken over in one of three forms.** -/
theorem adopts_of_adoptResponse {response : String}
    (h : s.adoptResponse r role response target = .ok p) :
    s.Adopts r role (.parse response) target p := by
  unfold adoptResponse at h
  cases ho : r.operations.get? role with
  | none =>
    simp only [ho] at h
    obtain rfl := Result.pure_eq_ok_iff.mp h
    exact .nothing
  | some o =>
    simp only [ho] at h
    obtain ⟨payload, hpayload, h⟩ := Result.bind_eq_ok_iff.mp h
    cases payload with
    | none =>
      obtain rfl := Result.pure_eq_ok_iff.mp h
      exact .nothing
    | some output =>
      simp only at h
      unfold adoptOutput at h
      split at h
      · rename_i hrole
        obtain ⟨found, hfound, h⟩ := Result.bind_eq_ok_iff.mp h
        cases found with
        | found l => exact adopts_of_adoptElement h ⟨ho, hpayload⟩ hrole hfound
        | ambiguous =>
          obtain rfl := Result.pure_eq_ok_iff.mp h
          exact .nothing
        | absent => exact adopts_of_adoptMembers h ⟨ho, hpayload⟩ fun _ => hfound
      · rename_i hrole
        exact adopts_of_adoptMembers h ⟨ho, hpayload⟩ fun hlist => absurd hlist hrole

end Synthesizer

end ResourceGen
