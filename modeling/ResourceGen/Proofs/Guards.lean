import ResourceGen.Code.Rendering
import ResourceGen.Proofs.Adoption

/-!
# Guards in the code of programs

A guard looks at a path, and in the code every pointer on the way to its last step has to be known
to be set: by what stands before in the same condition, or by a guard around it. Running a program
takes a path that stops short for an absent value, so that nothing of this is to be seen there.

`Statement.Guarded` follows the paths that are known to be set through a program. It asks for every
step, be it a member of a structure or not, and a loop starts with nothing known of its variables.

Inside a copy the invariant is that all steps of the source are known (`Accessor.Covered`). What is
left are the guards around the members of a response, and there the member that leads into a wrapped
output is never looked at.

Results:
* `guardedAll_bind`: inside a copy all guards are in order.
* `guardedAll_transfers_iff`: so are transfers whose own guards are.
* `guards_covered`: in a program that takes over a response the guards are in order up to the
  wrapper, and in order at all when each of them looks at the wrapper.
* `guards_miss_wrapper`: they do not look at it.
-/

namespace ResourceGen

/-! ## Paths that are known to be set -/

namespace Accessor

/-- The first `k` steps of a path. -/
def upTo (a : Accessor) (k : Nat) : Accessor := { a with segments := a.segments.take k }

/-- All steps of a path but the last are known to be set. -/
def Reached (known : List Accessor) (a : Accessor) : Prop :=
  ∀ k, 0 < k → k < a.segments.length → a.upTo k ∈ known

/-- All steps of a path are known to be set. -/
def Covered (known : List Accessor) (a : Accessor) : Prop :=
  ∀ k, 0 < k → k ≤ a.segments.length → a.upTo k ∈ known

/-- A path, and the shorter ones on its way. -/
def prefixes (a : Accessor) : List Accessor := (List.range (a.segments.length + 1)).map a.upTo

variable {known known' : List Accessor} {a : Accessor}

theorem upTo_length (a : Accessor) : a.upTo a.segments.length = a := by
  simp [upTo]

theorem upTo_upTo {j k : Nat} (h : j ≤ k) : (a.upTo k).upTo j = a.upTo j := by
  simp [upTo, List.take_take, Nat.min_eq_left h]

theorem upTo_field {k : Nat} (name : String) (h : k ≤ a.segments.length) :
    (a.field name).upTo k = a.upTo k := by
  simp [upTo, field, List.take_append_of_le_length h]

theorem Covered.mono (h : a.Covered known) (hsub : ∀ b ∈ known, b ∈ known') : a.Covered known' :=
  fun k hpos hk => hsub _ (h k hpos hk)

theorem covered_var (known : List Accessor) (x : String) : (var x).Covered known := by
  intro k hpos hk
  simp only [var, List.length_nil] at hk
  omega

/-- Behind a path whose steps are all known a member can be looked at. -/
theorem reached_field_iff (name : String) : (a.field name).Reached known ↔ a.Covered known := by
  have hlength : (a.field name).segments.length = a.segments.length + 1 := by simp [field]
  constructor
  · intro h k hpos hk
    rw [← upTo_field name hk]
    exact h k hpos (by omega)
  · intro h k hpos hk
    rw [upTo_field name (by omega)]
    exact h k hpos (by omega)

theorem covered_iff : a.Covered known ↔ a.Reached known ∧ (0 < a.segments.length → a ∈ known) := by
  constructor
  · intro h
    refine ⟨fun k hpos hk => h k hpos hk.le, fun hpos => ?_⟩
    have hlast := h _ hpos (Nat.le_refl _)
    rwa [upTo_length] at hlast
  · rintro ⟨hreached, hself⟩ k hpos hk
    rcases Nat.lt_or_eq_of_le hk with hk | rfl
    · exact hreached k hpos hk
    · rw [upTo_length]
      exact hself hpos

theorem covered_prefixes (a : Accessor) : a.Covered a.prefixes := by
  intro k _ hk
  exact List.mem_map.mpr ⟨k, List.mem_range.mpr (by omega), rfl⟩

theorem ne_field (a : Accessor) (name : String) : a ≠ a.field name := by
  intro h
  have hlength := congrArg (fun b : Accessor => b.segments.length) h
  simp [field] at hlength

/-- What is longer than a path does not lie on its way. -/
theorem field_not_mem_prefixes (a : Accessor) (name : String) : a.field name ∉ a.prefixes := by
  intro h
  obtain ⟨k, -, hk⟩ := List.mem_map.mp h
  have hlength := congrArg (fun b : Accessor => b.segments.length) hk
  simp only [upTo, field, List.length_take, List.length_append, List.length_singleton] at hlength
  omega

end Accessor

/-! ## Conditions -/

namespace Code

/-- The paths that a condition finds set, in the order in which it looks at them. -/
def Expr.tested : Expr → List Accessor
  | both a b => a.tested ++ b.tested
  | unequal (path a) nil => [a]
  | _ => []

/-- A condition looks at paths whose steps are known to be set, before it or by what it looked at
before. -/
def TestedInTurn (known : List Accessor) : List Accessor → Prop
  | [] => True
  | a :: rest => a.Reached known ∧ TestedInTurn (a :: known) rest

variable {known : List Accessor}

theorem tested_presence (a : Accessor) :
    (presence a).tested = if throughMetadata a then [metadataPart a, a] else [a] := by
  unfold presence Expr.isSet
  split <;> rfl

theorem reached_metadataPart {a : Accessor} (h : a.Reached known) :
    (metadataPart a).Reached known := by
  intro k hpos hk
  have hle : (metadataPart a).segments.length ≤ a.segments.length := by simp [metadataPart]
  have hk' : k ≤ a.segments.findIdx (Segment.isField metadataField) + 1 := by
    simp only [metadataPart, List.length_take] at hk
    omega
  have hupTo : (metadataPart a).upTo k = a.upTo k := Accessor.upTo_upTo hk'
  rw [hupTo]
  exact h k hpos (by omega)

/-- A path that leads through the metadata is looked at up to there. -/
theorem last?_metadataPart {a : Accessor} (h : throughMetadata a = true) :
    ∃ step, (metadataPart a).last? = some step ∧ step.isField metadataField = true := by
  simp only [throughMetadata, Accessor.containsField, Bool.and_eq_true] at h
  have hlt := List.findIdx_lt_length_of_exists (by simpa using h.1)
  refine ⟨a.segments[a.segments.findIdx (Segment.isField metadataField)], ?_,
    List.findIdx_getElem⟩
  simp [metadataPart, Accessor.last?, List.getLast?_take, hlt]

/-- The condition that a path is set is in order when the steps before the last are known. -/
theorem testedInTurn_presence {a : Accessor} (h : a.Reached known) :
    TestedInTurn known (presence a).tested := by
  rw [tested_presence]
  split
  · exact ⟨reached_metadataPart h, fun k hpos hk => List.mem_cons_of_mem _ (h k hpos hk), trivial⟩
  · exact ⟨h, trivial⟩

/-- Inside a guard all steps of its path are known. -/
theorem covered_of_testedInTurn {a : Accessor} (h : TestedInTurn known (presence a).tested) :
    a.Covered ((presence a).tested ++ known) := by
  rw [tested_presence] at h ⊢
  rw [Accessor.covered_iff]
  split at h
  · rename_i hthrough
    obtain ⟨-, hreached, -⟩ := h
    rw [if_pos hthrough]
    refine ⟨fun k hpos hk => ?_, fun _ => by simp⟩
    rcases List.mem_cons.mp (hreached k hpos hk) with hmem | hmem
    · simp [hmem]
    · simp [hmem]
  · rename_i hthrough
    rw [if_neg hthrough]
    exact ⟨fun k hpos hk => List.mem_cons_of_mem _ (h.1 k hpos hk), fun _ => by simp⟩

end Code

/-! ## Programs -/

namespace Statement

open Code (presence TestedInTurn)

mutual

/-- The guards in a statement look at paths whose steps are known to be set. -/
def Guarded (known : List Accessor) : Statement → Prop
  | ifPresent source body =>
    TestedInTurn known (presence source).tested ∧
      GuardedAll ((presence source).tested ++ known) body
  | forEachElement _ x body | ifSingleElement _ x body =>
    GuardedAll (known.filter fun a => a.root ≠ x) body
  | forEachEntry _ x y body => GuardedAll (known.filter fun a => a.root ≠ x ∧ a.root ≠ y) body
  | newStruct _ _ | newList _ _ | newMap _ _ | letScalar _ _ _ | append _ _ | insert _ _ _
  | assign _ _ _ => True

/-- So do the guards in statements. -/
def GuardedAll (known : List Accessor) : List Statement → Prop
  | [] => True
  | s :: rest => Guarded known s ∧ GuardedAll known rest

end

/-- The paths of the guards in a block that are in no other guard. -/
def guardSources (block : List Statement) : List Accessor :=
  block.filterMap fun
    | ifPresent source _ => some source
    | _ => none

variable {known : List Accessor}

theorem guardedAll_append (xs ys : List Statement) :
    GuardedAll known (xs ++ ys) ↔ GuardedAll known xs ∧ GuardedAll known ys := by
  induction xs with
  | nil => simp [GuardedAll]
  | cons s rest ih => simp [GuardedAll, ih, and_assoc]

theorem guardedAll_guard {source : Accessor} {body : List Statement} :
    GuardedAll known [.ifPresent source body] ↔
      TestedInTurn known (presence source).tested ∧
        GuardedAll ((presence source).tested ++ known) body := by
  simp [GuardedAll, Guarded]

end Statement

namespace Copier

open Code (presence TestedInTurn)
open Statement (GuardedAll Guarded guardSources)

variable (c : Copier)

/-- The body of the guard around a copy is in order where the steps of its source are known. -/
theorem guarded_copy_of_bind {l : Layout}
    (hl : ∀ (var : String) (source : Accessor) (n : Nat) (known : List Accessor),
      source.Covered known → GuardedAll known (c.bind var source l n).1)
    (dest source : Accessor) (n : Nat) :
    ∃ body, (c.copy dest source l n).1 = [.ifPresent source body] ∧
      ∀ known, source.Covered known → GuardedAll known body := by
  cases l with
  | scalar t => exact ⟨_, by rw [copy_scalar], fun _ _ => by simp [GuardedAll, Guarded]⟩
  | _ =>
    refine ⟨_, by rw [copy_of_ne_scalar _ _ _ (by simp)], fun known h => ?_⟩
    rw [Statement.guardedAll_append]
    exact ⟨hl _ _ _ known h, by simp [GuardedAll, Guarded, publish]⟩

mutual

/-- **Inside a copy all guards are in order** when the steps of its source are known. -/
theorem guardedAll_bind : ∀ (l : Layout) (var : String) (source : Accessor) (n : Nat)
    (known : List Accessor), source.Covered known → GuardedAll known (c.bind var source l n).1
  | .scalar type, var, source, n, known, _ => by
    simp [bind, GuardedAll, Guarded]
  | .structure shape parts, var, source, n, known, h => by
    rw [bind, GuardedAll, Guarded]
    exact ⟨trivial, guardedAll_bindMembers parts var source n known h⟩
  | .list type l, var, source, n, known, _ => by
    have hbody := guardedAll_bind l (var ++ "elem") (.var (var ++ "iter")) n
      (known.filter fun a => a.root ≠ var ++ "iter") (Accessor.covered_var _ _)
    simp only [bind, GuardedAll, Guarded, Statement.guardedAll_append]
    exact ⟨trivial, ⟨hbody, trivial, trivial⟩, trivial⟩
  | .map type l, var, source, n, known, _ => by
    have hbody := guardedAll_bind l (var ++ "val") (.var (var ++ "valit")) n
      (known.filter fun a => a.root ≠ var ++ "key" ∧ a.root ≠ var ++ "valit")
      (Accessor.covered_var _ _)
    simp only [bind, GuardedAll, Guarded, Statement.guardedAll_append]
    exact ⟨trivial, ⟨hbody, trivial, trivial⟩, trivial⟩

theorem guardedAll_bindMembers : ∀ (parts : List (String × Layout)) (var : String)
    (source : Accessor) (n : Nat) (known : List Accessor), source.Covered known →
      GuardedAll known (c.bindMembers var source parts n).1
  | [], var, source, n, known, _ => by
    simp [bindMembers, GuardedAll]
  | (wire, l) :: parts, var, source, n, known, h => by
    obtain ⟨body, hguard, hbody⟩ := c.guarded_copy_of_bind (guardedAll_bind l)
      ((Accessor.var var).field (c.destName wire)) (source.field (c.sourceName wire)) n
    have htested := Code.testedInTurn_presence
      ((Accessor.reached_field_iff (c.sourceName wire)).mpr h)
    rw [bindMembers_cons, Statement.guardedAll_append, hguard, Statement.guardedAll_guard]
    exact ⟨⟨htested, hbody _ (Code.covered_of_testedInTurn htested)⟩,
      guardedAll_bindMembers parts var source _ known h⟩

end

theorem guarded_transfer (t : Transfer) (n : Nat) :
    ∃ body, (c.transfer t n).1 = [.ifPresent t.source body] ∧
      ∀ known, t.source.Covered known → GuardedAll known body := by
  cases t with
  | copied dest source l => exact c.guarded_copy_of_bind (c.guardedAll_bind l) dest source n
  | handed dest source kind => exact ⟨_, rfl, fun _ _ => by simp [GuardedAll, Guarded]⟩

/-- **Transfers are in order when the guards around them are.** -/
theorem guardedAll_transfers_iff (ts : List Transfer) (n : Nat) (known : List Accessor) :
    GuardedAll known (c.transfers ts n) ↔
      ∀ t ∈ ts, TestedInTurn known (presence t.source).tested := by
  induction ts generalizing n with
  | nil => simp [transfers, GuardedAll]
  | cons t ts ih =>
    obtain ⟨body, hguard, hbody⟩ := c.guarded_transfer t n
    rw [transfers, Statement.guardedAll_append, ih, hguard, Statement.guardedAll_guard,
      List.forall_mem_cons]
    refine and_congr_left fun _ => ⟨fun h => h.1, fun h => ⟨h, hbody _ ?_⟩⟩
    exact Code.covered_of_testedInTurn h

theorem guardSources_transfers (ts : List Transfer) (n : Nat) :
    guardSources (c.transfers ts n) = ts.map Transfer.source := by
  induction ts generalizing n with
  | nil => rfl
  | cons t ts ih =>
    obtain ⟨body, hguard, -⟩ := c.guarded_transfer t n
    have hmore := ih (c.transfer t n).2
    unfold guardSources at hmore ⊢
    rw [transfers, List.filterMap_append, hguard, hmore]
    rfl

end Copier

namespace Synthesizer

open Code (presence TestedInTurn)
open Statement (GuardedAll Guarded guardSources)

variable {s : Synthesizer} {r : Resource} {role : Role} {target : InboundTarget} {p : Program}
  {response : Accessor}

variable (s r role) in
/-- A response of the operation with a role is taken over out of a wrapper, by its member `w`. -/
def Wraps (w : String) : Prop :=
  ∃ o output u, s.OutputOf r role o output ∧
    (role = .list → s.resourceList r output = .ok .absent) ∧
    s.model.unwrap output = .ok u ∧ u.wrapper = some w

theorem OutputOf.unique {o o' : Operation} {output output' : Shape}
    (h : s.OutputOf r role o output) (h' : s.OutputOf r role o' output') :
    output = output' := by
  obtain ⟨ho, hp⟩ := h
  obtain ⟨ho', hp'⟩ := h'
  obtain rfl : o = o' := Option.some.inj (ho.symm.trans ho')
  rw [hp] at hp'
  cases hp'
  rfl

/-- The place of the members of an output is known when the response and its wrapper are. -/
theorem covered_place {u : Unwrapped} {known : List Accessor}
    (hresponse : response.Covered known) (hwrapper : ∀ w, u.wrapper = some w →
      response.field w ∈ known) : (u.place response).Covered known := by
  unfold Unwrapped.place
  cases hw : u.wrapper with
  | none => exact hresponse
  | some w =>
    rw [Accessor.covered_iff, Accessor.reached_field_iff]
    exact ⟨hresponse, fun _ => hwrapper w hw⟩

/-- The guards of a program are in order where the response and its wrapper are known. -/
theorem guardedAll_of_adopts (h : s.Adopts r role response target p) {known : List Accessor}
    (hresponse : response.Covered known) (hwrapper : ∀ w, s.Wraps r role w →
      response.field w ∈ known) : GuardedAll known p.statements := by
  cases h with
  | nothing => trivial
  | @members o output u path ts houtput hlist hu hts =>
    refine (Copier.guardedAll_transfers_iff ⟨.inbound, s.types⟩ ts 0 known).mpr fun t ht => ?_
    obtain ⟨m, -, hsource⟩ := source_of_memberTransfers hts t ht
    have hplace := covered_place hresponse fun w hw =>
      hwrapper w ⟨o, output, u, houtput, hlist, hu, hw⟩
    rw [hsource]
    exact Code.testedInTurn_presence ((Accessor.reached_field_iff m.name).mpr hplace)
  | @element o output l path ts _ _ _ hts =>
    refine ⟨(Copier.guardedAll_transfers_iff ⟨.inbound, s.types⟩ ts 0 _).mpr fun t ht => ?_,
      trivial⟩
    obtain ⟨m, -, hsource⟩ := source_of_memberTransfers hts t ht
    rw [hsource]
    exact Code.testedInTurn_presence
      ((Accessor.reached_field_iff m.name).mpr (Accessor.covered_var _ _))

/-- A guard around a member of a wrapped output is in order when it looks at the wrapper first. -/
theorem testedInTurn_iff_wrapper_mem (response : Accessor) (w name : String) :
    TestedInTurn response.prefixes (presence ((response.field w).field name)).tested ↔
      response.field w ∈ (presence ((response.field w).field name)).tested := by
  have hne := Accessor.ne_field (response.field w) name
  constructor
  · intro h
    have hcovered := (Accessor.covered_iff.mp (Code.covered_of_testedInTurn h)).1
    rw [Accessor.reached_field_iff, Accessor.covered_iff] at hcovered
    rcases List.mem_append.mp (hcovered.2 (by simp [Accessor.field])) with hmem | hmem
    · exact hmem
    · exact absurd hmem (Accessor.field_not_mem_prefixes response w)
  · intro h
    rw [Code.tested_presence] at h ⊢
    split at h
    · rename_i hthrough
      have hfirst : Code.metadataPart ((response.field w).field name) = response.field w := by
        simpa [hne, eq_comm] using h
      rw [if_pos hthrough, hfirst]
      have hcovered : (response.field w).Covered (response.field w :: response.prefixes) :=
        Accessor.covered_iff.mpr ⟨(Accessor.reached_field_iff w).mpr
          ((Accessor.covered_prefixes response).mono fun b hb => List.mem_cons_of_mem _ hb),
          fun _ => List.mem_cons_self⟩
      exact ⟨(Accessor.reached_field_iff w).mpr (Accessor.covered_prefixes response),
        (Accessor.reached_field_iff name).mpr hcovered, trivial⟩
    · exact absurd (List.mem_singleton.mp h) hne

theorem Wraps.not_found {w : String} {o : Operation} {output : Shape} {l : ListMember}
    (hw : s.Wraps r role w) (houtput : s.OutputOf r role o output) (hrole : role = .list) :
    s.resourceList r output ≠ .ok (.found l) := by
  obtain ⟨o', output', u, houtput', hlist, -, -⟩ := hw
  obtain rfl := houtput.unique houtput'
  rw [hlist hrole]
  intro h
  cases h

theorem Wraps.wrapper_eq {w : String} {o : Operation} {output : Shape} {u : Unwrapped}
    (hw : s.Wraps r role w) (houtput : s.OutputOf r role o output)
    (hu : s.model.unwrap output = .ok u) : u.wrapper = some w := by
  obtain ⟨o', output', u', houtput', -, hu', hwrapper⟩ := hw
  obtain rfl := houtput.unique houtput'
  rw [hu] at hu'
  cases hu'
  exact hwrapper

/-- Out of a wrapper, members are taken over from the path behind it. -/
theorem guardSources_of_wraps (h : s.Adopts r role response target p) {w : String}
    (hw : s.Wraps r role w) :
    (GuardedAll response.prefixes p.statements ↔ ∀ a ∈ guardSources p.statements,
      TestedInTurn response.prefixes (presence a).tested) ∧
    ∀ a ∈ guardSources p.statements, ∃ name, a = (response.field w).field name := by
  cases h with
  | nothing => simp [guardSources, GuardedAll, Program.empty]
  | @members o output u path ts houtput hlist hu hts =>
    have hsources : guardSources (s.program .inbound [] ts).statements = ts.map Transfer.source :=
      Copier.guardSources_transfers ⟨.inbound, s.types⟩ ts 0
    have hiff := Copier.guardedAll_transfers_iff ⟨.inbound, s.types⟩ ts 0 response.prefixes
    rw [hsources]
    refine ⟨hiff.trans (by simp), fun a ha => ?_⟩
    obtain ⟨t, ht, rfl⟩ := List.mem_map.mp ha
    obtain ⟨m, -, hsource⟩ := source_of_memberTransfers hts t ht
    rw [Unwrapped.place, hw.wrapper_eq houtput hu] at hsource
    exact ⟨m.name, hsource⟩
  | element houtput hrole hlist _ => exact absurd hlist (hw.not_found houtput hrole)

/-- **A program that takes over a response looks at pointers in turn, up to the wrapper.** Its
guards are in order where the response is known and, if the output is wrapped, the member that leads
into it. Nothing but this member is missing: without further knowledge they are in order exactly
when every guard looks at it. -/
theorem guards_covered {response : String} (h : s.adoptResponse r role response target = .ok p) :
    (∀ known, (∀ a ∈ (Accessor.parse response).prefixes, a ∈ known) →
      (∀ w, s.Wraps r role w → (Accessor.parse response).field w ∈ known) →
      GuardedAll known p.statements) ∧
    (GuardedAll (Accessor.parse response).prefixes p.statements ↔
      ∀ w, s.Wraps r role w → ∀ a ∈ guardSources p.statements,
        (Accessor.parse response).field w ∈ (presence a).tested) := by
  have hadopts := adopts_of_adoptResponse h
  have hprefixes := Accessor.covered_prefixes (Accessor.parse response)
  refine ⟨fun known hknown hwrapper => guardedAll_of_adopts hadopts (hprefixes.mono hknown)
    hwrapper, ?_⟩
  by_cases hwraps : ∃ w, s.Wraps r role w
  · obtain ⟨w, hw⟩ := hwraps
    obtain ⟨hiff, hsources⟩ := guardSources_of_wraps hadopts hw
    rw [hiff]
    constructor
    · intro hturn w' hw' a ha
      obtain ⟨name, rfl⟩ := (guardSources_of_wraps hadopts hw').2 a ha
      exact (testedInTurn_iff_wrapper_mem _ w' name).mp (hturn _ ha)
    · intro htested a ha
      obtain ⟨name, rfl⟩ := hsources a ha
      exact (testedInTurn_iff_wrapper_mem _ w name).mpr (htested w hw _ ha)
  · refine iff_of_true (guardedAll_of_adopts hadopts hprefixes fun w hw => ?_) fun w hw => ?_
    · exact absurd ⟨w, hw⟩ hwraps
    · exact absurd ⟨w, hw⟩ hwraps

/-- A guard looks at a wrapper only when that is named like the metadata. -/
theorem eq_metadataField_of_wrapper_mem {w name : String}
    (h : response.field w ∈ (presence ((response.field w).field name)).tested) :
    w = metadataField := by
  rw [Code.tested_presence] at h
  split at h
  · rename_i hthrough
    rw [List.mem_pair, or_iff_left (Accessor.ne_field _ name)] at h
    obtain ⟨step, hstep, hfield⟩ := Code.last?_metadataPart hthrough
    have hlast : (response.field w).last? = some (.field w) := by
      simp [Accessor.last?, Accessor.field]
    rw [← h, hlast] at hstep
    cases hstep
    simpa [Segment.isField] using hfield
  · exact absurd (List.mem_singleton.mp h) (Accessor.ne_field _ name)

/-- Out of a wrapper nothing is taken over without looking through a pointer that may be nil. -/
theorem not_guardedAll_of_wraps (h : s.Adopts r role response target p) {w : String}
    (hw : s.Wraps r role w) (hne : w ≠ metadataField) (hp : guardSources p.statements ≠ []) :
    ¬ GuardedAll response.prefixes p.statements := by
  obtain ⟨hiff, hsources⟩ := guardSources_of_wraps h hw
  rw [hiff]
  intro hturn
  obtain ⟨a, ha⟩ := List.exists_mem_of_ne_nil _ hp
  obtain ⟨name, rfl⟩ := hsources a ha
  exact hne (eq_metadataField_of_wrapper_mem
    ((testedInTurn_iff_wrapper_mem response w name).mp (hturn _ ha)))

end Synthesizer

/-- The only element of a listing is taken over without a look behind nil. -/
theorem guards_covered_listing :
    ∃ p, listingSchema.synthesizer.adoptResponse listedQueue .list "resp" (.resource "ko") =
        .ok p ∧
      p.statements ≠ [] ∧
      Statement.GuardedAll (Accessor.parse "resp").prefixes p.statements := by
  obtain ⟨p, hp⟩ : ∃ p,
      listingSchema.synthesizer.adoptResponse listedQueue .list "resp" (.resource "ko") = .ok p :=
    ⟨_, rfl⟩
  refine ⟨p, hp, ?_, (Synthesizer.guards_covered hp).2.mpr fun w hw a ha => ?_⟩
  · cases hp
    simp
  · cases hp
    cases ha

/-- The program that takes over what Create says of a new queue. -/
def queueAdoption : Program :=
  let description := (Accessor.parse "resp").field "Queue"
  let status := Accessor.parse "ko.Status"
  queueSchema.synthesizer.program .inbound []
    [.handed (arnSlot status) (description.field "QueueArn") .resourceArn,
      .copied (status.field "CreatedAt") (description.field "createdAt") (.scalar .string)]

/-- **A wrapped output is taken over with a look behind nil**: the description of a new queue is
never tested itself. -/
theorem guards_miss_wrapper :
    Schema.build queueModel queueConfig .standard (.byConvention .standard) = .ok queueSchema ∧
      queueSchema.resources = .ok [queue] ∧
      queueSchema.synthesizer.Wraps queue .create "Queue" ∧
      queueSchema.synthesizer.adoptResponse queue .create "resp" (.status "ko.Status") =
        .ok queueAdoption ∧
      ¬ Statement.GuardedAll (Accessor.parse "resp").prefixes queueAdoption.statements := by
  have hwraps : queueSchema.synthesizer.Wraps queue .create "Queue" :=
    ⟨_, _, _, ⟨rfl, rfl⟩, by simp, rfl, rfl⟩
  have hprogram : queueSchema.synthesizer.adoptResponse queue .create "resp"
      (.status "ko.Status") = .ok queueAdoption := rfl
  have hsources : Statement.guardSources queueAdoption.statements ≠ [] := by
    have := Copier.guardSources_transfers ⟨.inbound, queueSchema.synthesizer.types⟩
    simp [queueAdoption, Synthesizer.program, this]
  exact ⟨build_queueSchema, resources_queueSchema, hwraps, hprogram,
    Synthesizer.not_guardedAll_of_wraps (Synthesizer.adopts_of_adoptResponse hprogram) hwraps
      (by decide) hsources⟩

end ResourceGen
