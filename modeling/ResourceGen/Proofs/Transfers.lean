import ResourceGen.Proofs.Copying

/-!
# Running transfers

A program made from transfers reads its values on one side and writes them on the other. When no
value is written where another is read, it does not matter which transfers have run already: each
comes to one write (`Transfer.update?`) that can be told from the values before the run.

Results:
* `open_store`, `writable_store`: a write keeps a path open that it does not meet, and leaves a
  path to be written that it is not on the way to.
* `transfers_agree`: the statements of transfers do what their writes do, one after the other.
* `lookup_storeAll_of_mem`, `lookup_storeAll_of_apart`: writes that do not meet all stay, and what
  none of them meets stays too.
* `exists_storeAll`: writes go through while what leads to each of them stays open; so they do at
  places none of which is on the way to another (`exists_storeAll_places`), and below one open path
  (`exists_storeAll_fields`).
* `program_agrees`: a program of transfers does what their writes do.
-/

namespace ResourceGen

open Json (Value)
open Statement (runAll)
open Env (EqOutside)

namespace Env

/-! ## Keeping paths open -/

theorem follow_write_of_prefix {new v w : Value} {path p : List String}
    (h : write new v path = .ok w) (hp : p <+: path) (hne : p ≠ path) :
    ∃ entries, follow w p = some (.obj entries) := by
  induction path generalizing v w p with
  | nil => exact absurd (List.prefix_nil.mp hp) hne
  | cons name rest ih =>
    obtain ⟨entries, u, -, hu, rfl⟩ := write_cons_ok h
    cases p with
    | nil => exact ⟨_, follow_nil _⟩
    | cons head tail =>
      obtain ⟨rfl, htail⟩ := List.cons_prefix_cons.mp hp
      rw [follow_cons, Value.field?_obj, Entries.get?_insert_self]
      exact ih hu htail fun heq => hne (heq ▸ rfl)

/-- A write makes objects of everything that leads to it. -/
theorem lookup_store_of_prefix {e f : Env} {a b : Accessor} {v : Value} (h : e.store b v = .ok f)
    (hroot : a.root = b.root) (hp : a.names <+: b.names) (hne : a.names ≠ b.names) :
    ∃ entries, f.lookup a = some (.obj entries) := by
  obtain ⟨w, hw, rfl⟩ := store_ok_iff.mp h
  rw [lookup_eq, hroot, Dict.get?_insert_self]
  exact follow_write_of_prefix hw hp hne

/-- The value at a path stays absent, null or an object when a write does not replace it or
anything above it. -/
theorem open_lookup_store {e f : Env} {a b : Accessor} {v : Value} (h : e.store b v = .ok f)
    (ha : ∀ w, e.lookup a = some w → w = .null ∨ ∃ entries, w = .obj entries)
    (hb : b.root = a.root → ¬ b.names <+: a.names) {w : Value} (hw : f.lookup a = some w) :
    w = .null ∨ ∃ entries, w = .obj entries := by
  by_cases hapart : b.Apart a
  · rw [lookup_store_of_apart h hapart] at hw
    exact ha w hw
  · -- the write leads through `a`, since it does not end on the way to it
    have hroot : b.root = a.root := Classical.byContradiction fun hne =>
      hapart (Accessor.apart_of_root_ne hne)
    have hp : a.names <+: b.names := Classical.byContradiction fun hn =>
      hapart fun _ => ⟨hb hroot, hn⟩
    have hne : a.names ≠ b.names := by
      intro heq
      rw [heq] at hb
      exact hb hroot List.prefix_rfl
    obtain ⟨entries, hobj⟩ := lookup_store_of_prefix h hroot.symm hp hne
    rw [hobj] at hw
    cases hw
    exact Or.inr ⟨entries, rfl⟩

theorem names_take (a : Accessor) (k : Nat) :
    (Accessor.mk a.root (a.segments.take k)).names = a.names.take k :=
  List.map_take

/-- **A write that does not meet an open path keeps it open.** -/
theorem open_store {e f : Env} {a b : Accessor} {v : Value} (h : e.store b v = .ok f)
    (ha : e.Open a) (hb : b.root = a.root → ¬ b.names <+: a.names) : f.Open a := by
  intro k hk w hw
  refine open_lookup_store h (ha k hk) (fun hroot hp => hb hroot ?_) hw
  rw [names_take] at hp
  exact hp.trans (List.take_prefix _ _)

/-- **A path can still be written after a write that does not end on the way to it.** -/
theorem writable_store {e f : Env} {a b : Accessor} {v : Value} (h : e.store b v = .ok f)
    (ha : e.Writable a) (hb : b.root = a.root → b.names <+: a.names → b.names = a.names) :
    f.Writable a := by
  intro k hk w hw
  refine open_lookup_store h (ha k hk) (fun hroot hp => ?_) hw
  rw [names_take] at hp
  have heq := hb hroot (hp.trans (List.take_prefix _ _))
  have hlen := hp.length_le
  rw [heq, List.length_take] at hlen
  have hsize : a.names.length = a.segments.length := List.length_map ..
  omega

/-- Writing a member of a value at an open path keeps the path open. -/
theorem exists_store_field_open {e : Env} {a : Accessor} (h : e.Open a) (name : String)
    (v : Value) : ∃ f, e.store (a.field name) v = .ok f ∧ f.Open a := by
  obtain ⟨f, hf⟩ := (exists_store_iff e (a.field name) v).mpr (writable_field_iff.mpr h)
  refine ⟨f, hf, open_store hf h fun _ hp => ?_⟩
  have hlen := hp.length_le
  rw [Accessor.field_names, List.length_append, List.length_singleton] at hlen
  omega

/-! ## Writes one after the other -/

theorem storeAll_append (e : Env) (us vs : List (Accessor × Value)) :
    e.storeAll (us ++ vs) = (e.storeAll us).bind fun e => e.storeAll vs := by
  rw [storeAll, List.foldlM_append]
  rfl

/-- The writes change nothing but variables that they begin with. -/
theorem eqOutside_storeAll {S : String → Prop} {us : List (Accessor × Value)} {e f : Env}
    (h : e.storeAll us = .ok f) (hus : ∀ u ∈ us, S u.1.root) : EqOutside S e f := by
  induction us generalizing e with
  | nil => cases h; exact EqOutside.refl S _
  | cons u rest ih =>
    rw [storeAll_cons] at h
    obtain ⟨e₁, hstore, hrest⟩ := Result.bind_eq_ok_iff.mp h
    refine EqOutside.trans (fun x hx => ?_) (ih hrest fun u hu => hus u (List.mem_cons_of_mem _ hu))
    exact get?_store_of_ne hstore fun heq => hx (heq ▸ hus u List.mem_cons_self)

/-- What no write meets stays. -/
theorem lookup_storeAll_of_apart {us : List (Accessor × Value)} {e f : Env} {a : Accessor}
    (h : e.storeAll us = .ok f) (hus : ∀ u ∈ us, u.1.Apart a) : f.lookup a = e.lookup a := by
  induction us generalizing e with
  | nil => cases h; rfl
  | cons u rest ih =>
    rw [storeAll_cons] at h
    obtain ⟨e₁, hstore, hrest⟩ := Result.bind_eq_ok_iff.mp h
    rw [ih hrest fun u hu => hus u (List.mem_cons_of_mem _ hu),
      lookup_store_of_apart hstore (hus u List.mem_cons_self)]

/-- **A written value stays unless another write meets it.** -/
theorem lookup_storeAll_of_mem {us : List (Accessor × Value)} {e f : Env} {a : Accessor} {v : Value}
    (h : e.storeAll us = .ok f) (hmem : (a, v) ∈ us)
    (hus : ∀ u ∈ us, u = (a, v) ∨ u.1.Apart a) : f.lookup a = some v := by
  induction us generalizing e with
  | nil => cases hmem
  | cons u rest ih =>
    rw [storeAll_cons] at h
    obtain ⟨e₁, hstore, hrest⟩ := Result.bind_eq_ok_iff.mp h
    have hothers := fun u hu => hus u (List.mem_cons_of_mem _ hu)
    by_cases hlater : (a, v) ∈ rest
    · exact ih hrest hlater hothers
    · have hapart : ∀ u ∈ rest, u.1.Apart a := by
        intro u hu
        rcases hothers u hu with rfl | h
        · exact absurd hu hlater
        · exact h
      obtain rfl : (a, v) = u := (List.mem_cons.mp hmem).resolve_right hlater
      rw [lookup_storeAll_of_apart hrest hapart]
      exact lookup_store_self hstore

/-- **Writes go through** when each one can be done wherever all values of an invariant are, and
keeps the invariant. -/
theorem exists_storeAll {P : Env → Prop} {us : List (Accessor × Value)}
    (hstep : ∀ u ∈ us, ∀ e, P e → ∃ f, e.store u.1 u.2 = .ok f ∧ P f) {e : Env} (h : P e) :
    ∃ f, e.storeAll us = .ok f ∧ P f := by
  induction us generalizing e with
  | nil => exact ⟨e, rfl, h⟩
  | cons u rest ih =>
    obtain ⟨e₁, hstore, hP⟩ := hstep u List.mem_cons_self e h
    obtain ⟨f, hrest, hf⟩ := ih (fun u hu => hstep u (List.mem_cons_of_mem _ hu)) hP
    refine ⟨f, ?_, hf⟩
    rw [storeAll_cons, hstore]
    exact hrest

/-- Places can be written one after the other if each can be written and none is on the way to
another. -/
theorem exists_storeAll_places {us : List (Accessor × Value)} {e : Env}
    (hplaces : ∀ u ∈ us, ∀ w ∈ us, u.1.root = w.1.root → u.1.names <+: w.1.names →
      u.1.names = w.1.names)
    (hwritable : ∀ u ∈ us, e.Writable u.1) : ∃ f, e.storeAll us = .ok f := by
  have hstep : ∀ u ∈ us, ∀ e : Env, (∀ w ∈ us, e.Writable w.1) →
      ∃ f, e.store u.1 u.2 = .ok f ∧ ∀ w ∈ us, f.Writable w.1 := by
    intro u hu e he
    obtain ⟨f, hf⟩ := (exists_store_iff e u.1 u.2).mpr (he u hu)
    exact ⟨f, hf, fun w hw => writable_store hf (he w hw) (hplaces u hu w hw)⟩
  obtain ⟨f, hf, -⟩ := exists_storeAll hstep hwritable
  exact ⟨f, hf⟩

/-- **Members of a value at an open path can be written**, and if each gets one value only, all of
these stay and nothing else changes. -/
theorem exists_storeAll_fields {us : List (Accessor × Value)} {e : Env} {a : Accessor}
    (hfields : ∀ u ∈ us, ∃ name, u.1 = a.field name)
    (hunique : ∀ u ∈ us, ∀ w ∈ us, u.1 = w.1 → u = w) (hopen : e.Open a) :
    ∃ f, e.storeAll us = .ok f ∧ ∀ u ∈ us, f.lookup u.1 = some u.2 := by
  have hstep : ∀ u ∈ us, ∀ e : Env, e.Open a → ∃ f, e.store u.1 u.2 = .ok f ∧ f.Open a := by
    intro u hu e he
    obtain ⟨name, hname⟩ := hfields u hu
    rw [hname]
    exact exists_store_field_open he name u.2
  obtain ⟨f, hf, -⟩ := exists_storeAll hstep hopen
  refine ⟨f, hf, fun u hu => lookup_storeAll_of_mem hf hu fun w hw => ?_⟩
  obtain ⟨name, hname⟩ := hfields u hu
  obtain ⟨name', hname'⟩ := hfields w hw
  by_cases heq : name' = name
  · exact Or.inl (hunique w hw u hu (by rw [hname, hname', heq]))
  · rw [hname, hname']
    exact Or.inr (Accessor.apart_field heq)

end Env

/-! ## Agreement of runs -/

namespace Outcome

section

variable {S : String → Prop} {o : Outcome} {r : Result Env}

/-- A run that does what a write does in one environment does it in any that is the same
outside `S`. -/
theorem AgreesWith.of_store {e e' : Env} {a : Accessor} {v : Value}
    (ho : o.AgreesWith S (e'.store a v)) (h : EqOutside S e e') (ha : ¬ S a.root) :
    o.AgreesWith S (e.store a v) := by
  cases hf : e.store a v with
  | error err =>
    rw [h.store_error ha hf] at ho
    exact ho
  | ok f =>
    obtain ⟨f', hf', hff'⟩ := h.store_ok ha hf
    rw [hf'] at ho
    obtain ⟨g, hg, hfg⟩ := ho
    exact ⟨g, hg, hff'.trans hfg⟩

theorem AgreesWith.of_running {e e' : Env} (ho : o.AgreesWith S (.ok e')) (h : EqOutside S e e') :
    o.AgreesWith S (.ok e) := by
  obtain ⟨g, hg, hfg⟩ := ho
  exact ⟨g, hg, h.trans hfg⟩

/-- One run after another does what the one does and then the other. -/
theorem AgreesWith.andThen {f : Env → Outcome} {g : Env → Result Env} (h : o.AgreesWith S r)
    (hf : ∀ e e', r = .ok e → EqOutside S e e' → (f e').AgreesWith S (g e)) :
    (o.andThen f).AgreesWith S (r.bind g) := by
  cases r with
  | error err =>
    have h : o.failed = some err := h
    show (o.andThen f).failed = some err
    rw [Outcome.andThen, h]
    exact h
  | ok e =>
    obtain ⟨e', rfl, he⟩ := h
    rw [andThen_running]
    exact hf e e' rfl he

end

end Outcome

/-! ## Transfers -/

namespace Transfer

/-- Where a transfer writes. -/
def dest : Transfer → Accessor
  | copied dest _ _ | handed dest _ _ => dest

/-- Where a transfer reads. -/
def source : Transfer → Accessor
  | copied _ source _ | handed _ source _ => source

/-- The value that arrives for a value at the source. -/
def carried (c : Copier) : Transfer → Value → Value
  | copied _ _ l, v => c.valueOf l v
  | handed _ _ _, v => v

/-- The write that a transfer comes to, if there is a value at its source. -/
def update? (c : Copier) (e : Env) (t : Transfer) : Option (Accessor × Value) :=
  (e.present? t.source).map fun v => (t.dest, t.carried c v)

theorem update?_eq_some_iff {c : Copier} {e : Env} {t : Transfer} {u : Accessor × Value} :
    t.update? c e = some u ↔ ∃ v, e.present? t.source = some v ∧ (t.dest, t.carried c v) = u :=
  Option.map_eq_some_iff

theorem update?_of_eqOutside {D : String → Prop} {e e' : Env} (c : Copier) (h : EqOutside D e e')
    {t : Transfer} (ht : ¬ D t.source.root) : t.update? c e' = t.update? c e := by
  rw [update?, update?, h.present? ht]

end Transfer

namespace Copier

variable (c : Copier)

theorem le_transfer (t : Transfer) (n : Nat) : n ≤ (c.transfer t n).2 := by
  cases t with
  | copied dest source l => exact c.le_copy l dest source n
  | handed dest source kind => exact Nat.le_refl n

/-- The statements of one transfer do what its write does. -/
theorem transfer_agrees {S : String → Prop} {n : Nat} (hS : ∀ x, Temporary.NumberedFrom n x → S x)
    {t : Transfer} (hdest : ¬ S t.dest.root) (hsource : ¬ S t.source.root) {e e' : Env}
    (h : EqOutside S e e') :
    (runAll (c.transfer t n).1 e').AgreesWith S (e.storeAll (t.update? c e).toList) := by
  have hone : (runAll (c.transfer t n).1 e').AgreesWith S
      (if e'.isPresent t.source then e'.store t.dest (t.carried c (e'.read t.source))
        else .ok e') := by
    cases t with
    | copied dest source l =>
      exact (c.copy_agrees l e' (fun hd => hdest (hS _ hd)) fun hs => hsource (hS _ hs)).mono hS
    | handed dest source kind =>
      show (runAll [.ifPresent source [.assign dest source kind]] e').AgreesWith S
        (if e'.isPresent source then e'.store dest (e'.read source) else .ok e')
      rw [runAll_ifPresent, Statement.runAll_singleton, Statement.run]
      split
      · exact Outcome.agreesWith_store (EqOutside.refl S e') hdest _
      · exact Outcome.agreesWith_running S e'
  rw [h.isPresent hsource, h.read hsource] at hone
  rw [Transfer.update?, Env.present?_eq]
  by_cases hp : e.isPresent t.source = true
  · rw [if_pos hp] at hone ⊢
    have hstore := hone.of_store h hdest
    rw [Option.map_some, Option.toList_some, Env.storeAll_cons]
    cases hf : e.store t.dest (t.carried c (e.read t.source)) <;> rw [hf] at hstore <;> exact hstore
  · rw [if_neg hp] at hone ⊢
    exact hone.of_running h

/-- **The statements of transfers do what their writes do, one after the other.** The writes are
those told from an environment `e₀` from before the run; `D` holds the variables that are
written. -/
theorem transfers_agree {S D : String → Prop} {ts : List Transfer} {n : Nat}
    (hS : ∀ x, Temporary.NumberedFrom n x → S x)
    (hdest : ∀ t ∈ ts, ¬ S t.dest.root ∧ D t.dest.root)
    (hsource : ∀ t ∈ ts, ¬ S t.source.root ∧ ¬ D t.source.root) {e₀ e e' : Env}
    (h₀ : EqOutside D e₀ e) (h : EqOutside S e e') :
    (runAll (c.transfers ts n) e').AgreesWith S
      (e.storeAll (ts.filterMap (Transfer.update? c e₀))) := by
  induction ts generalizing n e e' with
  | nil =>
    rw [transfers, Statement.runAll_nil]
    exact (Outcome.agreesWith_running S e').of_running h
  | cons t rest ih =>
    obtain ⟨hdS, hdD⟩ := hdest t List.mem_cons_self
    obtain ⟨hsS, hsD⟩ := hsource t List.mem_cons_self
    have hcons : (t :: rest).filterMap (Transfer.update? c e₀) =
        (t.update? c e₀).toList ++ rest.filterMap (Transfer.update? c e₀) := by
      rw [List.filterMap_cons]
      cases t.update? c e₀ <;> rfl
    have hone := c.transfer_agrees hS hdS hsS h
    rw [Transfer.update?_of_eqOutside c h₀ hsD] at hone
    rw [transfers, Statement.runAll_append, hcons, Env.storeAll_append]
    refine hone.andThen fun f f' hf hff' => ?_
    refine ih (fun x hx => hS x (Temporary.numberedFrom_mono (c.le_transfer t n) hx))
      (fun t ht => hdest t (List.mem_cons_of_mem _ ht))
      (fun t ht => hsource t (List.mem_cons_of_mem _ ht)) (h₀.trans ?_) hff'
    refine Env.eqOutside_storeAll hf fun u hu => ?_
    -- the only write of the transfer is at its destination
    obtain ⟨v, -, rfl⟩ := Transfer.update?_eq_some_iff.mp (Option.mem_toList.mp hu)
    exact hdD

end Copier

namespace Synthesizer

/-- What holds of the transfers of single items holds of all that are settled. -/
theorem forall_of_mapM {α : Type} {P : Transfer → Prop} {f : α → Result (Option Transfer)}
    {l : List α} {ts : List (Option Transfer)} (hts : l.mapM f = .ok ts)
    (h : ∀ a ∈ l, ∀ t, f a = .ok (some t) → P t) : ∀ t ∈ ts.filterMap id, P t := by
  intro t ht
  obtain ⟨o, ho, hid⟩ := List.mem_filterMap.mp ht
  obtain rfl : o = some t := hid
  obtain ⟨a, ha, hat⟩ := Result.exists_of_mem_mapM hts ho
  exact h a ha t hat

/-- **A program of transfers from one variable to another does what their writes do.** -/
theorem program_agrees {s : Synthesizer} {d : Direction} {ts : List Transfer}
    {source target : String}
    (hroots : ∀ t ∈ ts, t.dest.root = target ∧ t.source.root = source)
    (hsource : ¬ Temporary.IsTemporary source) (htarget : ¬ Temporary.IsTemporary target)
    (hne : source ≠ target) (e : Env) :
    ((s.program d [] ts).execute e).AgreesWith Temporary.IsTemporary
      (e.storeAll (ts.filterMap (Transfer.update? ⟨d, s.types⟩ e))) := by
  refine Copier.transfers_agree _ (D := (· = target))
    (fun x hx => Temporary.isTemporary_of_numberedFrom hx) (fun t ht => ?_) (fun t ht => ?_)
    (EqOutside.refl _ e) (EqOutside.refl _ e)
  · rw [(hroots t ht).1]
    exact ⟨htarget, rfl⟩
  · rw [(hroots t ht).2]
    exact ⟨hsource, hne⟩

end Synthesizer

end ResourceGen
