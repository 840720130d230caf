import ResourceGen.Proofs.RecursiveCopy
import ResourceGen.Proofs.Temporary
import ResourceGen.Synthesis.Transfer

/-!
# Running the statements of a copy

The statements that `Copier.copy` gives do what `Copier.valueOf` says. The induction is on the
layout; binding a temporary (`BindRuns`) and filling a structure member by member (`FillsWith`)
go together. What carries it is which variables a part may change: those named after its own
temporary and those with numbers that are still free (`Temporary.Reach`). A loop uses its
variables again for every element, so it is enough that the container itself is none of them.

Results:
* `bindRuns`: binding a temporary leaves the copy of the value there.
* `copy_agrees`: the statements of a copy do to the environment what one write of the copied value
  does, apart from temporaries.
* `execute_copyOf`: the same for the program that copies a value of a shape, in terms of the
  shape.
-/

namespace ResourceGen

open Json (Value)
open Statement (run runAll itemsOf entriesOf)
open Env (EqOutside)

namespace Outcome

/-- The run has done what `r` says: it has stopped with the same error, or it has gone through
and left the same environment outside `S`. -/
def AgreesWith (S : String → Prop) (o : Outcome) (r : Result Env) : Prop :=
  match r with
  | .ok e => ∃ e', o = running e' ∧ EqOutside S e e'
  | .error err => o.failed = some err

section

variable {S T : String → Prop} {o : Outcome} {r : Result Env}

theorem AgreesWith.mono (h : o.AgreesWith S r) (hST : ∀ x, S x → T x) : o.AgreesWith T r := by
  cases r with
  | error err => exact h
  | ok e =>
    obtain ⟨e', ho, he⟩ := h
    exact ⟨e', ho, he.mono hST⟩

theorem agreesWith_running (S : String → Prop) (e : Env) : (running e).AgreesWith S (.ok e) :=
  ⟨e, rfl, EqOutside.refl S e⟩

/-- A write agrees with itself in an environment that is the same outside `S`. -/
theorem agreesWith_store {e e' : Env} (h : EqOutside S e e') {a : Accessor} (ha : ¬ S a.root)
    (v : Value) : (ofResult e' (e'.store a v)).AgreesWith S (e.store a v) := by
  cases hf : e.store a v with
  | error err => rw [h.store_error ha hf]; rfl
  | ok f =>
    obtain ⟨f', hf', hff'⟩ := h.store_ok ha hf
    rw [hf']
    exact ⟨f', rfl, hff'⟩

end

/-- **A loop keeps what each round keeps.** `P` is the invariant over an accumulated result. -/
theorem forEach_of_step {α β : Type} {S : String → Prop} {step : α → Env → Outcome}
    {P : β → Env → Prop} {next : β → α → β}
    (hstep : ∀ b x e, P b e → ∃ e', step x e = running e' ∧ P (next b x) e' ∧ EqOutside S e e')
    (items : List α) (b : β) (e : Env) (h : P b e) :
    ∃ e', forEach step items e = running e' ∧ P (items.foldl next b) e' ∧ EqOutside S e e' := by
  induction items generalizing b e with
  | nil => exact ⟨e, rfl, h, EqOutside.refl S e⟩
  | cons x rest ih =>
    obtain ⟨e₁, hrun, hP, h₁⟩ := hstep b x e h
    obtain ⟨e₂, hrest, hP₂, h₂⟩ := ih (next b x) e₁ hP
    refine ⟨e₂, ?_, hP₂, h₁.trans h₂⟩
    rw [forEach, hrun, andThen_running, hrest]

end Outcome

namespace Copier

variable (c : Copier)

/-! ## Numbers of temporaries -/

theorem copy_scalar (dest source : Accessor) (t : ScalarType) (n : Nat) :
    c.copy dest source (.scalar t) n =
      ([.ifPresent source [.assign dest source (.scalar t)]], n) := by
  rw [copy]

theorem copy_of_ne_scalar (dest source : Accessor) {l : Layout} (h : ∀ t, l ≠ .scalar t)
    (n : Nat) :
    c.copy dest source l n =
      ([.ifPresent source ((c.bind (temporary n) source l (n + 1)).1 ++
          [publish dest (temporary n)])],
        (c.bind (temporary n) source l (n + 1)).2) := by
  cases l with
  | scalar t => exact absurd rfl (h t)
  | _ => rw [copy]; simp

variable {c}

theorem le_copy_of_le_bind {l : Layout}
    (h : ∀ (var : String) (source : Accessor) (n : Nat), n ≤ (c.bind var source l n).2)
    (dest source : Accessor) (n : Nat) : n ≤ (c.copy dest source l n).2 := by
  cases l with
  | scalar t => simp [copy_scalar]
  | _ =>
    rw [copy_of_ne_scalar _ _ _ (by simp)]
    exact Nat.le_trans (Nat.le_succ n) (h _ _ (n + 1))

variable (c)

mutual

/-- Numbers only grow. -/
theorem le_bind : ∀ (l : Layout) (var : String) (source : Accessor) (n : Nat),
    n ≤ (c.bind var source l n).2
  | .scalar t, var, source, n => by simp [bind]
  | .structure shape parts, var, source, n => by
    rw [bind]
    exact le_bindMembers parts var source n
  | .list type l, var, source, n => by
    rw [bind]
    exact le_bind l _ _ n
  | .map type l, var, source, n => by
    rw [bind]
    exact le_bind l _ _ n

theorem le_bindMembers : ∀ (parts : List (String × Layout)) (var : String) (source : Accessor)
    (n : Nat), n ≤ (c.bindMembers var source parts n).2
  | [], var, source, n => by simp [bindMembers]
  | (wire, l) :: rest, var, source, n => by
    rw [bindMembers]
    exact Nat.le_trans (le_copy_of_le_bind (le_bind l) _ _ n) (le_bindMembers rest var source _)

end

theorem le_copy (l : Layout) (dest source : Accessor) (n : Nat) :
    n ≤ (c.copy dest source l n).2 :=
  le_copy_of_le_bind (c.le_bind l) dest source n

/-! ## One part -/

/-- Binding a temporary leaves the copy of the value there, and changes nothing but the variables
within its reach. -/
def BindRuns (l : Layout) : Prop :=
  ∀ (t : Temporary) (source : Accessor) (n : Nat) (e : Env), t.number < n →
    ¬ t.Reach n source.root →
    ∃ e', runAll (c.bind t.text source l n).1 e = .running e' ∧
      e'.get? t.text = some (c.valueOf l (e.read source)) ∧ EqOutside (t.Reach n) e e'

/-- What a copy does to an environment: one write if there is a value. -/
def copyEffect (l : Layout) (dest source : Accessor) (e : Env) : Result Env :=
  if e.isPresent source then e.store dest (c.valueOf l (e.read source)) else .ok e

/-- The statements of a copy do what one write does, apart from numbers that are still free. -/
def CopyRuns (l : Layout) : Prop :=
  ∀ (dest source : Accessor) (n : Nat) (e : Env), ¬ Temporary.NumberedFrom n dest.root →
    ¬ Temporary.NumberedFrom n source.root →
    (runAll (c.copy dest source l n).1 e).AgreesWith (Temporary.NumberedFrom n)
      (c.copyEffect l dest source e)

/-- Filling a structure enters the copies of its members, and changes nothing but the structure
and numbers that are still free. -/
def FillsWith (parts : List (String × Layout)) : Prop :=
  ∀ (t : Temporary) (source : Accessor) (n : Nat) (e : Env) (done : Entries Value),
    t.number < n → source.root ≠ t.text → ¬ Temporary.NumberedFrom n source.root →
    e.get? t.text = some (.obj done) →
    ∃ e', runAll (c.bindMembers t.text source parts n).1 e = .running e' ∧
      e'.get? t.text = some (.obj (Entries.insertAll done (c.pairsOf parts (e.read source)))) ∧
      EqOutside (fun x => x = t.text ∨ Temporary.NumberedFrom n x) e e'

variable {c}

theorem runAll_ifPresent (source : Accessor) (body : List Statement) (e : Env) :
    runAll [.ifPresent source body] e =
      if e.isPresent source then runAll body e else .running e := by
  rw [Statement.runAll_singleton, run]

theorem run_publish {e : Env} {x : String} {v : Value} (h : e.get? x = some v) (dest : Accessor) :
    run (publish dest x) e = .ofResult e (e.store dest v) := by
  rw [publish, run, Env.read_var e h]

/-- A copy is right when binding is. -/
theorem copyRuns_of_bindRuns {l : Layout} (h : BindRuns c l) : CopyRuns c l := by
  intro dest source n e hdest hsource
  cases l with
  | scalar t =>
    rw [copy_scalar, runAll_ifPresent, copyEffect, valueOf]
    split
    · rw [Statement.runAll_singleton, run]
      exact Outcome.agreesWith_store (EqOutside.refl _ e) hdest _
    · exact Outcome.agreesWith_running _ e
  | _ =>
    rw [copy_of_ne_scalar _ _ _ (by simp), runAll_ifPresent, copyEffect]
    split
    · -- `n` itself is the temporary, and all it may change is numbered from `n` on
      have hreach : ∀ x, Temporary.Reach ⟨n, []⟩ (n + 1) x → Temporary.NumberedFrom n x := by
        rintro x (hx | hx)
        · exact Temporary.numberedFrom_of_owns hx
        · exact Temporary.numberedFrom_mono (Nat.le_succ n) hx
      obtain ⟨e', hrun, hval, heq⟩ := h ⟨n, []⟩ source (n + 1) e (Nat.lt_succ_self n)
        fun hr => hsource (hreach _ hr)
      rw [Temporary.text_numbered] at hrun hval
      rw [Statement.runAll_append, hrun, Outcome.andThen_running, Statement.runAll_singleton,
        run_publish hval]
      exact Outcome.agreesWith_store (heq.mono hreach) hdest _
    · exact Outcome.agreesWith_running _ e

theorem presentField?_read (e : Env) (source : Accessor) (name : String) :
    (e.read source).presentField? name = e.present? (source.field name) := by
  rw [Value.presentField?, Env.field?_read, Env.present?]

/-- One member of a structure is entered. -/
theorem copy_member {l : Layout} (hl : CopyRuns c l) {t : Temporary} {source : Accessor} {n : Nat}
    {e : Env} {done : Entries Value} (ht : t.number < n)
    (hsource : ¬ Temporary.NumberedFrom n source.root) (hdone : e.get? t.text = some (.obj done))
    (wire : String) :
    ∃ e', runAll (c.copy ((Accessor.var t.text).field (c.destName wire))
        (source.field (c.sourceName wire)) l n).1 e = .running e' ∧
      e'.get? t.text = some (.obj (Entries.insertAll done
        (((e.read source).presentField? (c.sourceName wire)).map fun w =>
          (c.destName wire, c.valueOf l w)).toList)) ∧
      EqOutside (fun x => x = t.text ∨ Temporary.NumberedFrom n x) e e' := by
  have hself : ¬ Temporary.NumberedFrom n t.text := Temporary.not_numberedFrom ht
  have hcopy := hl ((Accessor.var t.text).field (c.destName wire))
    (source.field (c.sourceName wire)) n e hself hsource
  rw [copyEffect] at hcopy
  rw [presentField?_read, Env.present?_eq]
  split
  · rename_i hp
    have hstore (v : Value) : e.store ((Accessor.var t.text).field (c.destName wire)) v =
        .ok (e.insert t.text (.obj (Entries.insert done (c.destName wire) v))) :=
      Env.store_of_names_singleton (Accessor.field_names _ _) hdone v
    rw [if_pos hp, hstore] at hcopy
    obtain ⟨e', hrun, heq⟩ := hcopy
    refine ⟨e', hrun, ?_, ?_⟩
    · rw [heq t.text hself, Dict.get?_insert_self]
      rfl
    · exact (Env.eqOutside_insert e (Or.inl rfl) _).trans (heq.mono fun _ => Or.inr)
  · rename_i hp
    rw [if_neg hp] at hcopy
    obtain ⟨e', hrun, heq⟩ := hcopy
    exact ⟨e', hrun, by rw [heq t.text hself, hdone]; rfl, heq.mono fun _ => Or.inr⟩

theorem fillsWith_nil : FillsWith c [] := by
  intro t source n e done _ _ _ hdone
  rw [bindMembers, pairsOf]
  exact ⟨e, Statement.runAll_nil e, hdone, EqOutside.refl _ e⟩

theorem fillsWith_cons {wire : String} {l : Layout} {parts : List (String × Layout)}
    (hl : CopyRuns c l) (hparts : FillsWith c parts) : FillsWith c ((wire, l) :: parts) := by
  intro t source n e done ht hne hsource hdone
  have hle := c.le_copy l ((Accessor.var t.text).field (c.destName wire))
    (source.field (c.sourceName wire)) n
  obtain ⟨e₁, hrun₁, hdone₁, heq₁⟩ := copy_member hl ht hsource hdone wire
  have hread : e₁.read source = e.read source := by
    refine heq₁.read ?_
    rintro (h | h)
    · exact hne h
    · exact hsource h
  obtain ⟨e₂, hrun₂, hdone₂, heq₂⟩ := hparts t source _ e₁ _ (Nat.lt_of_lt_of_le ht hle) hne
    (fun h => hsource (Temporary.numberedFrom_mono hle h)) hdone₁
  rw [bindMembers, pairsOf]
  refine ⟨e₂, ?_, ?_, ?_⟩
  · rw [Statement.runAll_append, hrun₁, Outcome.andThen_running, hrun₂]
  · rw [hdone₂, hread, Entries.insertAll_append]
  · exact heq₁.trans (heq₂.mono fun x => Or.imp_right (Temporary.numberedFrom_mono hle))

/-! ## Layouts by kind -/

theorem bindRuns_scalar (t : ScalarType) : BindRuns c (.scalar t) := by
  intro temp source n e _ _
  rw [bind, valueOf, Statement.runAll_singleton, run]
  exact ⟨_, rfl, Dict.get?_insert_self _ _ _,
    Env.eqOutside_insert e (Or.inl temp.owns_self) _⟩

theorem bindRuns_structure {shape : String} {parts : List (String × Layout)}
    (hparts : FillsWith c parts) : BindRuns c (.structure shape parts) := by
  intro t source n e ht hsource
  have hne : source.root ≠ t.text := fun h => hsource (Or.inl (h ▸ t.owns_self))
  have hread : Env.read (e.insert t.text (.obj [])) source = e.read source :=
    (Env.eqOutside_insert (S := (· = t.text)) e rfl _).read hne
  obtain ⟨e', hrun, hdone, heq⟩ := hparts t source n (e.insert t.text (.obj [])) [] ht hne
    (fun h => hsource (Or.inr h)) (Dict.get?_insert_self _ _ _)
  rw [bind, valueOf, Value.ofPairs_eq, Statement.runAll_cons, run, Outcome.andThen_running, hrun]
  refine ⟨e', rfl, by rw [hdone, hread], ?_⟩
  refine (Env.eqOutside_insert e (Or.inl t.owns_self) _).trans (heq.mono ?_)
  rintro x (rfl | hx)
  · exact Or.inl t.owns_self
  · exact Or.inr hx

variable (c) in
/-- The body of the loop over the elements of a list. -/
def elementBody (l : Layout) (t : Temporary) (n : Nat) : List Statement :=
  (c.bind (t.extend .elem).text (.var (t.extend .iter).text) l n).1 ++
    [.append t.text (t.extend .elem).text]

variable (c) in
/-- The body of the loop over the entries of a map. -/
def entryBody (l : Layout) (t : Temporary) (n : Nat) : List Statement :=
  (c.bind (t.extend .val).text (.var (t.extend .valit).text) l n).1 ++
    [.insert t.text (t.extend .key).text (t.extend .val).text]

theorem bind_list (t : Temporary) (source : Accessor) (type : FieldType) (l : Layout) (n : Nat) :
    (c.bind t.text source (.list type l) n).1 =
      [.newList t.text (c.typeOf type),
        .forEachElement source (t.extend .iter).text (c.elementBody l t n)] := by
  rw [bind, elementBody, Temporary.text_extend, Temporary.text_extend]
  rfl

theorem bind_map (t : Temporary) (source : Accessor) (type : FieldType) (l : Layout) (n : Nat) :
    (c.bind t.text source (.map type l) n).1 =
      [.newMap t.text (c.typeOf type),
        .forEachEntry source (t.extend .key).text (t.extend .valit).text (c.entryBody l t n)] := by
  rw [bind, entryBody, Temporary.text_extend, Temporary.text_extend, Temporary.text_extend]
  rfl

theorem bind_list_snd (t : Temporary) (source : Accessor) (type : FieldType) (l : Layout)
    (n : Nat) :
    (c.bind t.text source (.list type l) n).2 =
      (c.bind (t.extend .elem).text (.var (t.extend .iter).text) l n).2 := by
  rw [bind, Temporary.text_extend, Temporary.text_extend]
  rfl

theorem bind_map_snd (t : Temporary) (source : Accessor) (type : FieldType) (l : Layout)
    (n : Nat) :
    (c.bind t.text source (.map type l) n).2 =
      (c.bind (t.extend .val).text (.var (t.extend .valit).text) l n).2 := by
  rw [bind, Temporary.text_extend, Temporary.text_extend]
  rfl

theorem bindMembers_cons (wire : String) (l : Layout) (parts : List (String × Layout))
    (var : String) (source : Accessor) (n : Nat) :
    c.bindMembers var source ((wire, l) :: parts) n =
      ((c.copy ((Accessor.var var).field (c.destName wire))
          (source.field (c.sourceName wire)) l n).1 ++
        (c.bindMembers var source parts (c.copy ((Accessor.var var).field (c.destName wire))
          (source.field (c.sourceName wire)) l n).2).1,
        (c.bindMembers var source parts (c.copy ((Accessor.var var).field (c.destName wire))
          (source.field (c.sourceName wire)) l n).2).2) := by
  rw [bindMembers]

/-- One element of a list is bound and appended. -/
theorem runAll_elementBody {l : Layout} (hl : BindRuns c l) {t : Temporary} {n : Nat}
    (ht : t.number < n) (done : List Value) (item : Value) (e : Env)
    (hdone : e.get? t.text = some (.arr done)) :
    ∃ e', runAll (c.elementBody l t n) (e.insert (t.extend .iter).text item) = .running e' ∧
      e'.get? t.text = some (.arr (done ++ [c.valueOf l item])) ∧ EqOutside (t.Reach n) e e' := by
  obtain ⟨e₁, hrun, hval, heq⟩ := hl (t.extend .elem) (.var (t.extend .iter).text) n
    (e.insert (t.extend .iter).text item) ht (Temporary.not_reach_extend ht (by decide))
  rw [Env.read_var _ (Dict.get?_insert_self _ _ _)] at hval
  -- the list is none of the variables that binding an element changes
  have hdone₁ : e₁.get? t.text = some (.arr done) := by
    rw [heq t.text (Temporary.not_reach_parent ht .elem),
      Dict.get?_insert_of_ne (Temporary.text_extend_ne t .iter).symm, hdone]
  have happend : Statement.runAppend t.text (t.extend .elem).text e₁ =
      .ok (e₁.insert t.text (.arr (done ++ [c.valueOf l item]))) := by
    simp only [Statement.runAppend, Env.require, hval, hdone₁]
    rfl
  refine ⟨e₁.insert t.text (.arr (done ++ [c.valueOf l item])), ?_, Dict.get?_insert_self _ _ _, ?_⟩
  · rw [elementBody, Statement.runAll_append, hrun, Outcome.andThen_running,
      Statement.runAll_singleton, run, happend, Outcome.ofResult_ok]
  · refine EqOutside.insert ?_ (Or.inl t.owns_self) _
    refine (Env.eqOutside_insert e (Or.inl (t.owns_extend_self .iter)) _).trans (heq.mono ?_)
    exact fun x => Temporary.reach_extend

/-- One entry of a map is bound and entered. -/
theorem runAll_entryBody {l : Layout} (hl : BindRuns c l) {t : Temporary} {n : Nat}
    (ht : t.number < n) (done : Entries Value) (entry : String × Value) (e : Env)
    (hdone : e.get? t.text = some (.obj done)) :
    ∃ e', runAll (c.entryBody l t n)
        ((e.insert (t.extend .key).text (.str entry.1)).insert (t.extend .valit).text entry.2) =
          .running e' ∧
      e'.get? t.text = some (.obj (Entries.insert done entry.1 (c.valueOf l entry.2))) ∧
      EqOutside (t.Reach n) e e' := by
  have hstart : EqOutside (t.Reach n) e
      ((e.insert (t.extend .key).text (.str entry.1)).insert (t.extend .valit).text entry.2) :=
    (Env.eqOutside_insert e (Or.inl (t.owns_extend_self .key)) _).insert
      (Or.inl (t.owns_extend_self .valit)) _
  have hkey_ne : (t.extend .key).text ≠ (t.extend .valit).text := fun h =>
    Temporary.not_owns_extend (t := t) (by decide : Ending.valit ≠ .key) (h ▸ Temporary.owns_self _)
  obtain ⟨e₁, hrun, hval, heq⟩ := hl (t.extend .val) (.var (t.extend .valit).text) n
    ((e.insert (t.extend .key).text (.str entry.1)).insert (t.extend .valit).text entry.2) ht
    (Temporary.not_reach_extend ht (by decide))
  rw [Env.read_var _ (Dict.get?_insert_self _ _ _)] at hval
  -- neither the map nor the key is a variable that binding a value changes
  have hdone₁ : e₁.get? t.text = some (.obj done) := by
    rw [heq t.text (Temporary.not_reach_parent ht .val),
      Dict.get?_insert_of_ne (Temporary.text_extend_ne t .valit).symm,
      Dict.get?_insert_of_ne (Temporary.text_extend_ne t .key).symm, hdone]
  have hkey : e₁.get? (t.extend .key).text = some (.str entry.1) := by
    rw [heq _ (Temporary.not_reach_extend ht (by decide)), Dict.get?_insert_of_ne hkey_ne,
      Dict.get?_insert_self]
  have hinsert : Statement.runInsert t.text (t.extend .key).text (t.extend .val).text e₁ =
      .ok (e₁.insert t.text (.obj (Entries.insert done entry.1 (c.valueOf l entry.2)))) := by
    simp only [Statement.runInsert, Env.require, hkey, hval, hdone₁]
    rfl
  refine ⟨e₁.insert t.text (.obj (Entries.insert done entry.1 (c.valueOf l entry.2))), ?_,
    Dict.get?_insert_self _ _ _, ?_⟩
  · rw [entryBody, Statement.runAll_append, hrun, Outcome.andThen_running,
      Statement.runAll_singleton, run, hinsert, Outcome.ofResult_ok]
  · refine EqOutside.insert ?_ (Or.inl t.owns_self) _
    exact hstart.trans (heq.mono fun x => Temporary.reach_extend)

/-- Appending the elements one after the other gives them all. -/
theorem foldl_append_map {α β : Type} (f : α → β) (items : List α) (done : List β) :
    items.foldl (fun done x => done ++ [f x]) done = done ++ items.map f := by
  induction items generalizing done with
  | nil => simp
  | cons x rest ih => simp [ih]

theorem bindRuns_list {type : FieldType} {l : Layout} (hl : BindRuns c l) :
    BindRuns c (.list type l) := by
  intro t source n e ht hsource
  have hsame : EqOutside (t.Reach n) e (e.insert t.text (.arr [])) :=
    Env.eqOutside_insert e (Or.inl t.owns_self) _
  have hitems : itemsOf (Env.lookup (e.insert t.text (.arr [])) source) =
      itemsOf (some (e.read source)) := by
    rw [hsame.lookup hsource, Env.read_eq]
    cases e.lookup source <;> rfl
  obtain ⟨e', hrun, hval, heq⟩ := Outcome.forEach_of_step
    (fun done item e h => runAll_elementBody hl ht done item e h)
    (itemsOf (some (e.read source))) [] (e.insert t.text (.arr [])) (Dict.get?_insert_self _ _ _)
  rw [foldl_append_map, List.nil_append] at hval
  refine ⟨e', ?_, hval, hsame.trans heq⟩
  rw [bind_list, Statement.runAll_cons, run, Outcome.andThen_running, Statement.runAll_singleton,
    run, hitems]
  exact hrun

theorem bindRuns_map {type : FieldType} {l : Layout} (hl : BindRuns c l) :
    BindRuns c (.map type l) := by
  intro t source n e ht hsource
  have hsame : EqOutside (t.Reach n) e (e.insert t.text (.obj [])) :=
    Env.eqOutside_insert e (Or.inl t.owns_self) _
  have hentries : entriesOf (Env.lookup (e.insert t.text (.obj [])) source) =
      entriesOf (some (e.read source)) := by
    rw [hsame.lookup hsource, Env.read_eq]
    cases e.lookup source <;> rfl
  obtain ⟨e', hrun, hval, heq⟩ := Outcome.forEach_of_step
    (fun done entry e h => runAll_entryBody hl ht done entry e h)
    (entriesOf (some (e.read source))) [] (e.insert t.text (.obj [])) (Dict.get?_insert_self _ _ _)
  refine ⟨e', ?_, ?_, hsame.trans heq⟩
  · rw [bind_map, Statement.runAll_cons, run, Outcome.andThen_running, Statement.runAll_singleton,
      run, hentries]
    exact hrun
  · rw [hval, valueOf, Value.ofPairs_eq, Entries.insertAll, List.foldl_map]

mutual

/-- **Binding a temporary leaves the copy of the value there**, whatever the layout. -/
theorem bindRuns (c : Copier) : ∀ l : Layout, BindRuns c l
  | .scalar t => bindRuns_scalar t
  | .structure _ parts => bindRuns_structure (fillsWith c parts)
  | .list _ l => bindRuns_list (bindRuns c l)
  | .map _ l => bindRuns_map (bindRuns c l)

theorem fillsWith (c : Copier) : ∀ parts : List (String × Layout), FillsWith c parts
  | [] => fillsWith_nil
  | (_, l) :: parts => fillsWith_cons (copyRuns_of_bindRuns (bindRuns c l)) (fillsWith c parts)

end

/-- **The statements of a copy do what one write of the copied value does**, apart from
temporaries with numbers that are still free. -/
theorem copy_agrees (c : Copier) (l : Layout) {dest source : Accessor} {n : Nat} (e : Env)
    (hdest : ¬ Temporary.NumberedFrom n dest.root)
    (hsource : ¬ Temporary.NumberedFrom n source.root) :
    (runAll (c.copy dest source l n).1 e).AgreesWith (Temporary.NumberedFrom n)
      (c.copyEffect l dest source e) :=
  copyRuns_of_bindRuns (bindRuns c l) dest source n e hdest hsource

/-- The same in terms of the shape that the layout unfolds. -/
theorem copyEffect_eq {c : Copier} {l : Layout} {s : Shape} (h : l.Unfolds c.types.model s)
    (dest source : Accessor) (e : Env) :
    c.copyEffect l dest source e =
      if e.isPresent source then e.store dest (c.copied s (e.read source)) else .ok e := by
  rw [copyEffect, valueOf_eq_copied c l h]

end Copier

/-! ## The program that copies a value -/

namespace Synthesizer

/-- A shape with a type gives a transfer along its whole layout, any other shape none. -/
theorem copyOf_cases {s : Synthesizer} {path : List String} {dest source : Accessor} {shape : Shape}
    {t : Option Transfer} (h : s.copyOf path dest source shape = .ok t) :
    (s.model.isTyped shape = false ∧ t = none) ∨
      (s.model.isTyped shape = true ∧
        ∃ l : Layout, l.Unfolds s.model shape ∧ t = some (.copied dest source l)) := by
  unfold copyOf at h
  obtain ⟨layout, hl, ht⟩ := Result.bind_eq_ok_iff.mp h
  cases htyped : s.model.isTyped shape with
  | false =>
    rw [ServiceModel.layout_eq_none hl htyped] at ht
    exact Or.inl ⟨rfl, (Result.pure_eq_ok_iff.mp ht).symm⟩
  | true =>
    obtain ⟨l, rfl, hu⟩ := ServiceModel.unfolds_of_layout htyped hl
    exact Or.inr ⟨rfl, l, hu, (Result.pure_eq_ok_iff.mp ht).symm⟩

theorem program_copied (s : Synthesizer) (d : Direction) (dest source : Accessor) (l : Layout) :
    (s.program d [] [.copied dest source l]).statements =
      ((Copier.mk d s.types).copy dest source l 0).1 := by
  simp [program, Copier.transfers, Copier.transfer]

/-- **A copy means the recursive copy of the shape.** The program runs through. Without a value
at the source nothing changes but temporaries; with one, nothing changes besides but the
destination, which holds the copy. -/
theorem execute_copyOf {s : Synthesizer} {d : Direction} {root : String}
    {dest source : Accessor} {shape : Shape} {side : Side} {type : FieldType}
    {t : Option Transfer} {e : Env}
    (htype : s.types.fieldType side shape = .ok (some type))
    (hcopy : s.copyOf [root] dest source shape = .ok t)
    (hdest : ¬ Temporary.IsTemporary dest.root) (hsource : ¬ Temporary.IsTemporary source.root)
    (hwritable : e.Writable dest) :
    ∃ e', (s.program d [] t.toList).execute e = .running e' ∧
      (e.isPresent source = false → EqOutside Temporary.IsTemporary e e') ∧
      (e.isPresent source = true →
        (∃ f, e.store dest ((Copier.mk d s.types).copied shape (e.read source)) = .ok f ∧
          EqOutside Temporary.IsTemporary f e') ∧
        e'.lookup dest = some ((Copier.mk d s.types).copied shape (e.read source)) ∧
        ∀ a : Accessor, ¬ Temporary.IsTemporary a.root → dest.Apart a →
          e'.lookup a = e.lookup a) := by
  have htyped : s.model.isTyped shape = true :=
    (Copier.isTyped_iff_fieldType s.types side shape).mpr ⟨type, htype⟩
  obtain ⟨l, hl, rfl⟩ : ∃ l : Layout, l.Unfolds s.model shape ∧
      t = some (.copied dest source l) := by
    rcases copyOf_cases hcopy with ⟨h, -⟩ | ⟨-, h⟩
    · rw [htyped] at h
      cases h
    · exact h
  have hrun := Copier.copy_agrees ⟨d, s.types⟩ l (n := 0) e
    (fun h => hdest (Temporary.isTemporary_of_numberedFrom h))
    (fun h => hsource (Temporary.isTemporary_of_numberedFrom h))
  have hrun := hrun.mono fun _ => Temporary.isTemporary_of_numberedFrom
  rw [Copier.copyEffect_eq hl] at hrun
  rw [Option.toList_some, Program.execute, program_copied]
  by_cases hp : e.isPresent source = true
  · obtain ⟨f, hf⟩ := (Env.exists_store_iff e dest _).mpr hwritable
    rw [if_pos hp, hf] at hrun
    obtain ⟨e', he', heq⟩ := hrun
    refine ⟨e', he', fun h => ?_, fun _ => ⟨⟨f, hf, heq⟩, ?_, fun a ha hapart => ?_⟩⟩
    · rw [hp] at h
      cases h
    · rw [heq.lookup hdest, Env.lookup_store_self hf]
    · rw [heq.lookup ha, Env.lookup_store_of_apart hf hapart]
  · rw [if_neg hp] at hrun
    obtain ⟨e', he', heq⟩ := hrun
    exact ⟨e', he', fun _ => heq, fun h => absurd h hp⟩

end Synthesizer

/-- A service with a map of structures that hold lists. -/
def ruleModel : ServiceModel :=
  [{ name := "Text", kind := .scalar .string },
    { name := "Texts", kind := .list "Text" },
    { name := "Rule", kind := .structure
        [{ name := "maxSize", target := "Text" }, { name := "names", target := "Texts" }] },
    { name := "Rules", kind := .map "Text" "Rule" }].foldl
      ServiceModel.addShape (.new "Queues")

/-- The map of rules. -/
def rules : Shape := { name := "Rules", kind := .map "Text" "Rule" }

/-- A resource with one rule. -/
def ruleEnv : Env :=
  .ofList [("ko", .obj [("Rules", .obj
    [("a", .obj [("MaxSize", .str "9"), ("Names", .arr [.str "x", .str "y"])])])])]

/-- Programs for the service. -/
def ruleSynthesizer : Synthesizer := ⟨{}, .new ruleModel .standard []⟩

/-- The layout of the map. -/
def rulesLayout : Layout :=
  .map (.structure "Rule") (.structure "Rule"
    [("maxSize", .scalar .string), ("names", .list .string (.scalar .string))])

/-- One rule is copied into a request that does not exist yet. -/
theorem execute_copyOf_rules :
    ∃ t e', ruleSynthesizer.copyOf ["Input"] ((Accessor.var "res").field "rules")
        ((Accessor.var "ko").field "Rules") rules = .ok t ∧
      (ruleSynthesizer.program .outbound [] t.toList).execute ruleEnv = .running e' ∧
      e'.lookup ((Accessor.var "res").field "rules") = some (.obj
        [("a", .obj [("maxSize", .str "9"), ("names", .arr [.str "x", .str "y"])])]) := by
  have htype : ruleSynthesizer.types.fieldType .service rules =
      .ok (some (.map .string (.structure "Rule"))) := rfl
  have hlayout : ruleModel.layout ["Input"] rules = .ok (some rulesLayout) := rfl
  have hcopy : ruleSynthesizer.copyOf ["Input"] ((Accessor.var "res").field "rules")
      ((Accessor.var "ko").field "Rules") rules =
        .ok (some (.copied _ ((Accessor.var "ko").field "Rules") rulesLayout)) := rfl
  have hwritable : ruleEnv.Writable ((Accessor.var "res").field "rules") :=
    Env.writable_field_iff.mpr (by decide)
  have hcopied : (Copier.mk .outbound ruleSynthesizer.types).copied rules
      (ruleEnv.read ((Accessor.var "ko").field "Rules")) =
        .obj [("a", .obj [("maxSize", .str "9"), ("names", .arr [.str "x", .str "y"])])] := by
    rw [Copier.copied_of_layout _ rfl hlayout]
    rfl
  obtain ⟨e', hrun, -, hpresent⟩ := Synthesizer.execute_copyOf htype hcopy
    (Temporary.not_isTemporary_of_head (by decide)) (Temporary.not_isTemporary_of_head (by decide))
    hwritable
  obtain ⟨-, hlookup, -⟩ := hpresent rfl
  exact ⟨_, e', hcopy, hrun, hcopied ▸ hlookup⟩

end ResourceGen
