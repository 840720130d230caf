import ResourceGen.Program.Execution

/-!
# Reading and writing through paths

An environment is read and written through accessors. `Env.write` treats null like an object
without entries, so a value is *open* (`Value.openEntries?`) when it is null or an object, and a
write goes through as long as everything on its way is open.

Two environments that differ only in variables of a set `S` are `EqOutside S`; a run that uses
variables of its own is compared with its intended effect through this relation.

Results:
* `exists_write_iff`, `exists_store_iff`: a write goes through iff every value on its way is
  open.
* `exists_write_null`: a write into null goes through.
* `writable_field_iff`: the members of a value can be written iff the whole path to it is open.
* `lookup_store_self`, `lookup_store_of_apart`: a written path holds the new value, and a path
  that is no prefix of it and has it as no prefix holds what it held.
* `EqOutside.store_ok`, `EqOutside.store_error`: a write does the same in both environments.
* `runAll_append`: statements run one list after the other.
-/

namespace ResourceGen

open Json (Value)

/-! ## Open values -/

namespace Json.Value

/-- The entries that a write goes on from: none for null, those of an object. -/
def openEntries? : Value → Option (Entries Value)
  | null => some []
  | obj entries => some entries
  | _ => none

theorem openEntries?_isSome_iff {v : Value} :
    v.openEntries?.isSome = true ↔ v = .null ∨ ∃ entries, v = .obj entries := by
  cases v <;> simp [openEntries?]

theorem field?_eq_bind (v : Value) (name : String) :
    v.field? name = v.openEntries?.bind fun entries => Entries.get? entries name := by
  cases v <;> rfl

@[simp]
theorem field?_obj (entries : Entries Value) (name : String) :
    (Value.obj entries).field? name = Entries.get? entries name := rfl

end Json.Value

namespace Accessor

/-- The names of the steps. -/
def names (a : Accessor) : List String := a.segments.map Segment.name

/-- Two paths of which neither leads to or past the other. -/
def Apart (a b : Accessor) : Prop :=
  a.root = b.root → ¬ a.names <+: b.names ∧ ¬ b.names <+: a.names

@[simp]
theorem field_root (a : Accessor) (name : String) : (a.field name).root = a.root := rfl

@[simp]
theorem var_root (x : String) : (Accessor.var x).root = x := rfl

@[simp]
theorem var_names (x : String) : (Accessor.var x).names = [] := rfl

@[simp]
theorem field_names (a : Accessor) (name : String) : (a.field name).names = a.names ++ [name] := by
  simp [names, field, Segment.name]

theorem field_inj {a : Accessor} {name name' : String} (h : a.field name = a.field name') :
    name = name' := by
  have hnames := congrArg names h
  simpa using hnames

@[simp]
theorem key_names (a : Accessor) (k : String) : (a.key k).names = a.names ++ [k] := by
  simp [names, key, Segment.name]

theorem apart_of_root_ne {a b : Accessor} (h : a.root ≠ b.root) : a.Apart b :=
  fun e => absurd e h

theorem Apart.symm {a b : Accessor} (h : a.Apart b) : b.Apart a :=
  fun hroot => (h hroot.symm).symm

/-- Different fields of one value are apart. -/
theorem apart_field {a : Accessor} {m n : String} (h : m ≠ n) : (a.field m).Apart (a.field n) := by
  intro _
  simp only [field_names]
  refine ⟨fun hp => h ?_, fun hp => h ?_⟩
  · simpa using hp.eq_of_length (by simp)
  · simpa using (hp.eq_of_length (by simp)).symm

end Accessor

namespace Env

/-! ## Following names -/

@[simp]
theorem follow_nil (v : Value) : follow v [] = some v := by
  cases v <;> rfl

theorem follow_cons (v : Value) (name : String) (rest : List String) :
    follow v (name :: rest) = (v.field? name).bind fun w => follow w rest := by
  cases v <;> rfl

theorem follow_null_cons (name : String) (rest : List String) :
    follow .null (name :: rest) = none := rfl

theorem follow_append (v : Value) (p q : List String) :
    follow v (p ++ q) = (follow v p).bind fun w => follow w q := by
  induction p generalizing v with
  | nil => simp
  | cons name rest ih =>
    rw [List.cons_append, follow_cons, follow_cons]
    cases v.field? name with
    | none => rfl
    | some w => exact ih w

theorem follow_concat (v : Value) (slot : List String) (name : String) :
    follow v (slot ++ [name]) = (follow v slot).bind fun s => s.field? name := by
  rw [follow_append]
  congr 1
  funext s
  rw [follow_cons]
  cases s.field? name <;> simp

theorem lookup_eq (e : Env) (a : Accessor) :
    e.lookup a = (e.get? a.root).bind fun v => follow v a.names := rfl

@[simp]
theorem lookup_var (e : Env) (x : String) : e.lookup (.var x) = e.get? x := by
  rw [lookup_eq]
  cases h : e.get? x <;> simp [h]

theorem lookup_field (e : Env) (a : Accessor) (name : String) :
    e.lookup (a.field name) = (e.lookup a).bind fun v => v.field? name := by
  rw [lookup_eq, lookup_eq, Accessor.field_root, Accessor.field_names, Option.bind_assoc]
  congr 1
  funext v
  exact follow_concat v a.names name

theorem read_eq (e : Env) (a : Accessor) : e.read a = (e.lookup a).getD .null := rfl

@[simp]
theorem read_var (e : Env) {x : String} {v : Value} (h : e.get? x = some v) :
    e.read (.var x) = v := by
  rw [read_eq, lookup_var, h, Option.getD_some]

theorem field?_read (e : Env) (a : Accessor) (name : String) :
    (e.read a).field? name = e.lookup (a.field name) := by
  rw [lookup_field, read_eq]
  cases e.lookup a <;> rfl

/-- The value at a path that is there and is not null. -/
def present? (e : Env) (a : Accessor) : Option Value := (e.lookup a).filter fun v => !v.isNull

theorem present?_eq (e : Env) (a : Accessor) :
    e.present? a = if e.isPresent a then some (e.read a) else none := by
  rw [present?, isPresent, read_eq]
  cases e.lookup a with
  | none => rfl
  | some v => cases hv : v.isNull <;> simp [hv]

/-! ## Writing at names -/

theorem write_nil (new v : Value) : write new v [] = .ok new := by
  cases v <;> rfl

/-- A step of a write into an open value: null counts as an object without entries. -/
theorem write_cons_of_open {v : Value} {entries : Entries Value}
    (h : v.openEntries? = some entries) (new : Value) (name : String) (rest : List String) :
    write new v (name :: rest) =
      (write new ((v.field? name).getD .null) rest).map fun w =>
        .obj (Entries.insert entries name w) := by
  cases v <;> cases h <;> rfl

/-- A write stops at the first value on its way that is not open. -/
theorem write_cons_of_closed {v : Value} (h : v.openEntries? = none) (new : Value)
    (name : String) (rest : List String) : write new v (name :: rest) = .error name := by
  cases v <;> first | rfl | cases h

theorem write_cons_ok {new v w : Value} {name : String} {rest : List String}
    (h : write new v (name :: rest) = .ok w) :
    ∃ entries u, v.openEntries? = some entries ∧
      write new ((v.field? name).getD .null) rest = .ok u ∧
      w = .obj (Entries.insert entries name u) := by
  cases hv : v.openEntries? with
  | none => rw [write_cons_of_closed hv] at h; cases h
  | some entries =>
    rw [write_cons_of_open hv] at h
    cases hu : write new ((v.field? name).getD .null) rest with
    | error x => rw [hu] at h; cases h
    | ok u =>
      rw [hu] at h
      cases h
      exact ⟨entries, u, rfl, rfl, rfl⟩

theorem follow_write_self {new v w : Value} {path : List String} (h : write new v path = .ok w) :
    follow w path = some new := by
  induction path generalizing v w with
  | nil =>
    rw [write_nil] at h
    cases h
    exact follow_nil _
  | cons name rest ih =>
    obtain ⟨entries, u, -, hu, rfl⟩ := write_cons_ok h
    rw [follow_cons, Value.field?_obj, Entries.get?_insert_self]
    exact ih hu

theorem follow_write_of_apart {new v w : Value} {path other : List String}
    (h : write new v path = .ok w) (hp : ¬ path <+: other) (ho : ¬ other <+: path) :
    follow w other = follow v other := by
  induction path generalizing v w other with
  | nil => exact absurd List.nil_prefix hp
  | cons name rest ih =>
    obtain ⟨entries, u, hv, hu, rfl⟩ := write_cons_ok h
    cases other with
    | nil => exact absurd List.nil_prefix ho
    | cons head tail =>
      rw [follow_cons, follow_cons, Value.field?_obj]
      by_cases hn : head = name
      · subst hn
        rw [Entries.get?_insert_self]
        rw [List.prefix_cons_inj] at hp ho
        have hi := ih hu hp ho
        rw [Option.bind_some, hi]
        cases hf : v.field? head with
        | some x => rfl
        | none =>
          -- nothing was there before, and `tail` does not stop at the new object itself
          cases tail with
          | nil => exact absurd List.nil_prefix ho
          | cons => rfl
      · rw [Entries.get?_insert_of_ne hn, Value.field?_eq_bind, hv]
        rfl

/-- Into null everything can be written. -/
theorem exists_write_null (new : Value) (path : List String) :
    ∃ w, write new .null path = .ok w := by
  induction path with
  | nil => exact ⟨new, rfl⟩
  | cons name rest ih =>
    obtain ⟨w, hw⟩ := ih
    refine ⟨.obj [(name, w)], ?_⟩
    rw [write, hw]
    rfl

/-- **A write goes through iff every value on its way is open.** -/
theorem exists_write_iff (new v : Value) (path : List String) :
    (∃ w, write new v path = .ok w) ↔
      ∀ k < path.length, ∀ u, follow v (path.take k) = some u →
        u.openEntries?.isSome = true := by
  induction path generalizing v with
  | nil => simp [write_nil]
  | cons name rest ih =>
    constructor
    · rintro ⟨w, h⟩ k hk u hu
      obtain ⟨entries, x, hv, hx, -⟩ := write_cons_ok h
      cases k with
      | zero =>
        rw [List.take_zero, follow_nil] at hu
        cases hu
        rw [hv, Option.isSome_some]
      | succ k =>
        rw [List.take_succ_cons, follow_cons] at hu
        obtain ⟨y, hy, hu⟩ := Option.bind_eq_some_iff.mp hu
        rw [hy, Option.getD_some] at hx
        exact (ih y).mp ⟨x, hx⟩ k (by simpa using hk) u hu
    · intro h
      obtain ⟨entries, hv⟩ := Option.isSome_iff_exists.mp (h 0 (by simp) v (by simp))
      have hrest : ∃ w, write new ((v.field? name).getD .null) rest = .ok w := by
        cases hy : v.field? name with
        | none => exact exists_write_null new rest
        | some y =>
          refine (ih y).mpr fun k hk u hu => h (k + 1) (by simpa using hk) u ?_
          rw [List.take_succ_cons, follow_cons, hy]
          exact hu
      obtain ⟨w, hw⟩ := hrest
      refine ⟨.obj (Entries.insert entries name w), ?_⟩
      rw [write_cons_of_open hv, hw]
      rfl

/-! ## Writing at paths -/

/-- Every existing proper prefix of the path holds null or an object. -/
def Writable (e : Env) (a : Accessor) : Prop :=
  ∀ k < a.segments.length, ∀ v, e.lookup ⟨a.root, a.segments.take k⟩ = some v →
    v = .null ∨ ∃ entries, v = .obj entries

theorem store_eq (e : Env) (a : Accessor) (new : Value) :
    e.store a new =
      match write new ((e.get? a.root).getD .null) a.names with
      | .ok v => .ok (e.insert a.root v)
      | .error name => .error (.notAnObject a.toText name) := rfl

theorem store_ok_iff {e e' : Env} {a : Accessor} {new : Value} :
    e.store a new = .ok e' ↔
      ∃ v, write new ((e.get? a.root).getD .null) a.names = .ok v ∧ e' = e.insert a.root v := by
  rw [store_eq]
  cases write new ((e.get? a.root).getD .null) a.names with
  | error name => simp
  | ok v => simp [eq_comm]

/-- **A path can be written iff every existing proper prefix holds null or an object.** -/
theorem exists_store_iff (e : Env) (a : Accessor) (new : Value) :
    (∃ e', e.store a new = .ok e') ↔ e.Writable a := by
  have hlen : a.names.length = a.segments.length := List.length_map ..
  have hs : (∃ e', e.store a new = .ok e') ↔
      ∃ v, write new ((e.get? a.root).getD .null) a.names = .ok v := by
    simp only [store_ok_iff]
    exact ⟨fun ⟨_, v, h, _⟩ => ⟨v, h⟩, fun ⟨v, h⟩ => ⟨_, v, h, rfl⟩⟩
  rw [hs, exists_write_iff, hlen]
  have htake (k : Nat) : (a.segments.take k).map Segment.name = a.names.take k := List.map_take
  have hlook (k : Nat) : e.lookup ⟨a.root, a.segments.take k⟩ =
      (e.get? a.root).bind fun v => follow v (a.names.take k) := by
    rw [lookup_eq, Accessor.names, htake]
  constructor
  · intro h k hk v hv
    rw [hlook] at hv
    obtain ⟨r, hr, hv⟩ := Option.bind_eq_some_iff.mp hv
    refine Value.openEntries?_isSome_iff.mp (h k hk v ?_)
    rw [hr]
    exact hv
  · intro h k hk v hv
    refine Value.openEntries?_isSome_iff.mpr ?_
    cases hr : e.get? a.root with
    | some r =>
      rw [hr] at hv
      exact h k hk v (by rw [hlook, hr]; exact hv)
    | none =>
      rw [hr, Option.getD_none] at hv
      cases hn : a.names.take k with
      | nil => rw [hn, follow_nil] at hv; cases hv; exact Or.inl rfl
      | cons => rw [hn, follow_null_cons] at hv; cases hv

/-- Every existing prefix of the path, itself included, holds null or an object. -/
def Open (e : Env) (a : Accessor) : Prop :=
  ∀ k ≤ a.segments.length, ∀ v, e.lookup ⟨a.root, a.segments.take k⟩ = some v →
    v = .null ∨ ∃ entries, v = .obj entries

/-- The same as a check. -/
def isOpen (e : Env) (a : Accessor) : Bool :=
  (List.range (a.segments.length + 1)).all fun k =>
    (e.lookup ⟨a.root, a.segments.take k⟩).all fun v => v.openEntries?.isSome

theorem isOpen_iff {e : Env} {a : Accessor} : e.isOpen a = true ↔ e.Open a := by
  unfold isOpen Open
  simp only [List.all_eq_true, List.mem_range, Option.all_eq_true, Value.openEntries?_isSome_iff,
    Nat.lt_succ_iff]

instance (e : Env) (a : Accessor) : Decidable (e.Open a) := decidable_of_iff _ isOpen_iff

/-- A member of a value can be written iff the path to the value is open. -/
theorem writable_field_iff {e : Env} {a : Accessor} {name : String} :
    e.Writable (a.field name) ↔ e.Open a := by
  have hlen : (a.field name).segments.length = a.segments.length + 1 := by simp [Accessor.field]
  have htake (k : Nat) (hk : k ≤ a.segments.length) :
      (a.field name).segments.take k = a.segments.take k :=
    List.take_append_of_le_length hk
  unfold Writable Open
  constructor
  · intro h k hk v hv
    refine h k (by omega) v ?_
    rw [htake k hk]
    exact hv
  · intro h k hk v hv
    rw [htake k (by omega)] at hv
    exact h k (by omega) v hv

theorem Open.of_field {e : Env} {a : Accessor} {name : String} (h : e.Open (a.field name)) :
    e.Open a := by
  intro k hk v hv
  refine h k (by simp only [Accessor.field, List.length_append]; omega) v ?_
  rw [Accessor.field_root, Accessor.field, List.take_append_of_le_length hk]
  exact hv

theorem get?_store_of_ne {e e' : Env} {a : Accessor} {new : Value} (h : e.store a new = .ok e')
    {x : String} (hx : x ≠ a.root) : e'.get? x = e.get? x := by
  obtain ⟨v, -, rfl⟩ := store_ok_iff.mp h
  exact Dict.get?_insert_of_ne hx e v

theorem lookup_of_root_eq {e e' : Env} {a : Accessor} (h : e'.get? a.root = e.get? a.root) :
    e'.lookup a = e.lookup a := by
  rw [lookup_eq, lookup_eq, h]

theorem lookup_store_self {e e' : Env} {a : Accessor} {new : Value} (h : e.store a new = .ok e') :
    e'.lookup a = some new := by
  obtain ⟨v, hv, rfl⟩ := store_ok_iff.mp h
  rw [lookup_eq, Dict.get?_insert_self, Option.bind_some]
  exact follow_write_self hv

/-- A step from a variable that holds an object enters the object. -/
theorem store_of_names_singleton {e : Env} {a : Accessor} {name : String} {entries : Entries Value}
    (ha : a.names = [name]) (h : e.get? a.root = some (.obj entries)) (new : Value) :
    e.store a new = .ok (e.insert a.root (.obj (Entries.insert entries name new))) := by
  refine store_ok_iff.mpr ⟨_, ?_, rfl⟩
  rw [h, Option.getD_some, ha, write_cons_of_open rfl, write_nil]
  rfl

theorem lookup_store_of_apart {e e' : Env} {a b : Accessor} {new : Value}
    (h : e.store a new = .ok e') (hab : a.Apart b) : e'.lookup b = e.lookup b := by
  by_cases hr : a.root = b.root
  · obtain ⟨ha, hb⟩ := hab hr
    obtain ⟨v, hv, rfl⟩ := store_ok_iff.mp h
    rw [lookup_eq, lookup_eq, ← hr, Dict.get?_insert_self, Option.bind_some,
      follow_write_of_apart hv ha hb]
    cases e.get? a.root with
    | some u => rfl
    | none =>
      cases hn : b.names with
      | nil => rw [hn] at hb; exact absurd List.nil_prefix hb
      | cons => rfl
  · exact lookup_of_root_eq (get?_store_of_ne h fun e => hr e.symm)

/-- Writes a list of values in turn. -/
def storeAll (e : Env) (updates : List (Accessor × Value)) : Result Env :=
  updates.foldlM (fun e u => e.store u.1 u.2) e

theorem storeAll_cons (e : Env) (u : Accessor × Value) (rest : List (Accessor × Value)) :
    e.storeAll (u :: rest) = (e.store u.1 u.2).bind fun e => e.storeAll rest := rfl

/-! ## Environments that agree -/

/-- The second environment differs from the first only in variables of `S`. -/
def EqOutside (S : String → Prop) (e e' : Env) : Prop := ∀ x, ¬ S x → e'.get? x = e.get? x

section Agreement

variable {S T : String → Prop} {e e' e'' : Env}

theorem EqOutside.refl (S : String → Prop) (e : Env) : EqOutside S e e := fun _ _ => rfl

theorem EqOutside.trans (h : EqOutside S e e') (h' : EqOutside S e' e'') : EqOutside S e e'' :=
  fun x hx => (h' x hx).trans (h x hx)

theorem EqOutside.mono (h : EqOutside S e e') (hST : ∀ x, S x → T x) : EqOutside T e e' :=
  fun x hx => h x fun hs => hx (hST x hs)

/-- A variable of `S` may be bound. -/
theorem EqOutside.insert (h : EqOutside S e e') {x : String} (hx : S x) (v : Value) :
    EqOutside S e (e'.insert x v) := by
  intro y hy
  have hyx : y ≠ x := fun heq => hy (heq ▸ hx)
  rw [Dict.get?_insert_of_ne hyx]
  exact h y hy

theorem eqOutside_insert (e : Env) {x : String} (hx : S x) (v : Value) :
    EqOutside S e (e.insert x v) :=
  (EqOutside.refl S e).insert hx v

theorem EqOutside.lookup (h : EqOutside S e e') {a : Accessor} (ha : ¬ S a.root) :
    e'.lookup a = e.lookup a :=
  lookup_of_root_eq (h a.root ha)

theorem EqOutside.read (h : EqOutside S e e') {a : Accessor} (ha : ¬ S a.root) :
    e'.read a = e.read a := by
  rw [read_eq, read_eq, h.lookup ha]

theorem EqOutside.isPresent (h : EqOutside S e e') {a : Accessor} (ha : ¬ S a.root) :
    e'.isPresent a = e.isPresent a := by
  rw [Env.isPresent, Env.isPresent, h.lookup ha]

theorem EqOutside.present? (h : EqOutside S e e') {a : Accessor} (ha : ¬ S a.root) :
    e'.present? a = e.present? a := by
  rw [Env.present?, Env.present?, h.lookup ha]

/-- A write outside `S` that goes through in one environment does so in the other. -/
theorem EqOutside.store_ok (h : EqOutside S e e') {a : Accessor} (ha : ¬ S a.root) {v : Value}
    {f : Env} (hf : e.store a v = .ok f) : ∃ f', e'.store a v = .ok f' ∧ EqOutside S f f' := by
  obtain ⟨w, hw, rfl⟩ := store_ok_iff.mp hf
  refine ⟨e'.insert a.root w, store_ok_iff.mpr ⟨w, by rw [h a.root ha]; exact hw, rfl⟩, ?_⟩
  intro x hx
  by_cases hxa : x = a.root
  · rw [hxa, Dict.get?_insert_self, Dict.get?_insert_self]
  · rw [Dict.get?_insert_of_ne hxa, Dict.get?_insert_of_ne hxa]
    exact h x hx

/-- A write outside `S` that stops in one environment stops in the other with the same error. -/
theorem EqOutside.store_error (h : EqOutside S e e') {a : Accessor} (ha : ¬ S a.root) {v : Value}
    {err : GeneratorError} (hf : e.store a v = .error err) : e'.store a v = .error err := by
  rw [store_eq] at hf ⊢
  rw [h a.root ha]
  cases hw : write v ((e.get? a.root).getD .null) a.names with
  | ok w => rw [hw] at hf; cases hf
  | error name => rw [hw] at hf; exact hf

end Agreement

end Env

/-! ## Runs -/

namespace Outcome

@[simp]
theorem andThen_running (e : Env) (f : Env → Outcome) : (running e).andThen f = f e := rfl

theorem andThen_assoc (o : Outcome) (f g : Env → Outcome) :
    (o.andThen f).andThen g = o.andThen fun e => (f e).andThen g := by
  obtain ⟨e, failed⟩ := o
  cases failed <;> rfl

@[simp]
theorem ofResult_ok (e e' : Env) : ofResult e (.ok e') = running e' := rfl

end Outcome

namespace Statement

@[simp]
theorem runAll_nil (e : Env) : runAll [] e = .running e := by
  rw [runAll]

theorem runAll_cons (s : Statement) (rest : List Statement) (e : Env) :
    runAll (s :: rest) e = (run s e).andThen (runAll rest) := by
  rw [runAll]

@[simp]
theorem runAll_singleton (s : Statement) (e : Env) : runAll [s] e = run s e := by
  rw [runAll_cons]
  obtain ⟨e', failed⟩ := run s e
  cases failed <;> simp [Outcome.andThen, Outcome.running]

theorem runAll_append (a b : List Statement) (e : Env) :
    runAll (a ++ b) e = (runAll a e).andThen (runAll b) := by
  induction a generalizing e with
  | nil => simp
  | cons s rest ih =>
    rw [List.cons_append, runAll_cons, runAll_cons, Outcome.andThen_assoc]
    congr 1
    funext e
    exact ih e

end Statement

end ResourceGen
