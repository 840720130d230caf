import ResourceGen.Proofs.Dictionary
import ResourceGen.Proofs.Environment

/-!
# Writes in place

`Env.write` builds the value that a write leaves and does not touch the old one, so a write that
fails leaves nothing behind. A document that is changed in place takes the way step by step
(`Env.walk`): null becomes an object without entries, a step without an entry gets one that holds
null, and only then it shows whether the next step can be taken. What has been made by then would
stay if the walk stopped.

It does not stop then. Whatever is made holds null, and a write into null goes through
(`exists_write_null`), so a walk that stops has only passed entries that were there. Writing in
place is the same as `Env.store` for every environment (`storeInPlace_eq`).

Results:
* `walk_eq`: the walk from a slot leaves what `Env.write` makes of the value there, or nothing new.
* `storeInPlace_eq`, `run_assign_eq`: a write in place is `Env.store`, also as a statement.
* `exists_of_store_error`: the error of a write names the path and the step that is closed.
* `written_storeInPlace`: when a write fails, and what it changes.
-/

namespace ResourceGen

open Json (Value)

/-! ## Names on the way -/

namespace Accessor

/-- The names on the way, that of the variable first. -/
def path (a : Accessor) : List String := a.root :: a.names

theorem apart_iff {a b : Accessor} :
    a.Apart b ↔ ¬ a.path <+: b.path ∧ ¬ b.path <+: a.path := by
  unfold Apart path
  rw [List.cons_prefix_cons, List.cons_prefix_cons]
  by_cases h : a.root = b.root
  · simp [h]
  · simp [h, Ne.symm h]

end Accessor

namespace Env

variable {new v s u : Value} {slot path : List String} {name : String} {entries : Entries Value}

/-! ## Slots -/

/-- The value with another one in a slot, which is reached through objects. -/
def putAt (new : Value) : Value → List String → Value
  | _, [] => new
  | .obj entries, name :: rest =>
    let inner := (Entries.get? entries name).getD .null
    .obj (Entries.insert entries name (putAt new inner rest))
  | v, _ :: _ => v

@[simp]
theorem putAt_nil (new v : Value) : putAt new v [] = new := by
  cases v <;> rfl

theorem putAt_obj_cons (new : Value) (entries : Entries Value) (name : String)
    (rest : List String) :
    putAt new (.obj entries) (name :: rest) =
      .obj (Entries.insert entries name
        (putAt new ((Entries.get? entries name).getD .null) rest)) := rfl

/-- A step is taken into an object, to an entry of it. -/
theorem exists_obj_of_follow_cons {rest : List String} (h : follow v (name :: rest) = some s) :
    ∃ entries u, v = .obj entries ∧ Entries.get? entries name = some u ∧
      follow u rest = some s := by
  rw [follow_cons] at h
  obtain ⟨u, hu, hrest⟩ := Option.bind_eq_some_iff.mp h
  cases v with
  | obj entries => exact ⟨entries, u, rfl, hu, hrest⟩
  | _ => cases hu

theorem follow_putAt_self (h : follow v slot = some s) (new : Value) :
    follow (putAt new v slot) slot = some new := by
  induction slot generalizing v with
  | nil => simp
  | cons name rest ih =>
    obtain ⟨entries, u, rfl, hu, hrest⟩ := exists_obj_of_follow_cons h
    rw [putAt_obj_cons, hu, follow_cons, Value.field?_obj, Entries.get?_insert_self]
    exact ih hrest

/-- Of two values in one slot the later stays. -/
theorem putAt_putAt (new old v : Value) (slot : List String) :
    putAt new (putAt old v slot) slot = putAt new v slot := by
  induction slot generalizing v with
  | nil => simp
  | cons name rest ih =>
    cases v with
    | obj entries =>
      simp only [putAt_obj_cons, Entries.get?_insert_self, Entries.insert_insert,
        Option.getD_some, ih]
    | _ => rfl

/-- A slot of an object in a slot. -/
theorem putAt_concat (h : follow v slot = some (.obj entries)) (new : Value) (name : String) :
    putAt new v (slot ++ [name]) = putAt (.obj (Entries.insert entries name new)) v slot := by
  induction slot generalizing v with
  | nil =>
    rw [follow_nil] at h
    cases h
    simp [putAt_obj_cons]
  | cons head rest ih =>
    obtain ⟨inner, u, rfl, hu, hrest⟩ := exists_obj_of_follow_cons h
    rw [List.cons_append, putAt_obj_cons, putAt_obj_cons, hu, Option.getD_some, ih hrest]

/-! ## A step of the walk -/

/-- The value with an object without entries in the slot, if null was there. -/
def opened (v : Value) (slot : List String) : Value :=
  if (follow v slot).any Value.isNull then putAt (.obj []) v slot else v

/-- The value with an entry in the object in the slot; it holds null unless it was there. -/
def entered (v : Value) (slot : List String) (name : String) : Value :=
  if (follow v (slot ++ [name])).isSome then v else putAt .null v (slot ++ [name])

/-- The slot of an open value holds an object then, and can be filled as before. -/
theorem follow_opened (h : follow v slot = some s) (hs : s.openEntries? = some entries) :
    follow (opened v slot) slot = some (.obj entries) ∧
      ∀ new, putAt new (opened v slot) slot = putAt new v slot := by
  unfold opened
  rw [h]
  cases s with
  | null =>
    cases hs
    exact ⟨follow_putAt_self h _, fun new => putAt_putAt new _ v slot⟩
  | obj =>
    cases hs
    exact ⟨h, fun _ => rfl⟩
  | _ => cases hs

theorem opened_of_closed (h : follow v slot = some s) (hs : s.openEntries? = none) :
    opened v slot = v := by
  unfold opened
  rw [h]
  cases s with
  | null => cases hs
  | _ => rfl

/-- The entry is there then, and what fills it fills that entry of the object. -/
theorem follow_entered (h : follow v slot = some (.obj entries)) (name : String) :
    follow (entered v slot name) (slot ++ [name]) =
        some ((Entries.get? entries name).getD .null) ∧
      ∀ new, putAt new (entered v slot name) (slot ++ [name]) =
        putAt (.obj (Entries.insert entries name new)) v slot := by
  have hentry : follow v (slot ++ [name]) = Entries.get? entries name := by
    rw [follow_concat, h]
    rfl
  unfold entered
  rw [hentry]
  cases hget : Entries.get? entries name with
  | some u => exact ⟨hentry.trans hget, fun new => putAt_concat h new name⟩
  | none =>
    have hslot : follow (putAt .null v (slot ++ [name])) slot =
        some (.obj (Entries.insert entries name .null)) := by
      rw [putAt_concat h, follow_putAt_self h]
    refine ⟨?_, fun new => ?_⟩
    · show follow (putAt .null v (slot ++ [name])) (slot ++ [name]) = some .null
      rw [follow_concat, hslot, Option.bind_some, Value.field?_obj, Entries.get?_insert_self]
    · exact (putAt_putAt new .null v (slot ++ [name])).trans (putAt_concat h new name)

/-- Nothing is made on the way to an entry that is there. -/
theorem entered_opened_of_follow (h : follow v (slot ++ [name]) = some u) :
    entered (opened v slot) slot name = v := by
  have hopened : opened v slot = v := by
    rw [follow_concat] at h
    obtain ⟨s, hs, hu⟩ := Option.bind_eq_some_iff.mp h
    unfold opened
    rw [hs]
    cases s with
    | null => cases hu
    | _ => rfl
  rw [hopened, entered, h]
  rfl

/-! ## The walk -/

/-- Goes on from a slot to the one that takes the new value, making what is missing on the way.
Where the slot holds no object the walk stops: the step comes back, with the value as it has
become. -/
def walk (new v : Value) (slot : List String) : List String → Value × Option String
  | [] => (putAt new v slot, none)
  | name :: rest =>
    let v := opened v slot
    match follow v slot with
    | some (.obj _) => walk new (entered v slot name) (slot ++ [name]) rest
    | _ => (v, some name)

theorem walk_of_obj (h : follow (opened v slot) slot = some (.obj entries)) (new : Value)
    (name : String) (rest : List String) :
    walk new v slot (name :: rest) =
      walk new (entered (opened v slot) slot name) (slot ++ [name]) rest := by
  rw [walk, h]

theorem walk_of_closed (h : follow v slot = some s) (hs : s.openEntries? = none) (new : Value)
    (name : String) (rest : List String) : walk new v slot (name :: rest) = (v, some name) := by
  rw [walk, opened_of_closed h hs, h]
  cases s with
  | obj => cases hs
  | _ => rfl

/-- A write that fails leads into something. -/
theorem isSome_of_write_error {o : Option Value} (h : write new (o.getD .null) path = .error name) :
    o.isSome = true := by
  cases o with
  | some v => rfl
  | none =>
    obtain ⟨w, hw⟩ := exists_write_null new path
    rw [Option.getD_none, hw] at h
    cases h

/-- **The walk from a slot** leaves there what a write makes of the value in the slot. Where the
write fails it stops at the same step, and everything is as it was. -/
theorem walk_eq (h : follow v slot = some s) (new : Value) (path : List String) :
    walk new v slot path =
      match write new s path with
      | .ok w => (putAt w v slot, none)
      | .error name => (v, some name) := by
  induction path generalizing v slot s with
  | nil => rw [write_nil, walk]
  | cons name rest ih =>
    cases hs : s.openEntries? with
    | none => rw [walk_of_closed h hs, write_cons_of_closed hs]
    | some entries =>
      obtain ⟨hobject, hopened⟩ := follow_opened h hs
      obtain ⟨hentry, hentered⟩ := follow_entered hobject name
      have hfield : s.field? name = Entries.get? entries name := by
        rw [Value.field?_eq_bind, hs, Option.bind_some]
      rw [walk_of_obj hobject, ih hentry, write_cons_of_open hs, hfield]
      cases hw : write new ((Entries.get? entries name).getD .null) rest with
      | ok w =>
        show (putAt w (entered (opened v slot) slot name) (slot ++ [name]), none) = _
        rw [hentered, hopened]
        rfl
      | error stopped =>
        -- the entry was there, or the write would have gone through
        obtain ⟨u, hu⟩ := Option.isSome_iff_exists.mp (isSome_of_write_error hw)
        have hthere : follow v (slot ++ [name]) = some u := by
          rw [follow_concat, h, Option.bind_some, hfield, hu]
        show (entered (opened v slot) slot name, some stopped) = _
        rw [entered_opened_of_follow hthere]
        rfl

/-! ## Writing into the environment in place -/

/-- Writes a value at a path by changes in place, from the variable on, which holds null if it is
new. -/
def storeInPlace (e : Env) (a : Accessor) (new : Value) : Outcome :=
  let (v, stopped) := walk new ((e.get? a.root).getD .null) [] a.names
  ⟨e.insert a.root v, stopped.map (.notAnObject a.toText)⟩

/-- **A write in place is the write that leaves the old value alone.** -/
theorem storeInPlace_eq (e : Env) (a : Accessor) (new : Value) :
    e.storeInPlace a new = .ofResult e (e.store a new) := by
  rw [storeInPlace, walk_eq (follow_nil _), store_eq]
  cases hw : write new ((e.get? a.root).getD .null) a.names with
  | ok v => simp [Outcome.ofResult]
  | error name =>
    obtain ⟨v, hv⟩ := Option.isSome_iff_exists.mp (isSome_of_write_error hw)
    simp [Outcome.ofResult, hv, Dict.insert_of_get? hv]

/-- The step at which a write fails leads into a value that is closed. -/
theorem exists_of_write_error (h : write new v path = .error name) :
    ∃ k, path[k]? = some name ∧ ∃ u, follow v (path.take k) = some u ∧ u.openEntries? = none := by
  induction path generalizing v with
  | nil => rw [write_nil] at h; cases h
  | cons head rest ih =>
    cases hv : v.openEntries? with
    | none =>
      rw [write_cons_of_closed hv] at h
      cases h
      exact ⟨0, rfl, v, by simp, hv⟩
    | some entries =>
      rw [write_cons_of_open hv] at h
      cases hw : write new ((v.field? head).getD .null) rest with
      | ok w => rw [hw] at h; cases h
      | error stopped =>
        rw [hw] at h
        cases h
        obtain ⟨x, hx⟩ := Option.isSome_iff_exists.mp (isSome_of_write_error hw)
        rw [hx, Option.getD_some] at hw
        obtain ⟨k, hk, u, hu, hclosed⟩ := ih hw
        exact ⟨k + 1, hk, u, by rw [List.take_succ_cons, follow_cons, hx]; exact hu, hclosed⟩

/-- The error of a write names the path, and the step that is closed. -/
theorem exists_of_store_error {e : Env} {a : Accessor} {err : GeneratorError}
    (h : e.store a new = .error err) :
    ∃ k step, a.segments[k]? = some step ∧ err = .notAnObject a.toText step.name ∧
      ∃ u, e.lookup ⟨a.root, a.segments.take k⟩ = some u ∧ u.openEntries? = none := by
  rw [store_eq] at h
  cases hw : write new ((e.get? a.root).getD .null) a.names with
  | ok v => rw [hw] at h; cases h
  | error name =>
    rw [hw] at h
    cases h
    obtain ⟨r, hr⟩ := Option.isSome_iff_exists.mp (isSome_of_write_error hw)
    rw [hr, Option.getD_some] at hw
    obtain ⟨k, hk, u, hu, hclosed⟩ := exists_of_write_error hw
    rw [Accessor.names, List.getElem?_map] at hk
    obtain ⟨step, hstep, rfl⟩ := Option.map_eq_some_iff.mp hk
    refine ⟨k, step, hstep, rfl, u, ?_, hclosed⟩
    rw [lookup_eq, hr, Option.bind_some, Accessor.names, List.map_take]
    exact hu

/-- What a write of a value at a path leaves of an environment. -/
structure Written (e : Env) (a : Accessor) (new : Value) (o : Outcome) : Prop where
  /-- It fails iff the path leads through something that is neither null nor an object. -/
  failed_iff : o.failed.isSome = true ↔
    ∃ k < a.segments.length, ∃ v, e.lookup ⟨a.root, a.segments.take k⟩ = some v ∧
      v ≠ .null ∧ ∀ entries, v ≠ .obj entries
  /-- A write that fails changes nothing. -/
  unchanged : o.failed.isSome = true → o.env = e
  /-- Otherwise the value is there, -/
  lookup_self : o.failed = none → o.env.lookup a = some new
  /-- and what is neither on the way to it nor inside it is as it was. -/
  lookup_of_apart : o.failed = none →
    ∀ b : Accessor, ¬ a.path <+: b.path → ¬ b.path <+: a.path → o.env.lookup b = e.lookup b

theorem not_writable_iff {e : Env} {a : Accessor} :
    ¬ e.Writable a ↔
      ∃ k < a.segments.length, ∃ v, e.lookup ⟨a.root, a.segments.take k⟩ = some v ∧
        v ≠ .null ∧ ∀ entries, v ≠ .obj entries := by
  simp only [Writable, not_forall, not_or, not_exists, exists_prop]

/-- A write that leaves the old value alone. -/
theorem written_store (e : Env) (a : Accessor) (new : Value) :
    Written e a new (.ofResult e (e.store a new)) := by
  have hwritable := exists_store_iff e a new
  cases h : e.store a new with
  | error err =>
    have hclosed : ¬ e.Writable a := by
      rw [← hwritable, h]
      rintro ⟨e', h'⟩
      cases h'
    exact
      { failed_iff := iff_of_true rfl (not_writable_iff.mp hclosed)
        unchanged := fun _ => rfl
        lookup_self := fun hnone => nomatch hnone
        lookup_of_apart := fun hnone => nomatch hnone }
  | ok e' =>
    exact
      { failed_iff := iff_of_false Bool.false_ne_true
          (mt not_writable_iff.mpr (not_not.mpr (hwritable.mp ⟨e', h⟩)))
        unchanged := fun hsome => nomatch hsome
        lookup_self := fun _ => lookup_store_self h
        lookup_of_apart := fun _ b hab hba =>
          lookup_store_of_apart h (Accessor.apart_iff.mpr ⟨hab, hba⟩) }

/-- **The laws of a write.** A write fails iff there is something on its way that is neither null
nor an object, and then changes nothing, although it is made in place; one that goes through puts
the value at its path and changes no path apart from it. -/
theorem written_storeInPlace (e : Env) (a : Accessor) (new : Value) :
    Written e a new (e.storeInPlace a new) ∧
      e.storeInPlace a new = .ofResult e (e.store a new) := by
  have heq := storeInPlace_eq e a new
  refine ⟨?_, heq⟩
  rw [heq]
  exact written_store e a new

/-- A queue of which only the name is known. -/
def namedQueue : Env :=
  .ofList [("ko", .obj [("Spec", .obj [("Name", .str "jobs")]), ("Status", .null)])]

/-- Where the status is null, an ARN is written with the objects around it, and the name stays;
nothing is written into the name. -/
theorem written_storeInPlace_namedQueue :
    let o := namedQueue.storeInPlace (.parse "ko.Status.ACKResourceMetadata.ARN") (.str "arn:q")
    let o' := namedQueue.storeInPlace (.parse "ko.Spec.Name.First") (.str "j")
    o.env.get? "ko" = some (.obj [("Spec", .obj [("Name", .str "jobs")]),
        ("Status", .obj [("ACKResourceMetadata", .obj [("ARN", .str "arn:q")])])]) ∧
      o.env.lookup (.parse "ko.Status.ACKResourceMetadata.ARN") = some (.str "arn:q") ∧
      o.env.lookup (.parse "ko.Spec.Name") = some (.str "jobs") ∧
      o'.failed = some (.notAnObject "ko.Spec.Name.First" "First") ∧ o'.env = namedQueue := by
  obtain ⟨hgood, -⟩ := written_storeInPlace namedQueue
    (.parse "ko.Status.ACKResourceMetadata.ARN") (.str "arn:q")
  obtain ⟨hbad, -⟩ := written_storeInPlace namedQueue (.parse "ko.Spec.Name.First") (.str "j")
  refine ⟨rfl, hgood.lookup_self rfl, ?_, rfl, hbad.unchanged rfl⟩
  exact hgood.lookup_of_apart rfl (.parse "ko.Spec.Name") (by decide) (by decide)

end Env

namespace Statement

/-- The writes of a program are made in place. -/
theorem run_assign_eq (dest source : Accessor) (kind : AssignKind) (e : Env) :
    run (.assign dest source kind) e = e.storeInPlace dest (e.read source) := by
  rw [Env.storeInPlace_eq, run]

end Statement

end ResourceGen
