import ResourceGen.Error

/-!
# Computations that can stop

How a successful `Result` came about: each step of a sequence has succeeded, and so has each
item of a list that was gone through. An error comes from one step or one item.

Results: `bind_eq_ok_iff`, `mapM_cons_eq_ok_iff`, `exists_of_mem_mapM`, `exists_of_mem_of_mapM`,
`filterMap_of_mapM`, `sublist_of_mapM`, `findSome?_of_mapM`; `map_bind`, `bind_map`, `mapM_map`;
`bind_eq_error_iff`, `exists_of_mapM_eq_error`, `exists_mapM_eq_error`.
-/

namespace ResourceGen.Result

variable {α β : Type}

theorem bind_eq_ok_iff {x : Result α} {f : α → Result β} {r : β} :
    (x >>= f) = .ok r ↔ ∃ a, x = .ok a ∧ f a = .ok r := by
  cases x with
  | error err => exact ⟨fun h => (by cases h), fun ⟨_, h, _⟩ => (by cases h)⟩
  | ok a => exact ⟨fun h => ⟨a, rfl, h⟩, fun ⟨_, h, hf⟩ => by cases h; exact hf⟩

theorem bind_eq_error_iff {x : Result α} {f : α → Result β} {err : GeneratorError} :
    (x >>= f) = .error err ↔ x = .error err ∨ ∃ a, x = .ok a ∧ f a = .error err := by
  cases x with
  | error err' =>
    refine ⟨fun h => Or.inl (by cases h; rfl), ?_⟩
    rintro (h | ⟨_, h, _⟩)
    · cases h
      rfl
    · cases h
  | ok a =>
    refine ⟨fun h => Or.inr ⟨a, rfl, h⟩, ?_⟩
    rintro (h | ⟨_, h, hf⟩)
    · cases h
    · cases h
      exact hf

/-- A step matters only for what the first one gives. -/
theorem bind_congr_ok {x : Result α} {f g : α → Result β} (h : ∀ a, x = .ok a → f a = g a) :
    (x >>= f) = (x >>= g) := by
  cases x with
  | error err => rfl
  | ok a => exact h a rfl

/-- What is done with the result of the second step can be done in it. -/
theorem map_bind {γ : Type} (x : Result α) (f : α → Result β) (k : β → γ) :
    (x >>= f).map k = x >>= fun a => (f a).map k := by
  cases x <;> rfl

/-- What is done with the result of the first step can be done in the second. -/
theorem bind_map {γ : Type} (x : Result α) (k : α → β) (f : β → Result γ) :
    (x.map k >>= f) = x >>= fun a => f (k a) := by
  cases x <;> rfl

theorem map_eq_ok_iff {x : Result α} {k : α → β} {r : β} :
    x.map k = .ok r ↔ ∃ a, x = .ok a ∧ k a = r := by
  cases x with
  | error err =>
    constructor
    · intro h
      cases h
    · rintro ⟨a, h, -⟩
      cases h
  | ok a =>
    constructor
    · intro h
      exact ⟨a, rfl, Except.ok.inj h⟩
    · rintro ⟨b, h, rfl⟩
      cases h
      rfl

@[simp]
theorem pure_eq_ok_iff {a b : α} : (pure a : Result α) = .ok b ↔ a = b :=
  ⟨fun h => (by cases h; rfl), fun h => h ▸ rfl⟩

theorem mapM_nil_eq_ok_iff {f : α → Result β} {r : List β} :
    [].mapM f = .ok r ↔ r = [] := by
  rw [List.mapM_nil, pure_eq_ok_iff, eq_comm]

theorem mapM_cons_eq_ok_iff {f : α → Result β} {a : α} {l : List α} {r : List β} :
    (a :: l).mapM f = .ok r ↔ ∃ b bs, f a = .ok b ∧ l.mapM f = .ok bs ∧ r = b :: bs := by
  rw [List.mapM_cons, bind_eq_ok_iff]
  constructor
  · rintro ⟨b, hb, h⟩
    obtain ⟨bs, hbs, h⟩ := bind_eq_ok_iff.mp h
    exact ⟨b, bs, hb, hbs, (pure_eq_ok_iff.mp h).symm⟩
  · rintro ⟨b, bs, hb, hbs, rfl⟩
    exact ⟨b, hb, bind_eq_ok_iff.mpr ⟨bs, hbs, rfl⟩⟩

theorem mapM_congr {f g : α → Result β} {l : List α} (h : ∀ a ∈ l, f a = g a) :
    l.mapM f = l.mapM g := by
  induction l with
  | nil => rfl
  | cons a l ih =>
    rw [List.mapM_cons, List.mapM_cons, h a List.mem_cons_self,
      ih fun b hb => h b (List.mem_cons_of_mem a hb)]

/-- What is done with every result of a list can be done with the results. -/
theorem mapM_map {γ : Type} (f : α → Result β) (k : β → γ) (l : List α) :
    l.mapM (fun a => (f a).map k) = (l.mapM f).map (List.map k) := by
  induction l with
  | nil => rfl
  | cons a l ih =>
    rw [List.mapM_cons, List.mapM_cons, ih, bind_map, map_bind]
    refine bind_congr_ok fun b _ => ?_
    rw [bind_map, map_bind]
    rfl

/-- Two ways through a list, where the second gives for each item what `k` makes of the result of
the first. -/
theorem map_of_mapM {γ : Type} {f : α → Result β} {g : α → Result γ} {k : β → γ} {l : List α}
    {r : List β} {r' : List γ} (hr : l.mapM f = .ok r) (hr' : l.mapM g = .ok r')
    (h : ∀ a ∈ l, ∀ b c, f a = .ok b → g a = .ok c → c = k b) : r' = r.map k := by
  induction l generalizing r r' with
  | nil =>
    rw [mapM_nil_eq_ok_iff.mp hr, mapM_nil_eq_ok_iff.mp hr']
    rfl
  | cons a l ih =>
    obtain ⟨b, bs, hb, hbs, rfl⟩ := mapM_cons_eq_ok_iff.mp hr
    obtain ⟨c, cs, hc, hcs, rfl⟩ := mapM_cons_eq_ok_iff.mp hr'
    rw [h a List.mem_cons_self b c hb hc, ih hbs hcs fun x hx => h x (List.mem_cons_of_mem a hx),
      List.map_cons]

/-- Two ways through a list that agree on each item. -/
theorem eq_of_mapM {f g : α → Result β} {l : List α} {r r' : List β} (hr : l.mapM f = .ok r)
    (hr' : l.mapM g = .ok r') (h : ∀ a ∈ l, ∀ b b', f a = .ok b → g a = .ok b' → b' = b) :
    r' = r := by
  rw [map_of_mapM (k := id) hr hr' h, List.map_id]

/-- Every result comes from an item. -/
theorem exists_of_mem_mapM {f : α → Result β} {l : List α} {r : List β} (h : l.mapM f = .ok r)
    {b : β} (hb : b ∈ r) : ∃ a ∈ l, f a = .ok b := by
  induction l generalizing r with
  | nil =>
    rw [mapM_nil_eq_ok_iff.mp h] at hb
    cases hb
  | cons a l ih =>
    obtain ⟨b', bs, hb', hbs, rfl⟩ := mapM_cons_eq_ok_iff.mp h
    rcases List.mem_cons.mp hb with rfl | hb
    · exact ⟨a, List.mem_cons_self, hb'⟩
    · obtain ⟨x, hx, hfx⟩ := ih hbs hb
      exact ⟨x, List.mem_cons_of_mem a hx, hfx⟩

/-- Every item has a result. -/
theorem exists_of_mem_of_mapM {f : α → Result β} {l : List α} {r : List β} (h : l.mapM f = .ok r)
    {a : α} (ha : a ∈ l) : ∃ b ∈ r, f a = .ok b := by
  induction l generalizing r with
  | nil => cases ha
  | cons a' l ih =>
    obtain ⟨b', bs, hb', hbs, rfl⟩ := mapM_cons_eq_ok_iff.mp h
    rcases List.mem_cons.mp ha with rfl | ha
    · exact ⟨b', List.mem_cons_self, hb'⟩
    · obtain ⟨b, hb, hfb⟩ := ih hbs ha
      exact ⟨b, List.mem_cons_of_mem b' hb, hfb⟩

/-- The first item that stops gives the error. -/
theorem exists_of_mapM_eq_error {f : α → Result β} {l : List α} {err : GeneratorError}
    (h : l.mapM f = .error err) : ∃ a ∈ l, f a = .error err := by
  induction l with
  | nil => cases h
  | cons a l ih =>
    rw [List.mapM_cons] at h
    rcases bind_eq_error_iff.mp h with h | ⟨b, -, h⟩
    · exact ⟨a, List.mem_cons_self, h⟩
    · rcases bind_eq_error_iff.mp h with h | ⟨bs, -, h⟩
      · obtain ⟨x, hx, hfx⟩ := ih h
        exact ⟨x, List.mem_cons_of_mem a hx, hfx⟩
      · cases h

/-- Any item that stops is enough for an error. -/
theorem exists_mapM_eq_error {f : α → Result β} {l : List α} {a : α} {err : GeneratorError}
    (ha : a ∈ l) (h : f a = .error err) : ∃ err', l.mapM f = .error err' := by
  cases hr : l.mapM f with
  | error err' => exact ⟨err', rfl⟩
  | ok r =>
    obtain ⟨b, -, hb⟩ := exists_of_mem_of_mapM hr ha
    rw [h] at hb
    cases hb

theorem exists_mapM_eq_ok {f : α → Result β} {l : List α} (h : ∀ a ∈ l, ∃ b, f a = .ok b) :
    ∃ r, l.mapM f = .ok r := by
  cases hr : l.mapM f with
  | ok r => exact ⟨r, rfl⟩
  | error err =>
    obtain ⟨a, ha, herr⟩ := exists_of_mapM_eq_error hr
    obtain ⟨b, hb⟩ := h a ha
    rw [hb] at herr
    cases herr

/-- What is kept of the results is told from the items. -/
theorem filterMap_of_mapM {γ : Type} {f : α → Result (Option β)} {g : β → Option γ}
    {k : α → Option γ} {l : List α} {r : List (Option β)} (h : l.mapM f = .ok r)
    (hk : ∀ a ∈ l, ∀ o, f a = .ok o → o.bind g = k a) :
    (r.filterMap id).filterMap g = l.filterMap k := by
  induction l generalizing r with
  | nil =>
    rw [mapM_nil_eq_ok_iff.mp h]
    rfl
  | cons a l ih =>
    obtain ⟨o, os, ho, hos, rfl⟩ := mapM_cons_eq_ok_iff.mp h
    have hrest := ih hos fun b hb => hk b (List.mem_cons_of_mem a hb)
    have hone := hk a List.mem_cons_self o ho
    cases o with
    | none =>
      have hone : k a = none := hone.symm
      rw [List.filterMap_cons_none hone, List.filterMap_cons_none rfl, hrest]
    | some b =>
      have hone : g b = k a := hone
      have hid : (some b :: os).filterMap id = b :: os.filterMap id := rfl
      rw [hid, List.filterMap_cons, List.filterMap_cons, hone, hrest]

/-- What the results are named is named by their items, in order. -/
theorem sublist_of_mapM {γ : Type} {f : α → Result (Option β)} {g : β → γ} {k : α → γ} {l : List α}
    {r : List (Option β)} (h : l.mapM f = .ok r)
    (hk : ∀ a ∈ l, ∀ b, f a = .ok (some b) → g b = k a) :
    ((r.filterMap id).map g).Sublist (l.map k) := by
  induction l generalizing r with
  | nil =>
    rw [mapM_nil_eq_ok_iff.mp h]
    exact List.Sublist.refl _
  | cons a l ih =>
    obtain ⟨o, os, ho, hos, rfl⟩ := mapM_cons_eq_ok_iff.mp h
    have hrest := ih hos fun b hb => hk b (List.mem_cons_of_mem a hb)
    cases o with
    | none => exact hrest.cons (k a)
    | some b =>
      show (g b :: _).Sublist (k a :: _)
      rw [hk a List.mem_cons_self b ho]
      exact hrest.cons_cons (k a)

/-- What is found first among the results is told from the first item that gives it. -/
theorem findSome?_of_mapM {γ : Type} {f : α → Result β} {g : β → Option γ} {p : α → Bool}
    {k : α → γ} {l : List α} {r : List β} (h : l.mapM f = .ok r)
    (hg : ∀ a ∈ l, ∀ b, f a = .ok b → g b = if p a then some (k a) else none) :
    r.findSome? g = (l.find? p).map k := by
  induction l generalizing r with
  | nil =>
    rw [mapM_nil_eq_ok_iff.mp h]
    rfl
  | cons a l ih =>
    obtain ⟨b, bs, hb, hbs, rfl⟩ := mapM_cons_eq_ok_iff.mp h
    have hone := hg a List.mem_cons_self b hb
    cases hp : p a with
    | true =>
      rw [hp, if_pos rfl] at hone
      rw [List.findSome?_cons_of_isSome (by rw [hone]; rfl), List.find?_cons_of_pos hp, hone]
      rfl
    | false =>
      rw [hp, if_neg (by decide)] at hone
      have hnot : ¬ p a = true := by rw [hp]; decide
      rw [List.findSome?_cons_of_isNone (by rw [hone]; rfl), List.find?_cons_of_neg hnot]
      exact ih hbs fun x hx => hg x (List.mem_cons_of_mem a hx)

end ResourceGen.Result
