import Mathlib.Data.List.Sort
import ResourceGen.Dict

/-!
# Entries of a dictionary

What a dictionary holds, as entries: a key is looked up exactly when its pair is an entry, since
keys are strictly ascending. `Dict.ofList` enters pairs in turn.

Results:
* `mem_entries_iff`: `(k, v)` is an entry iff `k` is looked up as `v`.
* `get?_insert`, `contains_insert`: what a write does to every key.
* `ofList_of_ascending`: pairs that are in key order already stay as they are.
* `get?_foldl_insert`, `contains_foldl_insert`: what is there after entering items in turn.
* `get?_insertAll_filterMap`: what is entered for items with different keys is found again.
* `insert_insert`, `insert_of_get?`: a key written twice, and a value written where it is.
* `insertAll_map`, `insert_mapValues`: values can be changed before or after they are entered.
* `filterMap_insert`: an entry that is not kept can be entered anywhere.
* `get?_ofList_filterMap`: what is kept of the entries of a dictionary is found under its key.
* `get?_ofList_iff`: pairs with different keys are held as they are.
* `ext_get?`: dictionaries that hold the same are equal; so the order does not matter in which items
  with different keys are entered (`foldl_insert_congr`).
-/

namespace ResourceGen

variable {α : Type}

namespace Entries

theorem mem_of_get? {l : Entries α} {k : String} {v : α} (h : get? l k = some v) : (k, v) ∈ l := by
  induction l with
  | nil => cases h
  | cons e rest ih =>
    obtain ⟨key, w⟩ := e
    rw [get?] at h
    split at h
    · rename_i hk
      cases h
      rw [hk]
      exact List.mem_cons_self
    · exact List.mem_cons_of_mem _ (ih h)

theorem get?_of_mem {l : Entries α} (hl : l.Ascending) {k : String} {v : α} (h : (k, v) ∈ l) :
    get? l k = some v := by
  induction l with
  | nil => cases h
  | cons e rest ih =>
    obtain ⟨key, w⟩ := e
    obtain ⟨hd, tl⟩ := List.pairwise_cons.mp hl
    rw [get?]
    rcases List.mem_cons.mp h with h | h
    · cases h
      rw [if_pos rfl]
    · have hlt : key < k := hd _ h
      have hne : key ≠ k := fun hk => String.lt_irrefl k (hk ▸ hlt)
      rw [if_neg hne]
      exact ih tl h

/-- Enters pairs in turn. -/
def insertAll (l : Entries α) (pairs : List (String × α)) : Entries α :=
  pairs.foldl (fun d e => insert d e.1 e.2) l

@[simp]
theorem insertAll_nil (l : Entries α) : insertAll l [] = l := rfl

@[simp]
theorem insertAll_cons (l : Entries α) (e : String × α) (pairs : List (String × α)) :
    insertAll l (e :: pairs) = insertAll (insert l e.1 e.2) pairs := rfl

theorem insertAll_append (l : Entries α) (p q : List (String × α)) :
    insertAll l (p ++ q) = insertAll (insertAll l p) q :=
  List.foldl_append

/-- A key greater than all others is entered at the end. -/
theorem insert_of_forall_lt {l : Entries α} {k : String} {v : α} (h : ∀ e ∈ l, e.1 < k) :
    insert l k v = l ++ [(k, v)] := by
  induction l with
  | nil => rfl
  | cons e rest ih =>
    obtain ⟨key, w⟩ := e
    have hlt : key < k := h (key, w) List.mem_cons_self
    have hne : key ≠ k := fun hk => String.lt_irrefl k (hk ▸ hlt)
    have hnlt : ¬ k < key := fun hk => String.lt_irrefl k (String.lt_trans hk hlt)
    rw [insert, if_neg hne, if_neg hnlt, ih fun e he => h e (List.mem_cons_of_mem _ he)]
    rfl

theorem insertAll_of_ascending {l pairs : Entries α} (h : Ascending (l ++ pairs)) :
    insertAll l pairs = l ++ pairs := by
  induction pairs generalizing l with
  | nil => simp
  | cons e pairs ih =>
    obtain ⟨k, v⟩ := e
    have hlt : ∀ e ∈ l, e.1 < k := fun e he =>
      (List.pairwise_append.mp h).2.2 e he (k, v) List.mem_cons_self
    have happ : l ++ (k, v) :: pairs = (l ++ [(k, v)]) ++ pairs := by simp
    rw [insertAll_cons, insert_of_forall_lt hlt, happ]
    rw [happ] at h
    exact ih h

/-- Of two values written for one key the later stays. -/
theorem insert_insert (l : Entries α) (k : String) (v w : α) :
    insert (insert l k v) k w = insert l k w := by
  induction l with
  | nil => simp [insert]
  | cons e rest ih =>
    obtain ⟨key, x⟩ := e
    rw [insert, insert.eq_def ((key, x) :: rest) k w]
    by_cases hk : key = k
    · simp [hk, insert]
    · by_cases hlt : k < key
      · simp [hk, hlt, insert]
      · simp [hk, hlt, insert, ih]

/-- Changing the values does not matter to where they are entered. -/
theorem insert_map {β : Type} (f : α → β) (l : Entries α) (k : String) (v : α) :
    insert (l.map fun e => (e.1, f e.2)) k (f v) =
      (insert l k v).map fun e => (e.1, f e.2) := by
  induction l with
  | nil => rfl
  | cons e rest ih =>
    obtain ⟨key, w⟩ := e
    rw [List.map_cons, insert, insert]
    by_cases hk : key = k
    · rw [if_pos hk, if_pos hk, List.map_cons]
    · by_cases hlt : k < key
      · rw [if_neg hk, if_pos hlt, if_neg hk, if_pos hlt, List.map_cons, List.map_cons]
      · rw [if_neg hk, if_neg hlt, if_neg hk, if_neg hlt, List.map_cons, ih]

/-- What is left out whenever it is under a key does not show in what is kept. -/
theorem filterMap_insert {β : Type} {g : α → Option β} {l : Entries α} {k : String} {v : α}
    (hv : g v = none) (hl : ∀ e ∈ l, e.1 = k → g e.2 = none) :
    (insert l k v).filterMap (fun e => g e.2) = l.filterMap fun e => g e.2 := by
  induction l with
  | nil => simp [insert, hv]
  | cons e rest ih =>
    obtain ⟨key, w⟩ := e
    have ih := ih fun e he => hl e (List.mem_cons_of_mem _ he)
    rw [insert]
    by_cases hk : key = k
    · have hw : g w = none := hl (key, w) List.mem_cons_self hk
      rw [if_pos hk]
      simp [hv, hw]
    · by_cases hlt : k < key
      · rw [if_neg hk, if_pos hlt]
        simp [hv]
      · rw [if_neg hk, if_neg hlt, List.filterMap_cons, List.filterMap_cons, ih]

theorem insertAll_map {β : Type} (f : α → β) (l pairs : Entries α) :
    insertAll (l.map fun e => (e.1, f e.2)) (pairs.map fun e => (e.1, f e.2)) =
      (insertAll l pairs).map fun e => (e.1, f e.2) := by
  induction pairs generalizing l with
  | nil => rfl
  | cons p pairs ih =>
    rw [List.map_cons, insertAll_cons, insertAll_cons, insert_map, ih]

/-- Pairs for other keys leave a key as it is. -/
theorem get?_insertAll_of_forall_ne {l pairs : Entries α} {k : String}
    (h : ∀ p ∈ pairs, p.1 ≠ k) : get? (insertAll l pairs) k = get? l k := by
  induction pairs generalizing l with
  | nil => rfl
  | cons p pairs ih =>
    have hp : k ≠ p.1 := (h p List.mem_cons_self).symm
    rw [insertAll_cons, ih fun q hq => h q (List.mem_cons_of_mem p hq), get?_insert_of_ne hp]

/-- What is entered for one of several items with different keys is found under its key. -/
theorem get?_insertAll_filterMap {β : Type} (key : β → String) (g : β → Option α) {items : List β}
    (hkeys : (items.map key).Nodup) {x : β} (hx : x ∈ items) {l : Entries α}
    (hl : get? l (key x) = none) :
    get? (insertAll l (items.filterMap fun y => (g y).map fun v => (key y, v))) (key x) = g x := by
  induction items generalizing l with
  | nil => cases hx
  | cons y rest ih =>
    rw [List.map_cons, List.nodup_cons] at hkeys
    have hcons : (y :: rest).filterMap (fun y => (g y).map fun v => (key y, v)) =
        ((g y).map fun v => (key y, v)).toList ++
          rest.filterMap fun y => (g y).map fun v => (key y, v) := by
      rw [List.filterMap_cons]
      cases g y <;> rfl
    rw [hcons, insertAll_append]
    rcases List.mem_cons.mp hx with rfl | hx
    · rw [get?_insertAll_of_forall_ne]
      · cases hg : g x with
        | none => exact hl
        | some v => exact get?_insert_self _ _ _
      · intro p hp heq
        obtain ⟨z, hz, hzp⟩ := List.mem_filterMap.mp hp
        obtain ⟨v, -, rfl⟩ := Option.map_eq_some_iff.mp hzp
        exact hkeys.1 (heq ▸ List.mem_map_of_mem hz)
    · refine ih hkeys.2 hx ?_
      have hne : key x ≠ key y := fun heq => hkeys.1 (heq ▸ List.mem_map_of_mem hx)
      cases g y with
      | none => exact hl
      | some v => exact (get?_insert_of_ne hne l v).trans hl

end Entries

namespace Dict

theorem mem_entries_iff {d : Dict α} {k : String} {v : α} :
    (k, v) ∈ d.entries ↔ d.get? k = some v :=
  ⟨Entries.get?_of_mem d.ascending, Entries.mem_of_get?⟩

theorem mem_keys_iff {d : Dict α} {k : String} : k ∈ d.keys ↔ ∃ v, d.get? k = some v := by
  constructor
  · intro h
    obtain ⟨e, he, rfl⟩ := List.mem_map.mp h
    exact ⟨e.2, mem_entries_iff.mp he⟩
  · rintro ⟨v, h⟩
    exact List.mem_map_of_mem (mem_entries_iff.mpr h)

theorem mem_values_of_get? {d : Dict α} {k : String} {v : α} (h : d.get? k = some v) :
    v ∈ d.values :=
  List.mem_map_of_mem (mem_entries_iff.mpr h)

theorem exists_get?_of_mem_values {d : Dict α} {v : α} (h : v ∈ d.values) :
    ∃ k, d.get? k = some v := by
  obtain ⟨⟨k, v⟩, hmem, rfl⟩ := List.mem_map.mp h
  exact ⟨k, mem_entries_iff.mp hmem⟩

theorem get?_insert (d : Dict α) (k q : String) (v : α) :
    (d.insert k v).get? q = if q = k then some v else d.get? q := by
  split
  · rename_i h
    rw [h, get?_insert_self]
  · rename_i h
    exact get?_insert_of_ne h d v

theorem contains_insert (d : Dict α) (k q : String) (v : α) :
    (d.insert k v).contains q = (decide (q = k) || d.contains q) := by
  rw [contains, get?_insert]
  split <;> simp_all [contains]

theorem entries_foldl_insert (d : Dict α) (l : List (String × α)) :
    (l.foldl (fun d e => d.insert e.1 e.2) d).entries = Entries.insertAll d.entries l := by
  induction l generalizing d with
  | nil => rfl
  | cons e rest ih => exact ih (d.insert e.1 e.2)

theorem entries_ofList (l : List (String × α)) :
    (ofList l).entries = Entries.insertAll [] l :=
  entries_foldl_insert empty l

theorem ofList_of_ascending {l : Entries α} (h : l.Ascending) : (ofList l).entries = l := by
  rw [entries_ofList]
  exact Entries.insertAll_of_ascending h

/-- After entering items in turn, a value is that of an item or was there before. -/
theorem get?_foldl_insert {β : Type} (key : β → String) (val : β → α) {l : List β} {d : Dict α}
    {k : String} {v : α} (h : (l.foldl (fun d x => d.insert (key x) (val x)) d).get? k = some v) :
    (∃ x ∈ l, key x = k ∧ val x = v) ∨ d.get? k = some v := by
  induction l generalizing d with
  | nil => exact Or.inr h
  | cons x rest ih =>
    rcases ih h with ⟨y, hy, hky⟩ | h
    · exact Or.inl ⟨y, List.mem_cons_of_mem _ hy, hky⟩
    · rw [get?_insert] at h
      split at h
      · rename_i hk
        cases h
        exact Or.inl ⟨x, List.mem_cons_self, hk.symm, rfl⟩
      · exact Or.inr h

theorem contains_foldl_insert {β : Type} (key : β → String) (val : β → α) {l : List β}
    {d : Dict α} {k : String} (h : d.contains k = true ∨ ∃ x ∈ l, key x = k) :
    (l.foldl (fun d x => d.insert (key x) (val x)) d).contains k = true := by
  induction l generalizing d with
  | nil =>
    rcases h with h | ⟨x, hx, -⟩
    · exact h
    · cases hx
  | cons x rest ih =>
    refine ih ?_
    rw [contains_insert]
    rcases h with h | ⟨y, hy, rfl⟩
    · simp [h]
    · rcases List.mem_cons.mp hy with rfl | hy
      · simp
      · exact Or.inr ⟨y, hy, rfl⟩

theorem mem_sortedKeys {l : List String} {k : String} : k ∈ sortedKeys l ↔ k ∈ l := by
  rw [sortedKeys, mem_keys_iff]
  constructor
  · rintro ⟨v, h⟩
    rcases get?_foldl_insert Prod.fst Prod.snd h with ⟨x, hx, rfl, -⟩ | h
    · obtain ⟨y, hy, rfl⟩ := List.mem_map.mp hx
      exact hy
    · cases h
  · intro h
    refine Option.isSome_iff_exists.mp (contains_foldl_insert Prod.fst Prod.snd (Or.inr ?_))
    exact ⟨(k, ()), List.mem_map_of_mem h, rfl⟩

/-- Keeping entries by key and value, with other values. -/
theorem get?_ofList_filterMap {β : Type} (d : Dict α) (g : String → α → Option β) (k : String) :
    (ofList (d.entries.filterMap fun e => (g e.1 e.2).map fun v => (e.1, v))).get? k =
      (d.get? k).bind (g k) := by
  have hascending : Entries.Ascending
      (d.entries.filterMap fun e => (g e.1 e.2).map fun v => (e.1, v)) := by
    refine List.Pairwise.filterMap _ (fun a b hab a' ha b' hb => ?_) d.ascending
    obtain ⟨v, -, rfl⟩ := Option.map_eq_some_iff.mp ha
    obtain ⟨w, -, rfl⟩ := Option.map_eq_some_iff.mp hb
    exact hab
  refine Option.ext fun v => ?_
  rw [← mem_entries_iff, ofList_of_ascending hascending, List.mem_filterMap,
    Option.bind_eq_some_iff]
  constructor
  · rintro ⟨⟨key, a⟩, hmem, h⟩
    obtain ⟨w, hw, heq⟩ := Option.map_eq_some_iff.mp h
    cases heq
    exact ⟨a, mem_entries_iff.mp hmem, hw⟩
  · rintro ⟨a, ha, hv⟩
    exact ⟨(k, a), mem_entries_iff.mpr ha, Option.map_eq_some_iff.mpr ⟨v, hv, rfl⟩⟩

/-- **Dictionaries that hold the same are equal.** -/
theorem ext_get? {d e : Dict α} (h : ∀ k v, d.get? k = some v ↔ e.get? k = some v) : d = e := by
  have hirrefl : Std.Irrefl fun a b : String × α => a.1 < b.1 := ⟨fun a => String.lt_irrefl a.1⟩
  have hantisymm : Std.Antisymm fun a b : String × α => a.1 < b.1 :=
    ⟨fun a b hab hba => absurd (String.lt_trans hab hba) (String.lt_irrefl a.1)⟩
  refine ext (List.Pairwise.eq_of_mem_iff d.ascending e.ascending fun x => ?_)
  exact mem_entries_iff.trans ((h x.1 x.2).trans mem_entries_iff.symm)

/-- A value that is written where it is already changes nothing. -/
theorem insert_of_get? {d : Dict α} {k : String} {v : α} (h : d.get? k = some v) :
    d.insert k v = d := by
  refine ext_get? fun q w => ?_
  rw [get?_insert]
  split
  · rename_i hq
    rw [hq, h]
  · exact Iff.rfl

theorem get?_mapValues {β : Type} (f : String → α → β) (d : Dict α) (k : String) :
    (d.mapValues f).get? k = (d.get? k).map (f k) := by
  refine Option.ext fun v => ?_
  rw [← mem_entries_iff, Option.map_eq_some_iff]
  constructor
  · intro h
    obtain ⟨⟨key, a⟩, hmem, heq⟩ := List.mem_map.mp h
    cases heq
    exact ⟨a, mem_entries_iff.mp hmem, rfl⟩
  · rintro ⟨a, ha, rfl⟩
    exact List.mem_map.mpr ⟨(k, a), mem_entries_iff.mpr ha, rfl⟩

/-- Changing the values does not change which keys there are. -/
theorem contains_mapValues {β : Type} (f : String → α → β) (d : Dict α) (k : String) :
    (d.mapValues f).contains k = d.contains k := by
  unfold contains
  rw [get?_mapValues, Option.isSome_map]

theorem insert_mapValues {β : Type} (f : α → β) (d : Dict α) (k : String) (v : α) :
    (d.mapValues fun _ x => f x).insert k (f v) = (d.insert k v).mapValues fun _ x => f x :=
  ext (Entries.insert_map f d.entries k v)

theorem values_mapValues {β : Type} (f : String → α → β) (d : Dict α) :
    (d.mapValues f).values = d.entries.map fun e => f e.1 e.2 :=
  List.map_map

/-- What is there after entering items with different keys. -/
theorem get?_foldl_insert_iff {key : α → String} {l : List α}
    (hkeys : ∀ x ∈ l, ∀ y ∈ l, key x = key y → x = y) {k : String} {v : α} :
    (l.foldl (fun d x => d.insert (key x) x) empty).get? k = some v ↔ v ∈ l ∧ key v = k := by
  constructor
  · intro h
    rcases get?_foldl_insert key (fun x => x) h with ⟨x, hx, hk, rfl⟩ | h
    · exact ⟨hx, hk⟩
    · cases h
  · rintro ⟨hv, rfl⟩
    have hfound : (l.foldl (fun d x => d.insert (key x) x) empty).contains (key v) = true :=
      contains_foldl_insert key (fun x => x) (Or.inr ⟨v, hv, rfl⟩)
    obtain ⟨w, hw⟩ := Option.isSome_iff_exists.mp hfound
    rcases get?_foldl_insert key (fun x => x) hw with ⟨x, hx, hk, rfl⟩ | h
    · rw [hw, hkeys x hx v hv hk]
    · cases h

/-- A list of pairs with different keys is a dictionary. -/
theorem get?_ofList_iff {l : List (String × α)} (hkeys : (l.map Prod.fst).Nodup) {k : String}
    {v : α} : (ofList l).get? k = some v ↔ (k, v) ∈ l := by
  constructor
  · intro h
    rcases get?_foldl_insert Prod.fst Prod.snd h with ⟨x, hx, rfl, rfl⟩ | h
    · exact hx
    · cases h
  · intro h
    have hfound : (ofList l).contains k = true :=
      contains_foldl_insert Prod.fst Prod.snd (Or.inr ⟨(k, v), h, rfl⟩)
    obtain ⟨w, hw⟩ := Option.isSome_iff_exists.mp hfound
    rcases get?_foldl_insert Prod.fst Prod.snd hw with ⟨x, hx, hk, rfl⟩ | h'
    · rw [hw, List.inj_on_of_nodup_map hkeys hx h hk]
    · cases h'

/-- **The order does not matter** in which items with different keys are entered. -/
theorem foldl_insert_congr {key : α → String} {l l' : List α} (h : ∀ x, x ∈ l ↔ x ∈ l')
    (hkeys : ∀ x ∈ l, ∀ y ∈ l, key x = key y → x = y) :
    l.foldl (fun d x => d.insert (key x) x) empty =
      l'.foldl (fun d x => d.insert (key x) x) empty := by
  have hkeys' : ∀ x ∈ l', ∀ y ∈ l', key x = key y → x = y := fun x hx y hy =>
    hkeys x ((h x).mpr hx) y ((h y).mpr hy)
  refine ext_get? fun k v => ?_
  rw [get?_foldl_insert_iff hkeys, get?_foldl_insert_iff hkeys', h]

end Dict

end ResourceGen
