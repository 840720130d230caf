import Mathlib.Data.List.Induction
import Mathlib.Data.List.Nodup
import ResourceGen.Json.Decode
import ResourceGen.Proofs.Dictionary

/-!
# Properties of records

A record is written as an object, or as an array that lists the values in the declared order.
`Value.property?` looks a property up in either form, without decoding the record. Decoding finds
the same: the slots of a record are its properties, and a dictionary holds what is read from the
last entry of each key.

Results:
* `slots_eq`: the slots of a record are its properties.
* `get?_of_toDict?`: what a dictionary holds is read from the entry that stays.
* `mem_iff_of_withDefault`, `eq_some_iff_of_optional`: lists and optional fields of a record hold what
  their values say.
-/

namespace ResourceGen

namespace Entries

variable {α : Type}

theorem get?_eq_find? (l : Entries α) (k : String) :
    get? l k = (l.find? (·.1 == k)).map (·.2) := by
  induction l with
  | nil => rfl
  | cons e rest ih =>
    obtain ⟨key, v⟩ := e
    rw [get?, List.find?_cons, ih]
    by_cases hk : key = k
    · simp [hk]
    · simp [hk, beq_eq_false_iff_ne.mpr hk]

/-- Leaving out the entries of another key. -/
theorem get?_filter_ne {k q : String} (h : q ≠ k) (l : Entries α) :
    get? (l.filter (·.1 != k)) q = get? l q := by
  rw [get?_eq_find?, get?_eq_find?, List.find?_filter]
  congr 2
  funext e
  by_cases he : e.1 = q
  · simp [he, h]
  · simp [he]

/-- What is read entry by entry is read from the first entry of each key. -/
theorem get?_of_map_eq {β : Type} {read : α → Option β} {l : Entries α} {r : Entries β}
    (h : (l.map fun e => (read e.2).bind fun v => some (e.1, v)) = r.map some) (k : String) :
    (get? l k).map read = (get? r k).map some := by
  induction l generalizing r with
  | nil =>
    cases r with
    | nil => rfl
    | cons e r => cases h
  | cons e l ih =>
    obtain ⟨key, w⟩ := e
    cases r with
    | nil => cases h
    | cons p r =>
      rw [List.map_cons, List.map_cons, List.cons.injEq] at h
      obtain ⟨v, hv, hp⟩ := Option.bind_eq_some_iff.mp h.1
      cases hp
      rw [get?, get?]
      by_cases hk : key = k
      · rw [if_pos hk, if_pos hk, Option.map_some, Option.map_some, hv]
      · rw [if_neg hk, if_neg hk, ih h.2]

end Entries

namespace Dict

variable {α : Type}

/-- Of equal keys the last stays. -/
theorem get?_ofList (l : List (String × α)) (k : String) :
    (ofList l).get? k = Entries.get? l.reverse k := by
  induction l using List.reverseRec with
  | nil => rfl
  | append_singleton l e ih =>
    have hlast : ofList (l ++ [e]) = (ofList l).insert e.1 e.2 := List.foldl_concat ..
    rw [hlast, get?_insert, List.reverse_concat, Entries.get?, ih]
    simp only [eq_comm]

/-- The keys after entering items in turn. -/
theorem mem_keys_foldl_insert {β : Type} (key : β → String) (val : β → α) {l : List β} {d : Dict α}
    {k : String} : k ∈ (l.foldl (fun d x => d.insert (key x) (val x)) d).keys ↔
      (∃ x ∈ l, key x = k) ∨ k ∈ d.keys := by
  rw [mem_keys_iff, mem_keys_iff]
  constructor
  · rintro ⟨v, h⟩
    exact (get?_foldl_insert key val h).imp (fun ⟨x, hx, hk, _⟩ => ⟨x, hx, hk⟩) fun h => ⟨v, h⟩
  · intro h
    refine Option.isSome_iff_exists.mp (contains_foldl_insert key val ?_)
    exact h.symm.imp (fun ⟨v, h⟩ => Option.isSome_iff_exists.mpr ⟨v, h⟩) fun h => h

end Dict

namespace Json

open Value

variable {α : Type}

/-- All items are read. -/
theorem map_of_mapM {β : Type} {f : α → Option β} {l : List α} {r : List β}
    (h : l.mapM f = some r) : l.map f = r.map some := by
  induction l generalizing r with
  | nil =>
    rw [List.mapM_nil] at h
    cases h
    rfl
  | cons a l ih =>
    rw [List.mapM_cons] at h
    obtain ⟨b, hb, h⟩ := Option.bind_eq_some_iff.mp h
    obtain ⟨bs, hbs, h⟩ := Option.bind_eq_some_iff.mp h
    cases h
    rw [List.map_cons, List.map_cons, hb, ih hbs]

/-! ## Slots -/

/-- The value of a property of a record: the first entry of an object for its name, or the item of
an array at the place of the name among the declared ones. -/
def Value.property? (declared : List String) (name : String) : Value → Option Value
  | obj entries => Entries.get? entries name
  | arr items => items[declared.idxOf name]?
  | _ => none

theorem slot_eq {entries : List (String × Value)} {name : String} {s : Slot}
    (h : slot? entries name = some s) : Entries.get? entries name = s := by
  rw [Entries.get?_eq_find?, ← List.head?_filter]
  unfold slot? at h
  split at h
  · rename_i hf
    cases h
    rw [hf]
    rfl
  · rename_i hf
    cases h
    rw [hf]
    rfl
  · cases h

/-- **The slots of a record are its properties.** -/
theorem slots_eq {declared : List String} (hdeclared : declared.Nodup) {v : Value}
    {slots : List Slot} (h : v.slots? declared = some slots) :
    slots = declared.map fun name => v.property? declared name := by
  unfold slots? at h
  split at h
  case h_1 entries =>
    have hslots := map_of_mapM h
    have hlength : slots.length = declared.length := by
      simpa using (congrArg List.length hslots).symm
    refine List.ext_getElem (by simpa using hlength) fun i hi hi' => ?_
    have hi'' : i < declared.length := by omega
    have hslot : slot? entries declared[i] = some slots[i] := by
      have hget := congrArg (·[i]?) hslots
      simpa [hi, hi''] using hget
    rw [List.getElem_map]
    exact (slot_eq hslot).symm
  case h_2 items =>
    split at h
    · rename_i hle
      cases h
      refine List.ext_getElem (by simp; omega) fun i hi hi' => ?_
      have hi'' : i < declared.length := by simpa using hi'
      rw [List.getElem_map]
      show _ = items[declared.idxOf declared[i]]?
      rw [hdeclared.idxOf_getElem i hi'', List.getElem_append]
      split
      · rename_i hlt
        have hlt : i < items.length := by simpa using hlt
        simp [hlt]
      · rename_i hge
        have hge : items.length ≤ i := by simpa using hge
        simp [hge]
    · cases h
  case h_3 => cases h

/-! ## What fields hold -/

/-- **A dictionary holds what is read from the last entry of each key**, and these can all be
read. -/
theorem get?_of_toDict? {read : Value → Option α} {v : Value} {d : Dict α}
    (h : v.toDict? read = some d) (k : String) :
    (v.lastField? k).map read = (d.get? k).map some := by
  unfold toDict? at h
  split at h
  · rename_i entries
    obtain ⟨pairs, hpairs, h⟩ := Option.bind_eq_some_iff.mp h
    cases h
    have hmap := congrArg List.reverse (map_of_mapM hpairs)
    rw [← List.map_reverse, ← List.map_reverse] at hmap
    rw [Dict.get?_ofList]
    exact Entries.get?_of_map_eq hmap k
  · cases h

section Fields

variable {read : Value → Option α} {means : Value → α → Prop}

/-- **A list in a record holds what its items say**; without the list it is empty. -/
theorem mem_iff_of_withDefault (hread : ∀ v b, read v = some b → ∀ a, means v a ↔ b = a) {s : Slot}
    {l : List α} (h : s.withDefault (Value.toList? read) [] = some l) (a : α) :
    a ∈ l ↔ ∃ items, s = some (.arr items) ∧ ∃ v ∈ items, means v a := by
  unfold Slot.withDefault at h
  cases s with
  | none =>
    cases h
    simp
  | some v =>
    simp only at h
    unfold toList? at h
    split at h
    · rename_i items
      have hmap := map_of_mapM h
      constructor
      · intro ha
        have hmem : some a ∈ items.map read := hmap ▸ List.mem_map_of_mem ha
        obtain ⟨v, hv, hva⟩ := List.mem_map.mp hmem
        exact ⟨items, rfl, v, hv, (hread v a hva a).mpr rfl⟩
      · rintro ⟨_, heq, v, hv, hmeans⟩
        cases heq
        have hmem : read v ∈ l.map some := hmap ▸ List.mem_map_of_mem hv
        obtain ⟨b, hb, hvb⟩ := List.mem_map.mp hmem
        exact (hread v b hvb.symm a).mp hmeans ▸ hb
    · cases h

/-- A field that may be missing or null holds what its value says. -/
theorem eq_some_iff_of_optional (hread : ∀ v b, read v = some b → ∀ a, means v a ↔ b = a)
    (hnull : ∀ a, ¬ means .null a) {s : Slot} {o : Option α} (h : s.optional read = some o) (a : α) :
    o = some a ↔ ∃ v, s = some v ∧ means v a := by
  unfold Slot.optional at h
  split at h
  · cases h
    simp
  · cases h
    simp [hnull]
  · rename_i v _
    obtain ⟨b, hb, rfl⟩ := Option.map_eq_some_iff.mp h
    simp [hread v b hb]

end Fields

end Json

end ResourceGen
