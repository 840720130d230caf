/-!
# Dictionaries in key order

A dictionary holds its entries strictly ascending by key, so it is walked in one order whatever
the order of insertion, and two dictionaries with the same entries are equal. Keys compare by
code point, which for text is also the order of the encoded bytes.

The operations on bare entry lists (`Entries.get?`, `Entries.insert`) are stated for any list,
ordered or not, since values that carry objects keep bare lists.

Results: `Entries.get?_insert_self`, `Entries.get?_insert_of_ne`, `Entries.ascending_insert`,
and the same for `Dict` (`Dict.get?_insert_self`, `Dict.get?_insert_of_ne`).
-/

namespace ResourceGen

/-- Keyed entries, in some order. -/
abbrev Entries (α : Type) := List (String × α)

namespace Entries

variable {α β : Type}

/-- The value of the first entry for `k`. -/
def get? : Entries α → String → Option α
  | [], _ => none
  | (key, v) :: rest, k => if key = k then some v else get? rest k

/-- Writes `v` for `k`: replaces the entry met first, or enters a new one before the first
greater key. -/
def insert : Entries α → String → α → Entries α
  | [], k, v => [(k, v)]
  | (key, w) :: rest, k, v =>
    if key = k then (k, v) :: rest
    else if k < key then (k, v) :: (key, w) :: rest
    else (key, w) :: insert rest k v

/-- Keys strictly ascending. -/
def Ascending (l : Entries α) : Prop := l.Pairwise fun a b => a.1 < b.1

theorem get?_insert_self (l : Entries α) (k : String) (v : α) : get? (insert l k v) k = some v := by
  induction l with
  | nil => simp [insert, get?]
  | cons e rest ih =>
    obtain ⟨key, w⟩ := e
    rw [insert]
    split
    · simp [get?]
    · split
      · simp [get?]
      · rename_i h _
        simp [get?, h, ih]

theorem get?_insert_of_ne {k q : String} (h : q ≠ k) (l : Entries α) (v : α) :
    get? (insert l k v) q = get? l q := by
  induction l with
  | nil => simp [insert, get?, Ne.symm h]
  | cons e rest ih =>
    obtain ⟨key, w⟩ := e
    rw [insert]
    split
    · rename_i hk
      subst hk
      simp [get?, Ne.symm h]
    · split
      · simp [get?, Ne.symm h]
      · simp [get?, ih]

theorem mem_insert {l : Entries α} {k : String} {v : α} {e : String × α} (h : e ∈ insert l k v) :
    e = (k, v) ∨ e ∈ l := by
  induction l with
  | nil => simpa [insert] using h
  | cons x rest ih =>
    obtain ⟨key, w⟩ := x
    rw [insert] at h
    split at h
    · rcases List.mem_cons.mp h with h | h
      · exact Or.inl h
      · exact Or.inr (List.mem_cons_of_mem _ h)
    · split at h
      · rcases List.mem_cons.mp h with h | h
        · exact Or.inl h
        · exact Or.inr h
      · rcases List.mem_cons.mp h with h | h
        · exact Or.inr (h ▸ List.mem_cons_self)
        · exact (ih h).imp id (List.mem_cons_of_mem _)

theorem ascending_insert {l : Entries α} (h : Ascending l) (k : String) (v : α) :
    Ascending (insert l k v) := by
  induction l with
  | nil => simp [insert, Ascending]
  | cons e rest ih =>
    obtain ⟨key, w⟩ := e
    have hd := (List.pairwise_cons.mp h).1
    have tl := (List.pairwise_cons.mp h).2
    rw [insert]
    split
    · rename_i hk
      subst hk
      exact List.pairwise_cons.mpr ⟨hd, tl⟩
    · split
      · rename_i hlt
        refine List.pairwise_cons.mpr ⟨fun a ha => ?_, h⟩
        rcases List.mem_cons.mp ha with ha | ha
        · exact ha ▸ hlt
        · exact String.lt_trans hlt (hd a ha)
      · rename_i hne hnlt
        refine List.pairwise_cons.mpr ⟨fun a ha => ?_, ih tl⟩
        rcases mem_insert ha with ha | ha
        · subst ha
          exact String.not_le.mp fun hle => hne (String.le_antisymm (String.not_lt.mp hnlt) hle)
        · exact hd a ha

end Entries

/-- Entries strictly ascending by key. -/
structure Dict (α : Type) where
  entries : Entries α
  ascending : entries.Ascending

namespace Dict

variable {α β : Type}

/-- No entry. -/
def empty : Dict α := ⟨[], List.Pairwise.nil⟩

instance : Inhabited (Dict α) := ⟨empty⟩

@[ext]
theorem ext {d e : Dict α} (h : d.entries = e.entries) : d = e := by
  cases d; cases e; simp_all

instance [DecidableEq α] : DecidableEq (Dict α) := fun d e =>
  if h : d.entries = e.entries then isTrue (ext h) else isFalse fun he => h (he ▸ rfl)

instance [Repr α] : Repr (Dict α) := ⟨fun d n => reprPrec d.entries n⟩

/-- The value for a key. -/
def get? (d : Dict α) (k : String) : Option α := Entries.get? d.entries k

/-- Whether a key has a value. -/
def contains (d : Dict α) (k : String) : Bool := (d.get? k).isSome

/-- Writes a value, in place of an earlier one for the key. -/
def insert (d : Dict α) (k : String) (v : α) : Dict α :=
  ⟨Entries.insert d.entries k v, Entries.ascending_insert d.ascending k v⟩

/-- The keys, ascending. -/
def keys (d : Dict α) : List String := d.entries.map Prod.fst

/-- The values, in the order of their keys. -/
def values (d : Dict α) : List α := d.entries.map Prod.snd

/-- The number of entries. -/
def size (d : Dict α) : Nat := d.entries.length

/-- Whether there is no entry. -/
def isEmpty (d : Dict α) : Bool := d.entries.isEmpty

/-- Enters a list of pairs in turn; of two for one key the later wins. -/
def ofList (l : Entries α) : Dict α := l.foldl (fun d e => d.insert e.1 e.2) empty

/-- The distinct keys of a list, ascending. -/
def sortedKeys (l : List String) : List String := (ofList (l.map fun k => (k, ()))).keys

/-- Changes the values, each with its key in view. -/
def mapValues (f : String → α → β) (d : Dict α) : Dict β where
  entries := d.entries.map fun e => (e.1, f e.1 e.2)
  ascending := by
    rw [Entries.Ascending, List.pairwise_map]
    exact d.ascending

@[simp]
theorem get?_insert_self (d : Dict α) (k : String) (v : α) : (d.insert k v).get? k = some v :=
  Entries.get?_insert_self _ _ _

theorem get?_insert_of_ne {k q : String} (h : q ≠ k) (d : Dict α) (v : α) :
    (d.insert k v).get? q = d.get? q :=
  Entries.get?_insert_of_ne h _ _

@[simp]
theorem get?_empty (k : String) : (empty : Dict α).get? k = none := rfl

end Dict

end ResourceGen
