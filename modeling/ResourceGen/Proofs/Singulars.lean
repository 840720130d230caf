import ResourceGen.Proofs.Letters
import ResourceGen.Proofs.Plurals

/-!
# Singulars are final

The singular of a word takes an ending off, or writes `y` for it. What is left may have an ending
that the rules know, as `Buses` leaves `Bus` and `Dresses` leaves `Dress`, but it never reads
like a plural once more: after `ies` there is a `y`; a sibilant that has lost its `es` is not one
that loses an `s`; and a plain `s` goes only where no other `s` stands before it. So a word and its
singular have one singular, and a resource that is named by a singular is never taken for many.

The rules count and cut a word by its bytes, while `singularChars` goes by characters. Endings are
ASCII, so this is the same, and no cut falls inside a character (`singularCut?`).

Results:
* `singularOf`: what the rules make of a word, ending by ending.
* `singularChars_singularChars`, `singularChars_ne_nil`: the singular is final, and not empty.
* `singularCut?_eq`: cutting by bytes gives the singular of every word.
* `exists_singularize_of_byConvention`: where the names of resources are singulars.
* `singularize_final`: all of it for the words and the classifier of the usual conventions.
-/

namespace ResourceGen

namespace Naming

variable {w : List Char}

/-! ## What the rules make of a word -/

/-- The singular of a word, by the ending that has been taken off. Endings stand in any case of
letters. -/
inductive SingularOf : List Char → List Char → Prop
  /-- `y` stands for `ies`. -/
  | ies (stem ending : List Char) (hending : ending.map Char.toLower = "ies".toList)
      (hstem : stem ≠ []) : SingularOf (stem ++ ending) (stem ++ ['y'])
  /-- A sibilant has lost `es`. -/
  | sibilant (stem ending : List Char) (hending : ending.map Char.toLower = "es".toList)
      (hstem : sibilantStems.any (endsIn stem) = true) : SingularOf (stem ++ ending) stem
  /-- Any other word has lost a single `s`. -/
  | single (stem ending : List Char) (hending : ending.map Char.toLower = "s".toList)
      (hstem : stem ≠ []) (hs : endsIn stem "s" = false) : SingularOf (stem ++ ending) stem
  /-- The word has no ending of a plural. -/
  | kept (w : List Char) : SingularOf w w

theorem exists_append_of_endsIn {e : String} (h : endsIn w e = true) :
    ∃ stem ending, w = stem ++ ending ∧ ending.map Char.toLower = e.toList := by
  obtain ⟨init, hinit⟩ := endsIn_iff.mp h
  obtain ⟨stem, ending, rfl, -, hending⟩ := List.map_eq_append_iff.mp hinit.symm
  exact ⟨stem, ending, rfl, hending⟩

theorem dropEnd_append_of_lower {ending : List Char} {e : String}
    (hending : ending.map Char.toLower = e.toList) (stem : List Char) :
    dropEnd (stem ++ ending) e.toList.length = stem := by
  rw [← hending, List.length_map]
  exact dropEnd_append stem ending

theorem endsIn_es_of_sibilantPlural (h : sibilantPlurals.any (endsIn w) = true) :
    endsIn w "es" = true := by
  obtain ⟨e, he, hend⟩ := List.any_eq_true.mp h
  have hall : ∀ e ∈ sibilantPlurals, "es".toList <:+ e.toList := by decide
  exact endsIn_of_suffix (hall e he) hend

/-- **What the rules make of a word.** -/
theorem singularOf (w : List Char) : SingularOf w (singularChars w) := by
  unfold singularChars
  split
  · rename_i h
    rw [Bool.and_eq_true, decide_eq_true_eq] at h
    obtain ⟨stem, ending, rfl, hending⟩ := exists_append_of_endsIn h.1
    have hlen : ending.length = 3 := by simpa using congrArg List.length hending
    rw [show dropEnd (stem ++ ending) 3 = stem from dropEnd_append_of_lower hending stem]
    refine .ies stem ending hending ?_
    rintro rfl
    exact absurd h.2 (by simp [hlen])
  · split
    · rename_i h
      obtain ⟨stem, ending, rfl, hending⟩ :=
        exists_append_of_endsIn (endsIn_es_of_sibilantPlural h)
      rw [show dropEnd (stem ++ ending) 2 = stem from dropEnd_append_of_lower hending stem]
      exact .sibilant stem ending hending
        ((any_endsIn_append_lower hending stem sibilantStems).symm.trans h)
    · split
      · exact .kept w
      · split
        · rename_i hkept h
          rw [Bool.and_eq_true, decide_eq_true_eq] at h
          obtain ⟨stem, ending, rfl, hending⟩ := exists_append_of_endsIn h.1
          have hlen : ending.length = 1 := by simpa using congrArg List.length hending
          rw [show dropEnd (stem ++ ending) 1 = stem from dropEnd_append_of_lower hending stem]
          refine .single stem ending hending ?_ ?_
          · rintro rfl
            exact absurd h.2 (by simp [hlen])
          · -- a second `s` would be the ending `ss`
            rw [← endsIn_append_lower hending stem "s", Bool.eq_false_iff]
            exact fun hss => hkept (List.any_eq_true.mpr ⟨"ss", by decide, hss⟩)
        · exact .kept w

/-! ## Words that are their own singular -/

theorem singularChars_of_not_s (h : endsIn w "s" = false) : singularChars w = w := by
  have hnot {e : String} (he : "s".toList <:+ e.toList) : endsIn w e = false := by
    rw [Bool.eq_false_iff]
    intro hend
    rw [endsIn_of_suffix he hend] at h
    cases h
  have hnone {l : List String} (hl : ∀ e ∈ l, "s".toList <:+ e.toList) :
      l.any (endsIn w) = false :=
    List.any_eq_false.mpr fun e he => Bool.eq_false_iff.mp (hnot (hl e he))
  unfold singularChars
  rw [hnot (e := "ies") (by decide), hnone (l := sibilantPlurals) (by decide),
    hnone (l := singularEndings) (by decide), h]
  rfl

theorem singularChars_of_singularEnding (h : singularEndings.any (endsIn w) = true) :
    singularChars w = w := by
  have hies : endsIn w "ies" = false := not_endsIn_of_any (by decide) h
  have hplural : sibilantPlurals.any (endsIn w) = false := any_endsIn_of_any (by decide) h
  unfold singularChars
  rw [hies, hplural, h]
  rfl

/-- What loses `es` ends in an `s` only if the rules know it for a singular. -/
theorem singularChars_of_sibilantStem (h : sibilantStems.any (endsIn w) = true) :
    singularChars w = w := by
  cases hs : endsIn w "s" with
  | false => exact singularChars_of_not_s hs
  | true =>
    obtain ⟨e, he, hend⟩ := List.any_eq_true.mp h
    have hall : ∀ e ∈ sibilantStems,
        (∃ a ∈ singularEndings, a.toList <:+ e.toList) ∨
          ¬ e.toList <:+ "s".toList ∧ ¬ "s".toList <:+ e.toList := by decide
    rcases hall e he with ⟨a, ha, hsuffix⟩ | hapart
    · exact singularChars_of_singularEnding
        (List.any_eq_true.mpr ⟨a, ha, endsIn_of_suffix hsuffix hend⟩)
    · rw [not_endsIn_of_any (l := [e]) (by simpa using hapart) (any_endsIn_singleton hend)] at hs
      cases hs

/-- **The singular is final.** -/
theorem singularChars_singularChars (w : List Char) :
    singularChars (singularChars w) = singularChars w := by
  have h := singularOf w
  generalize hsingular : singularChars w = s at h ⊢
  cases h with
  | ies stem ending hending hstem =>
    have hy : endsIn (stem ++ ['y']) "y" = true := endsIn_append_self rfl stem
    exact singularChars_of_not_s
      (not_endsIn_of_any (l := ["y"]) (by decide) (any_endsIn_singleton hy))
  | sibilant stem ending hending hstem => exact singularChars_of_sibilantStem hstem
  | single stem ending hending hstem hs => exact singularChars_of_not_s hs
  | kept => exact hsingular

theorem singularChars_ne_nil (h : w ≠ []) : singularChars w ≠ [] := by
  have hof := singularOf w
  generalize singularChars w = s at hof
  cases hof with
  | ies stem ending hending hstem => simp
  | sibilant stem ending hending hstem =>
    rintro rfl
    exact absurd hstem (by decide)
  | single stem ending hending hstem hs => exact hstem
  | kept => exact h

end Naming

/-! ## Cutting by bytes -/

namespace Text

/-- The text before a byte; none if the byte is inside a character. -/
def before? (s : String) (n : Nat) : Option String :=
  if h : (String.Pos.Raw.mk n).IsValid s then some (s.sliceTo (s.pos _ h)).copy else none

theorem before?_append (a b : String) : before? (a ++ b) a.utf8ByteSize = some a := by
  have hvalid : (String.Pos.Raw.mk a.utf8ByteSize).IsValid (a ++ b) :=
    String.Pos.Raw.isValid_iff_exists_append.mpr ⟨a, b, rfl, rfl⟩
  have hsplits : ((a ++ b).pos _ hvalid).Splits a b := ⟨rfl, rfl⟩
  rw [before?, dif_pos hvalid, hsplits.copy_sliceTo_eq]

theorem utf8ByteSize_of_ascii {cs : List Char} (h : ∀ c ∈ cs, c.toNat < 128) :
    (String.ofList cs).utf8ByteSize = cs.length := by
  induction cs with
  | nil => rfl
  | cons c cs ih =>
    have hc : c.toNat < 128 := h c List.mem_cons_self
    have hone : c.utf8Size = 1 :=
      Char.utf8Size_eq_one_iff.mpr (UInt32.le_iff_toNat_le.mpr (Nat.le_of_lt_succ hc))
    rw [String.ofList_cons, String.utf8ByteSize_append, String.utf8ByteSize_singleton, hone,
      ih fun d hd => h d (List.mem_cons_of_mem c hd), List.length_cons, Nat.add_comm]

end Text

namespace Naming

/-- The singular with the word counted and cut by its bytes: none if a cut is inside a character. -/
def singularCut? (word : String) : Option String :=
  let w := word.toList
  let size := word.utf8ByteSize
  if endsIn w "ies" && size > 3 then (Text.before? word (size - 3)).map (· ++ "y")
  else if sibilantPlurals.any (endsIn w) then Text.before? word (size - 2)
  else if singularEndings.any (endsIn w) then some word
  else if endsIn w "s" && size > 1 then Text.before? word (size - 1)
  else some word

section Bytes

variable {word e : String} (he : e.toList.all (·.toNat < 128) = true)
  (h : endsIn word.toList e = true)

include he h

/-- An ASCII ending has as many bytes as characters. -/
theorem exists_append_of_endsIn_ascii : ∃ stem ending : String,
    word = stem ++ ending ∧ ending.utf8ByteSize = e.length ∧
      dropEnd word.toList e.length = stem.toList := by
  obtain ⟨stem, ending, hword, hending⟩ := exists_append_of_endsIn h
  have hascii : ∀ c ∈ ending, c.toNat < 128 := by
    intro c hc
    have hmem : c.toLower ∈ e.toList := hending ▸ List.mem_map_of_mem hc
    exact toNat_toLower_lt_iff.mp (of_decide_eq_true (List.all_eq_true.mp he _ hmem))
  have hlen : ending.length = e.length := by
    rw [← String.length_toList, ← hending, List.length_map]
  refine ⟨String.ofList stem, String.ofList ending, ?_, ?_, ?_⟩
  · rw [← String.ofList_append, ← hword, String.ofList_toList]
  · rw [Text.utf8ByteSize_of_ascii hascii, hlen]
  · rw [hword, String.toList_ofList, ← hlen]
    exact dropEnd_append stem ending

theorem before?_of_endsIn : Text.before? word (word.utf8ByteSize - e.length) =
    some (String.ofList (dropEnd word.toList e.length)) := by
  obtain ⟨stem, ending, rfl, hsize, hdrop⟩ := exists_append_of_endsIn_ascii he h
  rw [hdrop, String.ofList_toList, String.utf8ByteSize_append, hsize, Nat.add_sub_cancel]
  exact Text.before?_append stem ending

/-- There is something before the ending by the number of bytes as by that of characters. -/
theorem lt_utf8ByteSize_iff : e.length < word.utf8ByteSize ↔ e.length < word.toList.length := by
  obtain ⟨stem, ending, hword, hsize, hdrop⟩ := exists_append_of_endsIn_ascii he h
  have hstem : 0 < stem.utf8ByteSize ↔ 0 < stem.toList.length := by
    rw [Nat.pos_iff_ne_zero, Nat.pos_iff_ne_zero, Ne, Ne, String.utf8ByteSize_eq_zero_iff,
      List.length_eq_zero_iff, String.toList_eq_nil_iff]
  have hbytes : word.utf8ByteSize = stem.utf8ByteSize + e.length := by
    rw [hword, String.utf8ByteSize_append, hsize]
  have hchars := congrArg List.length hdrop
  rw [dropEnd, List.length_take] at hchars
  omega

end Bytes

/-- **No cut is inside a character**, and cutting by bytes gives the singular. -/
theorem singularCut?_eq (word : String) :
    singularCut? word = some (Namer.standard.singularize word) := by
  have hlong {e : String} (he : e.toList.all (·.toNat < 128) = true) :
      (endsIn word.toList e && decide (word.utf8ByteSize > e.length)) =
        (endsIn word.toList e && decide (word.toList.length > e.length)) := by
    cases h : endsIn word.toList e with
    | false => rfl
    | true => rw [Bool.true_and, Bool.true_and, decide_eq_decide.mpr (lt_utf8ByteSize_iff he h)]
  have hies := hlong (e := "ies") (by decide)
  have hs := hlong (e := "s") (by decide)
  show _ = some (String.ofList (singularChars word.toList))
  unfold singularCut? singularChars
  simp only
  rw [show (3 : Nat) = "ies".length from rfl, show (1 : Nat) = "s".length from rfl, hies, hs]
  split
  · rename_i h
    rw [before?_of_endsIn (by decide) (Bool.and_eq_true_iff.mp h).1, String.ofList_append]
    rfl
  · split
    · rename_i h
      exact before?_of_endsIn (e := "es") (by decide) (endsIn_es_of_sibilantPlural h)
    · split
      · rw [String.ofList_toList]
      · split
        · rename_i h
          exact before?_of_endsIn (by decide) (Bool.and_eq_true_iff.mp h).1
        · rw [String.ofList_toList]

end Naming

/-! ## Names of resources -/

namespace Classifier

variable {n : Namer} {name resource : String} {role : Role}

/-- A name that is taken for many is read as its singular. -/
theorem eq_singularize_of_pluralAware {many one : Role} {rest : String}
    (h : pluralAware n many one rest = (role, resource)) (hrole : role ≠ one) :
    resource = n.singularize rest := by
  unfold pluralAware at h
  split at h
  · exact (congrArg Prod.snd h).symm
  · exact absurd (congrArg Prod.fst h).symm hrole

/-- **A resource that is created in batches or listed has a singular for its name.** -/
theorem exists_singularize_of_byConvention (h : byConvention n name = some (role, resource))
    (hrole : role = .createBatch ∨ role = .list) : ∃ rest, resource = n.singularize rest := by
  have haware {verb : String} {many one : Role} (hone : one ≠ .createBatch ∧ one ≠ .list)
      (h : (resourceAfter? verb name).map (pluralAware n many one) = some (role, resource)) :
      ∃ rest, resource = n.singularize rest := by
    obtain ⟨rest, -, h⟩ := Option.map_eq_some_iff.mp h
    refine ⟨rest, eq_singularize_of_pluralAware h ?_⟩
    rintro rfl
    exact hrole.elim hone.1 hone.2
  -- verbs about one resource have a role of their own
  have hother {o : Option String} {own : Role} (hown : own ≠ .createBatch ∧ own ≠ .list)
      (h : o.map (own, ·) = some (role, resource)) : ∃ rest, resource = n.singularize rest := by
    obtain ⟨rest, -, h⟩ := Option.map_eq_some_iff.mp h
    obtain rfl := congrArg Prod.fst h
    exact (hrole.elim hown.1 hown.2).elim
  simp only [byConvention, Option.orElse_eq_or, Option.or_eq_some_iff] at h
  rcases h with create | ⟨-, update | ⟨-, modify | ⟨-, delete | ⟨-, getAttributes |
    ⟨-, setAttributes | ⟨-, describe | ⟨-, get | ⟨-, list⟩⟩⟩⟩⟩⟩⟩⟩
  · exact haware (by decide) create
  · exact hother (by decide) update
  · exact hother (by decide) modify
  · exact hother (by decide) delete
  · exact hother (by decide) getAttributes
  · exact hother (by decide) setAttributes
  · exact haware (by decide) describe
  · exact haware (by decide) get
  · obtain ⟨rest, -, hrest⟩ := Option.map_eq_some_iff.mp list
    exact ⟨rest, (congrArg Prod.snd hrest).symm⟩

end Classifier

namespace Namer

theorem toList_singularize (word : String) :
    (standard.singularize word).toList = Naming.singularChars word.toList :=
  String.toList_ofList

theorem isPlural_singularize (word : String) :
    standard.isPlural (standard.singularize word) = false := by
  rw [isPlural_eq_false_iff, toList_singularize]
  exact Naming.singularChars_singularChars word.toList

/-- **Singulars are final.** The singular of a singular is itself, so it is not taken for a plural;
it is not empty unless the word is; and a word that is cut by its bytes is cut between characters
and leaves its singular. So no resource that is created in batches or listed is named by a
plural. -/
theorem singularize_final (word : String) :
    standard.singularize (standard.singularize word) = standard.singularize word ∧
      standard.isPlural (standard.singularize word) = false ∧
      (word ≠ "" → standard.singularize word ≠ "") ∧
      Naming.singularCut? word = some (standard.singularize word) ∧
      ∀ name role resource, Classifier.byConvention .standard name = some (role, resource) →
        role = .createBatch ∨ role = .list → standard.isPlural resource = false := by
  have hplural := isPlural_singularize word
  refine ⟨?_, hplural, fun hne => ?_, Naming.singularCut?_eq word, ?_⟩
  · rw [isPlural, decide_eq_false_iff_not, not_not] at hplural
    exact hplural
  · rw [Ne, ← String.toList_eq_nil_iff] at hne ⊢
    rw [toList_singularize]
    exact Naming.singularChars_ne_nil hne
  · intro name role resource h hrole
    obtain ⟨rest, rfl⟩ := Classifier.exists_singularize_of_byConvention h hrole
    exact isPlural_singularize rest

/-- A word with an ending in capitals behind letters that are no ASCII, and a plural in the name of
an operation. -/
theorem singularize_final_buses :
    standard.singularize "ÜberBUSES" = "ÜberBUS" ∧ standard.singularize "ÜberBUS" = "ÜberBUS" ∧
      standard.singularize "ÜberBUSES" ≠ "" ∧
      Naming.singularCut? "ÜberBUSES" = some "ÜberBUS" ∧
      Classifier.byConvention .standard "ListEventBuses" = some (.list, "EventBus") ∧
      standard.isPlural "EventBus" = false := by
  have hsingular : standard.singularize "ÜberBUSES" = "ÜberBUS" := by decide
  have hlist : Classifier.byConvention .standard "ListEventBuses" = some (.list, "EventBus") := by
    decide
  obtain ⟨hfinal, -, hnonempty, hcut, hresource⟩ := singularize_final "ÜberBUSES"
  rw [hsingular] at hfinal hcut
  exact ⟨hsingular, hfinal, hnonempty (by decide), hcut, hlist, hresource _ _ _ hlist (.inr rfl)⟩

end Namer

end ResourceGen
