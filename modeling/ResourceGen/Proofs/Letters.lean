import Mathlib.Data.List.Infix
import ResourceGen.Naming

/-!
# Letters that the forms of an identifier keep

An identifier is cut into words, each word is spelled the way generated code spells it, and the
words are joined again: with nothing between them in the camel forms, with underscores in the snake
form.
Separators go and letters change their case, but no letter goes and none comes twice, whatever the
rules about digits, runs of capitals and initialisms make of it. So identifiers with one camel form
differ in case and separators alone (`Naming.Alike`).

Outside ASCII the upper case of a letter may be several letters, which is all that `Recased` allows
for beside the lower case. For an ASCII identifier every form is told exactly
(`Naming.KeepsLetters`).

Results:
* `flatten_words`, `ne_nil_of_mem_words`: the words of an identifier.
* `recased_camel`, `recased_camelLower`: what the camel forms of any identifier keep.
* `spaced_intercalate`: words with underscores between have one where two words meet, and no other.
* `names_keep_letters`: the forms of an ASCII identifier hold its letters.
-/

namespace ResourceGen

/-! ## Lower case -/

/-- What holds of the characters below 128 holds of every ASCII character. -/
theorem Text.forall_ascii {P : Char → Prop} (h : ∀ n < 128, P (Char.ofNat n)) {c : Char}
    (hc : c.toNat < 128) : P c :=
  Char.ofNat_toNat c ▸ h c.toNat hc

namespace Naming

open Text

theorem lowerAscii_append (a b : List Char) : lowerAscii (a ++ b) = lowerAscii a ++ lowerAscii b :=
  List.map_append

theorem toLower_of_not_ascii {c : Char} (h : ¬ c.toNat < 128) : c.toLower = c := by
  unfold Char.toLower
  rw [dif_neg]
  rintro ⟨-, hle⟩
  have hle : c.toNat ≤ 90 := hle
  omega

theorem toLower_toLower (c : Char) : c.toLower.toLower = c.toLower := by
  by_cases hascii : c.toNat < 128
  · exact forall_ascii (P := fun c => c.toLower.toLower = c.toLower) (by decide) hascii
  · rw [toLower_of_not_ascii hascii, toLower_of_not_ascii hascii]

theorem lowerAscii_lowerAscii (cs : List Char) : lowerAscii (lowerAscii cs) = lowerAscii cs := by
  rw [lowerAscii, lowerAscii, List.map_map]
  exact List.map_congr_left fun c _ => toLower_toLower c

/-- Lower case keeps ASCII characters and others apart. -/
theorem toNat_toLower_lt_iff {c : Char} : c.toLower.toNat < 128 ↔ c.toNat < 128 := by
  by_cases hascii : c.toNat < 128
  · exact iff_of_true
      (forall_ascii (P := fun c => c.toLower.toNat < 128) (by decide) hascii) hascii
  · rw [toLower_of_not_ascii hascii]

/-- A separator is the lower case of itself alone. -/
theorem eq_of_toLower {c sep : Char} (hsep : isSeparator sep = true) (h : c.toLower = sep) :
    c = sep := by
  by_cases hascii : c.toNat < 128
  · subst h
    exact forall_ascii (P := fun c => isSeparator c.toLower = true → c = c.toLower) (by decide)
      hascii hsep
  · rwa [toLower_of_not_ascii hascii] at h

/-- The lower case of an ASCII text is that of its letters A to Z. -/
theorem lower_of_ascii {s : String} (h : ∀ c ∈ s.toList, c.toNat < 128) :
    lower s = String.ofList (lowerAscii s.toList) := by
  unfold lower
  generalize s.toList = cs at h
  generalize ([] : List Char) = before
  refine congrArg String.ofList ?_
  induction cs generalizing before with
  | nil => rfl
  | cons c cs ih =>
    have hc : c.toNat < 128 := h c List.mem_cons_self
    have hsigma : c.toNat ≠ 0x3A3 := by omega
    rw [lowerFrom, if_neg hsigma, lowercaseOf, if_pos hc,
      ih (fun d hd => h d (List.mem_cons_of_mem _ hd))]
    rfl

/-- A text that is an ASCII text up to the case of its letters has the lower case of that text. -/
theorem lower_eq_of_lowerAscii_eq {s : String} {cs : List Char}
    (h : lowerAscii s.toList = lowerAscii cs) (hcs : ∀ c ∈ cs, c.toNat < 128) :
    lower s = lower (String.ofList cs) := by
  have hs : ∀ c ∈ s.toList, c.toNat < 128 := by
    intro c hc
    have hmem : c.toLower ∈ lowerAscii cs := h ▸ List.mem_map_of_mem hc
    obtain ⟨d, hd, heq⟩ := List.mem_map.mp hmem
    rw [← toNat_toLower_lt_iff, ← heq, toNat_toLower_lt_iff]
    exact hcs d hd
  rw [lower_of_ascii hs, lower_of_ascii (by rwa [String.toList_ofList]), h, String.toList_ofList]

/-! ## Identifiers that differ in case and separators alone -/

/-- The second text is the first one in lower case, after some letters have been put in upper
case. -/
inductive Recased : List Char → List Char → Prop
  | nil : Recased [] []
  | lower (c : Char) {cs w : List Char} (h : Recased cs w) : Recased (c :: cs) (c.toLower :: w)
  | upper (c : Char) {cs w : List Char} (h : Recased cs w) :
      Recased (c :: cs) (lowerAscii (uppercaseOf c) ++ w)

/-- The characters of an identifier that are in its words. -/
def letters (raw : List Char) : List Char := raw.filter fun c => !isSeparator c

/-- Two identifiers that differ in the case of letters and in separators alone. -/
def Alike (a b : String) : Prop :=
  ∃ w, Recased (letters a.toList) w ∧ Recased (letters b.toList) w

theorem Recased.of_lowerAscii (cs : List Char) : Recased cs (lowerAscii cs) := by
  induction cs with
  | nil => exact .nil
  | cons c cs ih => exact .lower c ih

theorem Recased.append {a b w v : List Char} (h : Recased a w) (h' : Recased b v) :
    Recased (a ++ b) (w ++ v) := by
  induction h with
  | nil => exact h'
  | lower c _ ih => exact .lower c ih
  | upper c _ ih =>
    rw [List.append_assoc]
    exact .upper c ih

/-- The words of an identifier have its characters but the separators. -/
theorem flatten_splitFrom (current raw : List Char) :
    (splitFrom current raw).flatten = current.reverse ++ letters raw := by
  fun_induction splitFrom current raw <;> simp_all [letters]

/-- **The words of an identifier** hold its characters but the separators, in order. -/
theorem flatten_words (raw : List Char) : (words raw).flatten = letters raw :=
  flatten_splitFrom [] raw

/-- No word is empty. -/
theorem ne_nil_of_mem_splitFrom (current raw : List Char) :
    ∀ w ∈ splitFrom current raw, w ≠ [] := by
  fun_induction splitFrom current raw <;> simp_all

theorem ne_nil_of_mem_words {raw w : List Char} (h : w ∈ words raw) : w ≠ [] :=
  ne_nil_of_mem_splitFrom [] raw w h

/-- A word is a part of the identifier without separators. -/
theorem subset_letters_of_mem_words {raw w : List Char} (h : w ∈ words raw) : w ⊆ letters raw := by
  intro c hc
  rw [← flatten_words]
  exact List.mem_flatten.mpr ⟨w, h, hc⟩

theorem lowerAscii_of_initialism? {lower i : List Char} (h : initialism? lower = some i) :
    lowerAscii i = lower := by
  obtain ⟨text, hfound, rfl⟩ := Option.map_eq_some_iff.mp h
  have hbeq := List.find?_some hfound
  exact beq_iff_eq.mp hbeq

/-- A word is normalized by changing the case of letters. -/
theorem recased_normalize (word : List Char) : Recased word (lowerAscii (normalize word)) := by
  unfold normalize
  simp only
  split
  · rename_i i hi
    rw [lowerAscii_of_initialism? hi]
    exact .of_lowerAscii word
  · split
    · rename_i i hi
      obtain ⟨stem, hstem, hi⟩ := Option.bind_eq_some_iff.mp hi
      have hword : lowerAscii (i ++ ['s']) = lowerAscii word := by
        rw [lowerAscii_append, lowerAscii_of_initialism? hi]
        unfold beforeS? at hstem
        split at hstem
        · rename_i hlast
          obtain rfl := Option.some.inj hstem
          exact List.dropLast_append_getLast? 's' (beq_iff_eq.mp hlast)
        · cases hstem
      rw [hword]
      exact .of_lowerAscii word
    · split
      · exact .nil
      · rw [lowerAscii_append]
        exact .upper _ (.of_lowerAscii _)

theorem recased_flatten (ws : List (List Char)) :
    Recased ws.flatten (lowerAscii (ws.map normalize).flatten) := by
  induction ws with
  | nil => exact .nil
  | cons w ws ih =>
    rw [List.map_cons, List.flatten_cons, List.flatten_cons, lowerAscii_append]
    exact (recased_normalize w).append ih

/-- **The camel form of an identifier keeps all but case and separators.** -/
theorem recased_camel (raw : String) :
    Recased (letters raw.toList) (lowerAscii (Namer.standard.names raw).camel.toList) := by
  show Recased _ (lowerAscii (String.ofList (camelForm (normalWords raw.toList))).toList)
  have h := recased_flatten (words raw.toList)
  rw [words, flatten_splitFrom, List.reverse_nil, List.nil_append] at h
  rw [String.toList_ofList]
  exact h

theorem lowerAscii_camelLowerForm (ws : List (List Char)) :
    lowerAscii (camelLowerForm ws) = lowerAscii (camelForm ws) := by
  cases ws with
  | nil => rfl
  | cons first rest =>
    rw [camelLowerForm, camelForm, List.flatten_cons, lowerAscii_append, lowerAscii_append,
      lowerAscii_lowerAscii]

/-- The form that starts in lower case keeps the same. -/
theorem recased_camelLower (raw : String) :
    Recased (letters raw.toList) (lowerAscii (Namer.standard.names raw).camelLower.toList) := by
  have h := recased_camel raw
  have hcamel : (Namer.standard.names raw).camel.toList = camelForm (normalWords raw.toList) :=
    String.toList_ofList
  have hlower : (Namer.standard.names raw).camelLower.toList =
      camelLowerForm (normalWords raw.toList) := String.toList_ofList
  rw [hlower, lowerAscii_camelLowerForm, ← hcamel]
  exact h

/-- Identifiers with one camel form are alike. -/
theorem alike_of_camel_eq {a b : String}
    (h : (Namer.standard.names a).camel = (Namer.standard.names b).camel) : Alike a b :=
  ⟨_, recased_camel a, h ▸ recased_camel b⟩

/-- Identifiers with one form that starts in lower case are alike. -/
theorem alike_of_camelLower_eq {a b : String}
    (h : (Namer.standard.names a).camelLower = (Namer.standard.names b).camelLower) : Alike a b :=
  ⟨_, recased_camelLower a, h ▸ recased_camelLower b⟩

/-- What an ASCII text is when recased. -/
theorem Recased.eq_lowerAscii {cs w : List Char} (h : Recased cs w)
    (hascii : ∀ c ∈ cs, c.toNat < 128) : w = lowerAscii cs := by
  induction h with
  | nil => rfl
  | lower c _ ih =>
    rw [ih fun c hc => hascii c (List.mem_cons_of_mem _ hc)]
    rfl
  | upper c _ ih =>
    have hc := forall_ascii (P := fun c => lowerAscii (uppercaseOf c) = [c.toLower]) (by decide)
      (hascii c List.mem_cons_self)
    rw [ih fun c hc => hascii c (List.mem_cons_of_mem _ hc), hc]
    rfl

theorem toNat_lt_of_mem_letters {raw : String} (h : raw.toList.all (·.toNat < 128) = true) :
    ∀ c ∈ letters raw.toList, c.toNat < 128 := fun c hc =>
  of_decide_eq_true (List.all_eq_true.mp h c (List.mem_of_mem_filter hc))

/-- ASCII identifiers are alike exactly if their letters in lower case are the same. -/
theorem alike_iff_of_ascii {a b : String} (ha : a.toList.all (·.toNat < 128) = true)
    (hb : b.toList.all (·.toNat < 128) = true) :
    Alike a b ↔ lowerAscii (letters a.toList) = lowerAscii (letters b.toList) := by
  constructor
  · rintro ⟨w, hwa, hwb⟩
    rw [← hwa.eq_lowerAscii (toNat_lt_of_mem_letters ha),
      ← hwb.eq_lowerAscii (toNat_lt_of_mem_letters hb)]
  · exact fun h => ⟨_, .of_lowerAscii _, h ▸ .of_lowerAscii _⟩

/-! ## Words with a separator between -/

/-- A separator stands at neither end, and no two stand in a row. -/
structure Spaced (sep : Char) (cs : List Char) : Prop where
  not_leading : ¬ [sep] <+: cs
  not_trailing : ¬ [sep] <:+ cs
  not_doubled : ¬ [sep, sep] <:+: cs

section Joining

variable {sep : Char} {ws : List (List Char)}

theorem mem_intercalate {c : Char} (h : c ∈ [sep].intercalate ws) :
    c = sep ∨ ∃ w ∈ ws, c ∈ w := by
  induction ws with
  | nil => simp at h
  | cons w ws ih =>
    cases ws with
    | nil =>
      rw [List.intercalate_singleton] at h
      exact .inr ⟨w, List.mem_cons_self, h⟩
    | cons w' ws =>
      rw [List.intercalate_cons_cons, List.mem_append, List.mem_append, List.mem_singleton] at h
      rcases h with (hw | hsep) | hrest
      · exact .inr ⟨w, List.mem_cons_self, hw⟩
      · exact .inl hsep
      · exact (ih hrest).imp id fun ⟨v, hv, hc⟩ => ⟨v, List.mem_cons_of_mem w hv, hc⟩

/-- The words come back one after the other when the separators are taken out. -/
theorem filter_intercalate (h : ∀ w ∈ ws, sep ∉ w) :
    ([sep].intercalate ws).filter (· ≠ sep) = ws.flatten := by
  have hword {w : List Char} (hw : sep ∉ w) : w.filter (· ≠ sep) = w :=
    List.filter_eq_self.mpr fun c hc => decide_eq_true fun heq => hw (heq ▸ hc)
  induction ws with
  | nil => rfl
  | cons w ws ih =>
    have hw := hword (h w List.mem_cons_self)
    have hrest := ih fun v hv => h v (List.mem_cons_of_mem w hv)
    cases ws with
    | nil => rw [List.intercalate_singleton, hw, List.flatten_singleton]
    | cons w' ws =>
      have hsep : [sep].filter (· ≠ sep) = [] := by simp
      rw [List.intercalate_cons_cons, List.filter_append, List.filter_append, hw, hsep, hrest,
        List.append_nil, ← List.flatten_cons]

theorem spaced_of_not_mem {w : List Char} (h : sep ∉ w) : Spaced sep w where
  not_leading hpre := h (hpre.subset List.mem_cons_self)
  not_trailing hsuf := h (hsuf.subset List.mem_cons_self)
  not_doubled hin := h (hin.subset List.mem_cons_self)

/-- One more word can be put in front with a separator. -/
theorem Spaced.cons {w cs : List Char} (hw : w ≠ []) (hsep : sep ∉ w) (hcs : cs ≠ [])
    (h : Spaced sep cs) : Spaced sep (w ++ sep :: cs) where
  not_leading hpre := by
    have hone : [sep] <+: w :=
      List.prefix_of_prefix_length_le hpre (List.prefix_append w _) (List.length_pos_iff.mpr hw)
    exact hsep (hone.subset List.mem_cons_self)
  not_trailing hsuf := by
    have hlast : cs <:+ w ++ sep :: cs := (List.suffix_cons sep cs).trans (List.suffix_append w _)
    exact h.not_trailing
      (List.suffix_of_suffix_length_le hsuf hlast (List.length_pos_iff.mpr hcs))
  not_doubled hin := by
    clear hw
    -- a pair would start inside the word, at the new separator, or behind it
    induction w with
    | nil =>
      rcases List.infix_cons_iff.mp hin with hpre | hin
      · exact h.not_leading ((List.prefix_cons_inj sep).mp hpre)
      · exact h.not_doubled hin
    | cons c w ih =>
      rw [List.mem_cons, not_or] at hsep
      rcases List.infix_cons_iff.mp hin with hpre | hin
      · exact hsep.1 (List.cons_prefix_cons.mp hpre).1
      · exact ih hsep.2 hin

/-- **Words with separators between are spaced.** -/
theorem spaced_intercalate (hne : ∀ w ∈ ws, w ≠ []) (h : ∀ w ∈ ws, sep ∉ w) :
    Spaced sep ([sep].intercalate ws) := by
  induction ws with
  | nil => exact spaced_of_not_mem List.not_mem_nil
  | cons w ws ih =>
    have hw := h w List.mem_cons_self
    have hrest := ih (fun v hv => hne v (List.mem_cons_of_mem w hv))
      fun v hv => h v (List.mem_cons_of_mem w hv)
    cases ws with
    | nil =>
      rw [List.intercalate_singleton]
      exact spaced_of_not_mem hw
    | cons w' ws =>
      have hnil : [sep].intercalate (w' :: ws) ≠ [] := by
        intro hnil
        have hflat := filter_intercalate fun v hv => h v (List.mem_cons_of_mem w hv)
        rw [hnil, List.filter_nil, eq_comm, List.flatten_eq_nil_iff] at hflat
        exact hne w' (by simp) (hflat w' List.mem_cons_self)
      rw [List.intercalate_cons_cons, List.append_assoc, List.singleton_append]
      exact hrest.cons (hne w List.mem_cons_self) hw hnil

end Joining

/-! ## ASCII identifiers -/

/-- The letters of an identifier in lower case. -/
def lowerLetters (raw : String) : String := lower (String.ofList (letters raw.toList))

/-- The forms of an identifier hold its letters: all of them, in order, and but for the underscores
between the words of the snake form nothing else. -/
structure KeepsLetters (raw : String) (n : Names) : Prop where
  camel : lower n.camel = lowerLetters raw
  camelLower : lower n.camelLower = lowerLetters raw
  lower_snake : lower n.snake = n.snake
  snake : String.ofList (n.snake.toList.filter (· ≠ '_')) = lowerLetters raw
  spaced : Spaced '_' n.snake.toList

section Ascii

variable {raw : String} (hascii : raw.toList.all (·.toNat < 128) = true)

include hascii

theorem lowerLetters_of_ascii :
    lowerLetters raw = String.ofList (lowerAscii (letters raw.toList)) := by
  have hletters := toNat_lt_of_mem_letters hascii
  rw [lowerLetters, lower_of_ascii (by rwa [String.toList_ofList]), String.toList_ofList]

theorem lower_camel : lower (Namer.standard.names raw).camel = lowerLetters raw := by
  have hletters := toNat_lt_of_mem_letters hascii
  exact lower_eq_of_lowerAscii_eq ((recased_camel raw).eq_lowerAscii hletters) hletters

theorem lower_camelLower : lower (Namer.standard.names raw).camelLower = lowerLetters raw := by
  have hletters := toNat_lt_of_mem_letters hascii
  exact lower_eq_of_lowerAscii_eq ((recased_camelLower raw).eq_lowerAscii hletters) hletters

/-- The snake form of an ASCII identifier is made of its words in lower case, as initialisms and
capitals are undone. -/
theorem toList_snake : (Namer.standard.names raw).snake.toList =
    ['_'].intercalate ((words raw.toList).map lowerAscii) := by
  show (String.ofList (snakeForm (normalWords raw.toList))).toList = _
  rw [String.toList_ofList, snakeForm, normalWords, List.map_map]
  refine congrArg _ (List.map_congr_left fun w hw => ?_)
  have hw : ∀ c ∈ w, c.toNat < 128 := fun c hc =>
    toNat_lt_of_mem_letters hascii c (subset_letters_of_mem_words hw hc)
  exact (recased_normalize w).eq_lowerAscii hw

omit hascii in
theorem underscore_not_mem_lowerAscii {w : List Char} (hw : w ∈ words raw.toList) :
    '_' ∉ lowerAscii w := by
  intro hmem
  obtain ⟨c, hc, hlower⟩ := List.mem_map.mp hmem
  obtain rfl := eq_of_toLower rfl hlower
  have hletter := (List.mem_filter.mp (subset_letters_of_mem_words hw hc)).2
  cases hletter

theorem toNat_lt_and_toLower_of_mem_snake {c : Char}
    (hc : c ∈ (Namer.standard.names raw).snake.toList) : c.toNat < 128 ∧ c.toLower = c := by
  rw [toList_snake hascii] at hc
  rcases mem_intercalate hc with rfl | ⟨w, hw, hc⟩
  · decide
  · obtain ⟨word, hword, rfl⟩ := List.mem_map.mp hw
    obtain ⟨d, hd, rfl⟩ := List.mem_map.mp hc
    have hd := toNat_lt_of_mem_letters hascii d (subset_letters_of_mem_words hword hd)
    exact ⟨toNat_toLower_lt_iff.mpr hd, toLower_toLower d⟩

theorem lower_snake :
    lower (Namer.standard.names raw).snake = (Namer.standard.names raw).snake := by
  have hchars := fun c => toNat_lt_and_toLower_of_mem_snake (c := c) hascii
  rw [lower_of_ascii fun c hc => (hchars c hc).1, ← String.toList_inj, String.toList_ofList]
  exact (List.map_congr_left fun c hc => (hchars c hc).2).trans (List.map_id _)

theorem filter_snake :
    String.ofList ((Namer.standard.names raw).snake.toList.filter (· ≠ '_')) = lowerLetters raw := by
  have hwords : ∀ w ∈ (words raw.toList).map lowerAscii, '_' ∉ w :=
    List.forall_mem_map.mpr fun w hw => underscore_not_mem_lowerAscii hw
  rw [toList_snake hascii, filter_intercalate hwords, lowerLetters_of_ascii hascii,
    ← flatten_words, lowerAscii, List.map_flatten]
  rfl

theorem spaced_snake : Spaced '_' (Namer.standard.names raw).snake.toList := by
  rw [toList_snake hascii]
  refine spaced_intercalate (List.forall_mem_map.mpr fun w hw => ?_)
    (List.forall_mem_map.mpr fun w hw => underscore_not_mem_lowerAscii hw)
  rw [lowerAscii, Ne, List.map_eq_nil_iff]
  exact ne_nil_of_mem_words hw

/-- **The forms of an ASCII identifier hold its letters**, and so do its words, none of which is
empty. Identifiers with one camel form differ in the case of letters and in separators alone. -/
theorem names_keep_letters :
    KeepsLetters raw (Namer.standard.names raw) ∧
      (∀ w ∈ words raw.toList, w ≠ []) ∧ (words raw.toList).flatten = letters raw.toList ∧
      ∀ other : String, other.toList.all (·.toNat < 128) = true →
        (Namer.standard.names other).camel = (Namer.standard.names raw).camel →
        lowerLetters other = lowerLetters raw := by
  refine ⟨⟨lower_camel hascii, lower_camelLower hascii, lower_snake hascii, filter_snake hascii,
    spaced_snake hascii⟩, fun w hw => ne_nil_of_mem_words hw, flatten_words _, ?_⟩
  intro other hother hcamel
  rw [← lower_camel hother, ← lower_camel hascii, hcamel]

end Ascii

/-- A plural initialism behind separators, and the same letters without any. -/
theorem names_keep_letters_clusters :
    KeepsLetters "cache_cluster-ids" (Namer.standard.names "cache_cluster-ids") ∧
      (Namer.standard.names "cache_cluster-ids").snake = "cache_cluster_ids" ∧
      (Namer.standard.names "CacheClusterIDs").camel =
        (Namer.standard.names "cache_cluster-ids").camel ∧
      lowerLetters "CacheClusterIDs" = lowerLetters "cache_cluster-ids" := by
  have hascii : "cache_cluster-ids".toList.all (·.toNat < 128) = true := by decide
  have hascii' : "CacheClusterIDs".toList.all (·.toNat < 128) = true := by decide
  have hcamel : (Namer.standard.names "CacheClusterIDs").camel =
      (Namer.standard.names "cache_cluster-ids").camel := by decide
  obtain ⟨hkeeps, -, -, halike⟩ := names_keep_letters hascii
  exact ⟨hkeeps, by decide, hcamel, halike _ hascii' hcamel⟩

end Naming

end ResourceGen
