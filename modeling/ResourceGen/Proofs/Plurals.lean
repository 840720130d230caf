import Mathlib.Data.List.Infix
import ResourceGen.Classification

/-!
# Plurals that lead back

A resource is found in the plural name of an operation when the singular of that plural is the
resource again. The plural of a word adds `es` after a sibilant and `s` otherwise, and turns a
final `y` into `ies`. The singular goes by longer endings, so it does not undo every plural:
`Cache` has the plural `Caches`, which reads like the plural of `Cach`.

`losesPlural` lists the endings where this happens, and the list is exact: words in `s` other than
those that are read back, in `ie`, in a silent `e` after what reads like a sibilant, and in `u`, `i`
and `ia`.

Results:
* `singularChars_pluralChars_iff`: the singular of the plural of a singular word is the word again
  iff the plural is not lost.
* `byConvention_plural_iff`: an operation is listed under the resource whose plural it names in
  just these cases, and the Create operation is found for every singular word.
* `byConvention_misses_cache`: a resource whose plural is lost.
-/

namespace ResourceGen

namespace Naming

/-! ## Endings -/

variable {w : List Char}

theorem endsIn_iff {e : String} : endsIn w e = true ↔ e.toList <:+ w.map Char.toLower :=
  List.isSuffixOf_iff_suffix

/-- A word with something added, in any case of letters, has the longer ending iff the word has the
shorter one. -/
theorem endsIn_append_lower {ending : List Char} {t : String}
    (ht : ending.map Char.toLower = t.toList) (w : List Char) (e : String) :
    endsIn (w ++ ending) (e ++ t) = endsIn w e := by
  rw [Bool.eq_iff_iff, endsIn_iff, endsIn_iff, String.toList_append, List.map_append, ht,
    List.suffix_append_inj_of_length_eq rfl]
  exact and_iff_left rfl

theorem any_endsIn_append_lower {ending : List Char} {t : String}
    (ht : ending.map Char.toLower = t.toList) (w : List Char) (l : List String) :
    (l.map (· ++ t)).any (endsIn (w ++ ending)) = l.any (endsIn w) := by
  rw [List.any_map]
  congr 1
  funext e
  exact endsIn_append_lower ht w e

theorem endsIn_append {t : String} (ht : t.toList.map Char.toLower = t.toList) (w : List Char)
    (e : String) : endsIn (w ++ t.toList) (e ++ t) = endsIn w e :=
  endsIn_append_lower ht w e

theorem any_endsIn_append {t : String} (ht : t.toList.map Char.toLower = t.toList)
    (w : List Char) (l : List String) :
    (l.map (· ++ t)).any (endsIn (w ++ t.toList)) = l.any (endsIn w) :=
  any_endsIn_append_lower ht w l

/-- A word with an ending has each ending of that one. -/
theorem endsIn_of_suffix {a b : String} (hab : a.toList <:+ b.toList) (hb : endsIn w b = true) :
    endsIn w a = true :=
  endsIn_iff.mpr (hab.trans (endsIn_iff.mp hb))

theorem endsIn_append_self {t : String} (ht : t.toList.map Char.toLower = t.toList)
    (w : List Char) : endsIn (w ++ t.toList) t = true := by
  rw [endsIn_iff, List.map_append, ht]
  exact List.suffix_append _ _

theorem any_endsIn_singleton {e : String} (h : endsIn w e = true) : [e].any (endsIn w) = true := by
  rw [List.any_cons, h, Bool.true_or]

/-- Of two endings of a word one ends in the other, so endings that differ in their last letters
are not there together. -/
theorem not_endsIn_of_any {l : List String} {b : String}
    (hl : ∀ a ∈ l, ¬ a.toList <:+ b.toList ∧ ¬ b.toList <:+ a.toList)
    (h : l.any (endsIn w) = true) : endsIn w b = false := by
  obtain ⟨a, ha, hend⟩ := List.any_eq_true.mp h
  rw [Bool.eq_false_iff]
  intro hb
  rcases List.suffix_or_suffix_of_suffix (endsIn_iff.mp hend) (endsIn_iff.mp hb) with h | h
  · exact (hl a ha).1 h
  · exact (hl a ha).2 h

theorem any_endsIn_of_any {l l' : List String}
    (hl : ∀ a ∈ l, ∀ b ∈ l', ¬ a.toList <:+ b.toList ∧ ¬ b.toList <:+ a.toList)
    (h : l.any (endsIn w) = true) : l'.any (endsIn w) = false := by
  refine List.any_eq_false.mpr fun b hb => ?_
  rw [not_endsIn_of_any (fun a ha => hl a ha b hb) h]
  exact Bool.false_ne_true

/-! ## Plurals that are lost -/

/-- Endings that take `es`, and from which it is taken off again. -/
def sibilantStems : List String := ["ss", "x", "ch", "sh", "zz", "ias", "tus", "bus", "rus"]

/-- Endings that read like a plural in `es` when an `s` is added. -/
def silentStems : List String :=
  ["sse", "xe", "che", "she", "zze", "iase", "tuse", "buse", "ruse"]

/-- Endings that read like no plural when an `s` is added. -/
def openStems : List String := ["u", "i", "ia"]

/-- Whether the plural of a singular word does not lead back to it. -/
def losesPlural (w : List Char) : Bool :=
  endsIn w "s" && !sibilantStems.any (endsIn w) || endsIn w "ie" && 3 ≤ w.length ||
    silentStems.any (endsIn w) || openStems.any (endsIn w)

/-! ## The singular of a plural -/

theorem dropEnd_append (w t : List Char) : dropEnd (w ++ t) t.length = w := by
  unfold dropEnd
  rw [List.length_append, Nat.add_sub_cancel, List.take_left]

/-- The singular of a word with `es`: the ending goes after a sibilant, else only the `s`. -/
theorem singularChars_append_es (h : endsIn w "i" = false) :
    singularChars (w ++ "es".toList) =
      if sibilantStems.any (endsIn w) then w else w ++ "e".toList := by
  have hes : endsIn (w ++ "es".toList) "es" = true := endsIn_append_self rfl w
  have hies : endsIn (w ++ "es".toList) "ies" = false := (endsIn_append rfl w "i").trans h
  have hplural : sibilantPlurals.any (endsIn (w ++ "es".toList)) = sibilantStems.any (endsIn w) :=
    any_endsIn_append rfl w sibilantStems
  have hsingular : singularEndings.any (endsIn (w ++ "es".toList)) = false :=
    any_endsIn_of_any (l := ["es"]) (by decide) (any_endsIn_singleton hes)
  have hs : endsIn (w ++ "es".toList) "s" = true := endsIn_of_suffix (by decide) hes
  have hlen : (w ++ "es".toList).length > 1 := by simp
  have hdrop : dropEnd (w ++ "es".toList) 1 = w ++ "e".toList := by
    have happ : w ++ "es".toList = (w ++ "e".toList) ++ "s".toList := by simp
    rw [happ]
    exact dropEnd_append _ "s".toList
  unfold singularChars
  rw [hies, hplural, hsingular, hs, hdrop]
  simp only [Bool.false_and, Bool.false_eq_true, if_false, hlen, decide_true, Bool.and_self,
    if_true]
  rw [show dropEnd (w ++ "es".toList) 2 = w from dropEnd_append w "es".toList]

/-- The singular of a word with `s` is the word, unless it reads like another plural or like no
plural at all. -/
theorem singularChars_append_s_iff (hw : w ≠ []) (hs : endsIn w "s" = false) :
    singularChars (w ++ "s".toList) = w ↔ losesPlural w = false := by
  have hends : endsIn (w ++ "s".toList) "s" = true := endsIn_append_self rfl w
  have hies : endsIn (w ++ "s".toList) "ies" = endsIn w "ie" := endsIn_append rfl w "ie"
  have hplural : sibilantPlurals.any (endsIn (w ++ "s".toList)) = silentStems.any (endsIn w) :=
    any_endsIn_append (t := "s") rfl w silentStems
  have hsingular : singularEndings.any (endsIn (w ++ "s".toList)) = openStems.any (endsIn w) := by
    have h := any_endsIn_append (t := "s") rfl w ("s" :: openStems)
    rw [List.any_cons, hs, Bool.false_or] at h
    exact h
  have hdrop : dropEnd (w ++ "s".toList) 1 = w := dropEnd_append w "s".toList
  have hlen : (w ++ "s".toList).length = w.length + 1 := by simp
  have hpos : 0 < w.length := List.length_pos_iff.mpr hw
  have hlong : decide (w.length + 1 > 3) = decide (3 ≤ w.length) := decide_eq_decide.mpr (by omega)
  have hshort {v : List Char} (hv : v.length ≠ w.length) : ¬ v = w := fun h => hv (h ▸ rfl)
  unfold singularChars losesPlural
  rw [hies, hplural, hsingular, hends, hdrop, hlen, hlong, hs, Bool.false_and, Bool.false_or]
  -- the longer endings come first, then those that are no plural; only then the `s` goes
  cases hie : (endsIn w "ie" && decide (3 ≤ w.length)) with
  | true =>
    rw [Bool.and_eq_true, decide_eq_true_eq] at hie
    simp only [if_true, Bool.true_or, Bool.true_eq_false, iff_false]
    refine hshort ?_
    rw [dropEnd, List.length_append, List.length_take, hlen, List.length_singleton]
    omega
  | false =>
    cases hsilent : silentStems.any (endsIn w) with
    | true =>
      simp only [Bool.false_eq_true, if_false, if_true, Bool.or_true, Bool.true_or,
        Bool.true_eq_false, iff_false]
      refine hshort ?_
      rw [dropEnd, List.length_take, hlen]
      omega
    | false =>
      cases hopen : openStems.any (endsIn w) with
      | true =>
        simp only [Bool.false_eq_true, if_false, if_true, Bool.or_true, Bool.true_eq_false,
          iff_false]
        exact hshort (by rw [hlen]; omega)
      | false =>
        have hmany : w.length + 1 > 1 := by omega
        simp only [Bool.false_eq_true, if_false, hmany, decide_true, Bool.and_self, if_true,
          Bool.or_self]

/-- A word that takes `es` loses its plural unless a stem that is known to take it is read back. -/
theorem losesPlural_of_sibilant (h : ["s", "x", "ch", "sh"].any (endsIn w) = true) :
    losesPlural w = !sibilantStems.any (endsIn w) := by
  have hie : endsIn w "ie" = false := not_endsIn_of_any (by decide) h
  have hsilent : silentStems.any (endsIn w) = false := any_endsIn_of_any (by decide) h
  have hopen : openStems.any (endsIn w) = false := any_endsIn_of_any (by decide) h
  rw [losesPlural, hie, hsilent, hopen, Bool.false_and, Bool.or_false, Bool.or_false,
    Bool.or_false]
  cases hs : endsIn w "s" with
  | true => rw [Bool.true_and]
  | false =>
    -- `x`, `ch` and `sh` are stems themselves
    rw [List.any_cons, hs, Bool.false_or] at h
    obtain ⟨e, he, hend⟩ := List.any_eq_true.mp h
    have hstem : sibilantStems.any (endsIn w) = true :=
      List.any_eq_true.mpr ⟨e, (by decide : ∀ e ∈ ["x", "ch", "sh"], e ∈ sibilantStems) e he, hend⟩
    rw [hstem]
    rfl

/-- A final `y` comes back from `ies`. -/
theorem singularChars_append_ies {v : List Char} (hv : v ≠ []) :
    singularChars (v ++ "ies".toList) = v ++ "y".toList := by
  have hies : endsIn (v ++ "ies".toList) "ies" = true := endsIn_append_self rfl v
  have hpos : 0 < v.length := List.length_pos_iff.mpr hv
  have hlen : (v ++ "ies".toList).length > 3 := by
    rw [List.length_append]
    exact Nat.lt_add_of_pos_left hpos
  have hdrop : dropEnd (v ++ "ies".toList) 3 = v := dropEnd_append v "ies".toList
  unfold singularChars
  rw [hies, hdrop, if_pos (by rw [decide_eq_true hlen]; rfl)]
  rfl

/-- **The singular of a plural** is the word again just where the plural is not lost. -/
theorem singularChars_pluralChars_iff (hw : w ≠ []) (hy : w ≠ ['y']) (hs : singularChars w = w) :
    singularChars (pluralChars w) = w ↔ losesPlural w = false := by
  unfold pluralChars
  rw [if_neg (not_not_intro hs)]
  split
  · rename_i hies
    rw [Bool.and_eq_true, beq_iff_eq] at hies
    obtain ⟨v, rfl⟩ := List.getLast?_eq_some_iff.mp hies.1
    have hv : v ≠ [] := by
      rintro rfl
      exact hy rfl
    have hend : ["y"].any (endsIn (v ++ ['y'])) = true :=
      any_endsIn_singleton (endsIn_append_self (t := "y") rfl v)
    have hloses : losesPlural (v ++ ['y']) = false := by
      have hsilent : silentStems.any (endsIn (v ++ ['y'])) = false :=
        any_endsIn_of_any (by decide) hend
      have hopen : openStems.any (endsIn (v ++ ['y'])) = false :=
        any_endsIn_of_any (by decide) hend
      rw [losesPlural, not_endsIn_of_any (by decide) hend, not_endsIn_of_any (by decide) hend,
        hsilent, hopen]
      rfl
    rw [List.dropLast_concat, singularChars_append_ies hv, hloses]
    exact iff_of_true rfl rfl
  · split
    · rename_i hsib
      have hi : endsIn w "i" = false := not_endsIn_of_any (by decide) hsib
      rw [losesPlural_of_sibilant hsib, singularChars_append_es hi]
      cases sibilantStems.any (endsIn w) <;> simp
    · rename_i hsib
      have hs : endsIn w "s" = false := by
        rw [List.any_cons, Bool.or_eq_true, not_or, Bool.not_eq_true] at hsib
        exact hsib.1
      exact singularChars_append_s_iff hw hs

theorem pluralChars_ne (hs : singularChars w = w) : pluralChars w ≠ w := by
  unfold pluralChars
  rw [if_neg (not_not_intro hs)]
  split
  · rename_i hies
    rw [Bool.and_eq_true, beq_iff_eq] at hies
    obtain ⟨v, rfl⟩ := List.getLast?_eq_some_iff.mp hies.1
    rw [List.dropLast_concat]
    intro h
    exact absurd (List.append_cancel_left h) (by decide)
  · split
    · exact fun h => absurd (List.append_right_eq_self.mp h) (by decide)
    · exact fun h => absurd (List.append_right_eq_self.mp h) (by decide)

/-- The plural begins like the word. -/
theorem head?_pluralChars (hw : w ≠ []) (hy : w ≠ ['y']) : (pluralChars w).head? = w.head? := by
  unfold pluralChars
  split
  · rfl
  · split
    · rename_i hies
      rw [Bool.and_eq_true, beq_iff_eq] at hies
      obtain ⟨v, rfl⟩ := List.getLast?_eq_some_iff.mp hies.1
      have hv : v ≠ [] := by
        rintro rfl
        exact hy rfl
      rw [List.dropLast_concat, List.head?_append_of_ne_nil _ hv, List.head?_append_of_ne_nil _ hv]
    · split
      · exact List.head?_append_of_ne_nil _ hw
      · exact List.head?_append_of_ne_nil _ hw

end Naming

namespace Namer

theorem toList_pluralize (word : String) :
    (standard.pluralize word).toList = Naming.pluralChars word.toList :=
  String.toList_ofList

theorem singularize_eq_iff {word other : String} :
    standard.singularize word = other ↔ Naming.singularChars word.toList = other.toList := by
  show String.ofList (Naming.singularChars word.toList) = other ↔ _
  rw [← String.toList_inj, String.toList_ofList]

theorem isPlural_eq_false_iff {word : String} :
    standard.isPlural word = false ↔ Naming.singularChars word.toList = word.toList := by
  rw [isPlural, decide_eq_false_iff_not, not_not, singularize_eq_iff]

end Namer

namespace Classifier

/-! ## Names of operations -/

section

variable {n : Namer} {verb other rest : String}

/-- A verb with a capitalised word behind it gives the word. -/
theorem resourceAfter?_append (h : rest.toList.head?.any Text.isUppercase = true) :
    resourceAfter? verb (verb ++ rest) = some rest := by
  have hpre : verb.toList.isPrefixOf (verb ++ rest).toList = true := by
    rw [List.isPrefixOf_iff_prefix, String.toList_append]
    exact List.prefix_append _ _
  have hdrop : (verb ++ rest).toList.drop verb.length = rest.toList := by
    rw [String.toList_append, ← String.length_toList, List.drop_left]
  unfold resourceAfter?
  rw [if_pos hpre, hdrop]
  cases hchars : rest.toList with
  | nil => rw [hchars] at h; cases h
  | cons c cs =>
    rw [hchars, List.head?_cons, Option.any_some] at h
    simp only [h, if_true]
    rw [← hchars, String.ofList_toList]

/-- Another verb is not read off a name that begins with a verb. -/
theorem resourceAfter?_append_of_ne
    (h : ∀ cs, other.toList.isPrefixOf (verb.toList ++ cs) = false) :
    resourceAfter? other (verb ++ rest) = none := by
  unfold resourceAfter?
  rw [String.toList_append, h]
  rfl

theorem beforeAttributes?_eq_none (h : ¬ "Attributes".toList <:+ rest.toList) :
    beforeAttributes? rest = none := by
  unfold beforeAttributes?
  have hno : "Attributes".toList.isSuffixOf rest.toList = false := by
    rw [Bool.eq_false_iff]
    exact fun hyes => h (List.isSuffixOf_iff_suffix.mp hyes)
  simp only [hno, Bool.false_and, Bool.false_eq_true, if_false]

variable (n) (h : rest.toList.head?.any Text.isUppercase = true)
include h

theorem byConvention_create :
    byConvention n ("Create" ++ rest) = some (pluralAware n .createBatch .create rest) := by
  unfold byConvention
  rw [resourceAfter?_append h]
  rfl

theorem byConvention_describe :
    byConvention n ("Describe" ++ rest) = some (pluralAware n .list .get rest) := by
  unfold byConvention
  rw [resourceAfter?_append_of_ne fun _ => rfl, resourceAfter?_append_of_ne fun _ => rfl,
    resourceAfter?_append_of_ne fun _ => rfl, resourceAfter?_append_of_ne fun _ => rfl,
    resourceAfter?_append_of_ne fun _ => rfl, resourceAfter?_append_of_ne fun _ => rfl,
    resourceAfter?_append h]
  rfl

theorem byConvention_get (hattr : ¬ "Attributes".toList <:+ rest.toList) :
    byConvention n ("Get" ++ rest) = some (pluralAware n .list .get rest) := by
  unfold byConvention
  rw [resourceAfter?_append_of_ne fun _ => rfl, resourceAfter?_append_of_ne fun _ => rfl,
    resourceAfter?_append_of_ne fun _ => rfl, resourceAfter?_append_of_ne fun _ => rfl,
    resourceAfter?_append h, Option.bind_some, beforeAttributes?_eq_none hattr,
    resourceAfter?_append_of_ne fun _ => rfl, resourceAfter?_append_of_ne fun _ => rfl]
  rfl

theorem byConvention_list :
    byConvention n ("List" ++ rest) = some (.list, n.singularize rest) := by
  unfold byConvention
  rw [resourceAfter?_append_of_ne fun _ => rfl, resourceAfter?_append_of_ne fun _ => rfl,
    resourceAfter?_append_of_ne fun _ => rfl, resourceAfter?_append_of_ne fun _ => rfl,
    resourceAfter?_append_of_ne fun _ => rfl, resourceAfter?_append_of_ne fun _ => rfl,
    resourceAfter?_append_of_ne fun _ => rfl, resourceAfter?_append h]
  rfl

end

/-- A name is listed under the resource that its plural is read back to. -/
theorem pluralAware_list_iff {n : Namer} {plural resource : String} (hne : plural ≠ resource) :
    pluralAware n .list .get plural = (.list, resource) ↔ n.singularize plural = resource := by
  unfold pluralAware Namer.isPlural
  by_cases hsame : n.singularize plural = plural
  · simp [hsame, hne]
  · simp [hsame]

/-! ## Plural operations -/

section

variable {resource : String}

/-- A capitalised word is neither empty nor just a `y`. -/
theorem toList_ne_of_capital (h : resource.toList.head?.any Text.isUppercase = true) :
    resource.toList ≠ [] ∧ resource.toList ≠ ['y'] := by
  constructor
  · intro hnil
    rw [hnil] at h
    cases h
  · intro hy
    rw [hy, List.head?_cons, Option.any_some, Text.isUppercase_of_ascii (by decide)] at h
    cases h

/-- **Operations on many resources are listed under the resource whose plural they name** iff the
plural is not lost, unless the name reads as one about attributes. The Create operation is found
for every singular name. -/
theorem byConvention_plural_iff (hcapital : resource.toList.head?.any Text.isUppercase = true)
    (hsingular : Namer.standard.isPlural resource = false) :
    let plural := Namer.standard.pluralize resource
    (Namer.standard.singularize plural = resource ↔ Naming.losesPlural resource.toList = false) ∧
      byConvention .standard ("Create" ++ resource) = some (.create, resource) ∧
      (byConvention .standard ("Describe" ++ plural) = some (.list, resource) ↔
        Naming.losesPlural resource.toList = false) ∧
      (byConvention .standard ("List" ++ plural) = some (.list, resource) ↔
        Naming.losesPlural resource.toList = false) ∧
      (¬ "Attributes".toList <:+ ("Get" ++ plural).toList →
        (byConvention .standard ("Get" ++ plural) = some (.list, resource) ↔
          Naming.losesPlural resource.toList = false)) := by
  intro plural
  obtain ⟨hnil, hy⟩ := toList_ne_of_capital hcapital
  have hkept := Namer.isPlural_eq_false_iff.mp hsingular
  have hback : Namer.standard.singularize plural = resource ↔
      Naming.losesPlural resource.toList = false := by
    rw [Namer.singularize_eq_iff, Namer.toList_pluralize]
    exact Naming.singularChars_pluralChars_iff hnil hy hkept
  have hne : plural ≠ resource := by
    rw [Ne, ← String.toList_inj, Namer.toList_pluralize]
    exact Naming.pluralChars_ne hkept
  have hplural : plural.toList.head?.any Text.isUppercase = true := by
    rw [Namer.toList_pluralize, Naming.head?_pluralChars hnil hy]
    exact hcapital
  refine ⟨hback, ?_, ?_, ?_, fun hattr => ?_⟩
  · rw [byConvention_create _ hcapital, pluralAware, hsingular]
    rfl
  · rw [byConvention_describe _ hplural, Option.some_inj, pluralAware_list_iff hne, hback]
  · rw [byConvention_list _ hplural, Option.some_inj, Prod.mk.injEq, eq_self_iff_true, true_and,
      hback]
  · have hrest : ¬ "Attributes".toList <:+ plural.toList := fun h =>
      hattr (String.toList_append ▸ h.trans (List.suffix_append _ _))
    rw [byConvention_get _ hplural hrest, Option.some_inj, pluralAware_list_iff hne, hback]

end

/-- Buses are listed as such. -/
theorem byConvention_plural_eventBus :
    Namer.standard.pluralize "EventBus" = "EventBuses" ∧
      byConvention .standard "CreateEventBus" = some (.create, "EventBus") ∧
      byConvention .standard "DescribeEventBuses" = some (.list, "EventBus") ∧
      byConvention .standard "ListEventBuses" = some (.list, "EventBus") ∧
      byConvention .standard "GetEventBuses" = some (.list, "EventBus") := by
  have hplural : Namer.standard.pluralize "EventBus" = "EventBuses" := by decide
  have hkept : Naming.losesPlural "EventBus".toList = false := by decide
  have hcapital : "EventBus".toList.head?.any Text.isUppercase = true := by decide
  have hsingular : Namer.standard.isPlural "EventBus" = false := by decide
  obtain ⟨-, hcreate, hdescribe, hlist, hget⟩ := byConvention_plural_iff hcapital hsingular
  rw [hplural] at hdescribe hlist hget
  exact ⟨hplural, hcreate, hdescribe.mpr hkept, hlist.mpr hkept, (hget (by decide)).mpr hkept⟩

/-- **The plural of a cache is not read back.** -/
theorem byConvention_misses_cache :
    (∀ c ∈ "Cache".toList, c.isAlpha = true) ∧ "Cache".toList.head?.any Char.isUpper = true ∧
      Namer.standard.isPlural "Cache" = false ∧
      Namer.standard.pluralize "Cache" = "Caches" ∧
      Namer.standard.singularize "Caches" = "Cach" ∧
      byConvention .standard "CreateCache" = some (.create, "Cache") ∧
      byConvention .standard "DescribeCaches" = some (.list, "Cach") ∧
      byConvention .standard "GetCaches" = some (.list, "Cach") ∧
      byConvention .standard "ListCaches" = some (.list, "Cach") := by
  have hletters : "Cache".toList.all Char.isAlpha = true := by decide
  refine ⟨List.all_eq_true.mp hletters, ?_⟩
  decide

end Classifier

end ResourceGen
