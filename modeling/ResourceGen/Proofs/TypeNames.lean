import Mathlib.Data.List.Nodup
import Mathlib.Data.List.Pairwise
import ResourceGen.Code.Declaration
import ResourceGen.Proofs.Letters
import ResourceGen.Proofs.Partition

/-!
# Names of generated types

A resource declares four types: its kind, and its kind followed by `Spec`, `Status` and `List`. A
type definition declares one more, named by its shape; where that is the name of a Spec or a
Status, it gets the suffix `_SDK`. No camel form holds an underscore, so a name with the suffix
is taken by nothing else.

Names can clash in two ways. The name of a list is not reserved, so a structure may take it. And
the kind of one resource may be that of another one followed by `Spec`, `Status` or `List`.

Results:
* `not_mem_camel`: camel forms hold no separator.
* `mem_kinds_iff`, `mem_typeDefs_iff`: the kinds and the type definitions of a schema.
* `nodup_typeNames`: type definitions have different names.
* `nodup_declaredNames_iff`: all declared names are different unless they clash in one of the two
  ways.
* `declaredNames_clash_list`: a structure takes the name of a list.
-/

namespace ResourceGen

/-! ## Camel forms -/

namespace Text

theorem ofNat_ne {n : Nat} {sep : Char} (hsep : sep ≠ Char.ofNat 0) (h : n ≠ sep.toNat) :
    Char.ofNat n ≠ sep := by
  intro heq
  unfold Char.ofNat at heq
  by_cases hvalid : n.isValidChar
  · rw [dif_pos hvalid] at heq
    have htoNat : n = sep.toNat := congrArg Char.toNat heq
    exact h htoNat
  · rw [dif_neg hvalid] at heq
    exact hsep heq.symm

theorem toNat_ne_of_ne {c sep : Char} (h : c ≠ sep) : c.toNat ≠ sep.toNat := by
  intro heq
  rw [← Char.ofNat_toNat c, heq, Char.ofNat_toNat] at h
  exact h rfl

/-- A run that moves a code point to a place moves it there from the place before. -/
theorem CaseRun.preimage?_of_image? {r : CaseRun} {n k : Nat} (h : r.image? n = some k)
    (hk : 0 < k) : r.preimage? k = some n := by
  have himage := h
  unfold image? at h
  split at h
  · have hn : ((k : Int) - r.delta).toNat = n := by
      have hk' := Option.some.inj h
      omega
    unfold preimage?
    simp only [hn, himage, beq_self_eq_true, if_true]
  · cases h

theorem mapCode_ne {runs : List CaseRun} {k n : Nat} (hk : 0 < k)
    (hruns : runs.all (fun r => (r.preimage? k).isNone) = true) (hn : n ≠ k) :
    mapCode runs n ≠ k := by
  unfold mapCode
  cases hfound : runs.findSome? (·.image? n) with
  | none => exact hn
  | some image =>
    obtain ⟨r, hr, himage⟩ := List.exists_of_findSome?_eq_some hfound
    show image ≠ k
    rintro rfl
    have hnone := List.all_eq_true.mp hruns r hr
    rw [CaseRun.preimage?_of_image? himage hk] at hnone
    cases hnone

theorem eq_of_isSeparator {sep : Char} (hsep : Naming.isSeparator sep = true) :
    sep = '_' ∨ sep = '-' ∨ sep = ' ' ∨ sep = '.' := by
  simpa [Naming.isSeparator, or_assoc] using hsep

/-- The upper case of anything but a separator does not hold the separator. -/
theorem not_mem_uppercaseOf {c sep : Char} (hsep : Naming.isSeparator sep = true) (h : c ≠ sep) :
    sep ∉ uppercaseOf c := by
  have hc := toNat_ne_of_ne h
  have hnull : sep ≠ Char.ofNat 0 := by
    rcases eq_of_isSeparator hsep with rfl | rfl | rfl | rfl <;> decide
  unfold uppercaseOf
  split
  · rename_i hascii
    rw [List.mem_singleton]
    have hupper : c.toNat ≠ sep.toNat → c.toUpper ≠ sep := by
      refine forall_ascii (P := fun c => c.toNat ≠ sep.toNat → c.toUpper ≠ sep) ?_ hascii
      rcases eq_of_isSeparator hsep with rfl | rfl | rfl | rfl <;> decide
    exact (hupper hc).symm
  · split
    · rename_i key image hfound
      have hall : ∀ e ∈ longUppercase, ∀ n ∈ e.2, n ≠ sep.toNat := by
        rcases eq_of_isSeparator hsep with rfl | rfl | rfl | rfl <;> decide
      intro hmem
      obtain ⟨n, hn, heq⟩ := List.mem_map.mp hmem
      exact ofNat_ne hnull (hall _ (List.mem_of_find?_eq_some hfound) n hn) heq
    · rw [List.mem_singleton]
      refine (ofNat_ne hnull (mapCode_ne ?_ ?_ hc)).symm <;>
        rcases eq_of_isSeparator hsep with rfl | rfl | rfl | rfl <;> decide

end Text

namespace Naming

open Text

variable {sep : Char} (hsep : isSeparator sep = true)

include hsep

theorem not_mem_words {current raw : List Char} (hcurrent : sep ∉ current) :
    ∀ w ∈ splitFrom current raw, sep ∉ w := by
  fun_induction splitFrom current raw with
  | case1 => simp
  | case2 current _ => simpa using hcurrent
  | case3 c rest hc ih => exact ih (by simp)
  | case4 c rest hc ih =>
    refine ih ?_
    rw [List.mem_singleton]
    rintro rfl
    exact hc hsep
  | case5 prev current c rest hc ih =>
    intro w hw
    rcases List.mem_cons.mp hw with rfl | hw
    · exact fun hmem => hcurrent (List.mem_reverse.mp hmem)
    · exact ih (by simp) w hw
  | case6 prev current c rest hc hopen ih =>
    intro w hw
    rcases List.mem_cons.mp hw with rfl | hw
    · exact fun hmem => hcurrent (List.mem_reverse.mp hmem)
    · refine ih ?_ w hw
      rw [List.mem_singleton]
      rintro rfl
      exact hc hsep
  | case7 prev current c rest hc hopen ih =>
    refine ih fun hmem => ?_
    rcases List.mem_cons.mp hmem with rfl | hmem
    · exact hc hsep
    · exact hcurrent hmem

theorem not_mem_initialism {lower i : List Char} (h : initialism? lower = some i) : sep ∉ i := by
  obtain ⟨text, hfound, rfl⟩ := Option.map_eq_some_iff.mp h
  have hall : ∀ text ∈ initialisms, sep ∉ text.toList := by
    rcases eq_of_isSeparator hsep with rfl | rfl | rfl | rfl <;> decide
  exact hall text (List.mem_of_find?_eq_some hfound)

theorem not_mem_normalize {word : List Char} (h : sep ∉ word) : sep ∉ normalize word := by
  unfold normalize
  simp only
  split
  · rename_i i hi
    exact not_mem_initialism hsep hi
  · split
    · rename_i i hi
      obtain ⟨stem, -, hi⟩ := Option.bind_eq_some_iff.mp hi
      have hne : sep ≠ 's' := by
        rcases eq_of_isSeparator hsep with rfl | rfl | rfl | rfl <;> decide
      simp [not_mem_initialism hsep hi, hne]
    · split
      · simp
      · rename_i first rest
        rw [List.mem_append, not_or]
        rw [List.mem_cons, not_or] at h
        exact ⟨not_mem_uppercaseOf hsep (Ne.symm h.1), h.2⟩

/-- **Camel forms hold no separator.** -/
theorem not_mem_camel (raw : String) : sep ∉ (Namer.standard.names raw).camel.toList := by
  show sep ∉ (String.ofList (camelForm (normalWords raw.toList))).toList
  rw [String.toList_ofList, camelForm, List.mem_flatten]
  rintro ⟨w, hw, hmem⟩
  obtain ⟨word, hword, rfl⟩ := List.mem_map.mp hw
  exact not_mem_normalize hsep (not_mem_words hsep (by simp) word hword) hmem

end Naming

/-! ## Kinds and type definitions -/

namespace DerivationScope

variable {s : DerivationScope} {index : OperationIndex} {resource : String} {r : Resource}

/-- A derived resource grows from its Spec. -/
theorem extends_of_derive (h : s.derive index resource = .ok r) :
    ∃ fs, (s.withSpec resource index fs).Extends r := by
  obtain ⟨create, fs, parts, -, -, -, rfl⟩ := derive_steps h
  have hparts := Resource.extends_foldl (extends_addOutputPart create.name) parts
    (s.withSpec resource index fs)
  exact ⟨fs, hparts.trans (extends_withRoutes _)⟩

theorem names_of_derive (h : s.derive index resource = .ok r) :
    r.names = s.namer.names resource := by
  obtain ⟨fs, hextends⟩ := extends_of_derive h
  rw [hextends.names, withSpec_eq]
  rfl

theorem operations_of_derive (h : s.derive index resource = .ok r) :
    r.operations = .ofIndex index resource := by
  obtain ⟨fs, hextends⟩ := extends_of_derive h
  rw [hextends.operations, withSpec_eq]
  rfl

end DerivationScope

theorem TypeDef.ofShape_eq_some {types : TypeResolver} {s : Shape} {d : TypeDef}
    (h : ofShape types s = .ok (some d)) :
    d.names = types.namer.names s.name ∧ d.typeName = types.resourceTypeName s.name ∧
      attributesOf types s = .ok d.attributes ∧ d.attributes.isEmpty = false := by
  obtain ⟨attributes, hattributes, h⟩ := Result.bind_eq_ok_iff.mp h
  have h := Result.pure_eq_ok_iff.mp h
  split at h
  · cases h
  · rename_i hempty
    cases h
    exact ⟨rfl, rfl, hattributes, by simpa using hempty⟩

namespace Schema

variable {schema : Schema} {rs : List Resource} {defs : List TypeDef}

theorem exists_names_of_mem_resources (hrs : schema.resources = .ok rs) {r : Resource}
    (hr : r ∈ rs) : ∃ name ∈ schema.resourceNames, r.names = schema.namer.names name := by
  obtain ⟨name, hname, hderive⟩ := derive_of_mem_resources hrs hr
  exact ⟨name, hname, DerivationScope.names_of_derive hderive⟩

/-- The kinds of a schema are those of its resources. -/
theorem mem_kinds_iff (hrs : schema.resources = .ok rs) {k : String} :
    k ∈ schema.kinds ↔ ∃ r ∈ rs, r.kind = k := by
  unfold kinds
  rw [Dict.mem_sortedKeys, List.mem_map]
  constructor
  · rintro ⟨name, hname, rfl⟩
    unfold resources at hrs
    obtain ⟨derived, hderived, hsort⟩ := Result.bind_eq_ok_iff.mp hrs
    obtain rfl := Result.pure_eq_ok_iff.mp hsort
    obtain ⟨r, hr, hderive⟩ := Result.exists_of_mem_of_mapM hderived hname
    refine ⟨r, List.mem_mergeSort.mpr hr, ?_⟩
    rw [Resource.kind, DerivationScope.names_of_derive hderive]
    rfl
  · rintro ⟨r, hr, rfl⟩
    obtain ⟨name, hname, heq⟩ := exists_names_of_mem_resources hrs hr
    exact ⟨name, hname, by rw [Resource.kind, heq]⟩

/-- The type definitions of a schema are those of the structures that may have one. -/
theorem mem_typeDefs_iff (hdefs : schema.typeDefs = .ok defs) {d : TypeDef} :
    d ∈ defs ↔ ∃ s ∈ schema.model.shapes.values,
      TypeDef.isCandidate schema.types schema.config schema.kinds s = true ∧
        TypeDef.ofShape schema.types s = .ok (some d) := by
  unfold typeDefs TypeDef.all at hdefs
  obtain ⟨found, hfound, hsort⟩ := Result.bind_eq_ok_iff.mp hdefs
  obtain rfl := Result.pure_eq_ok_iff.mp hsort
  rw [List.mem_mergeSort, List.mem_filterMap]
  constructor
  · rintro ⟨o, ho, rfl⟩
    obtain ⟨s, hs, hd⟩ := Result.exists_of_mem_mapM hfound ho
    rw [List.mem_filter] at hs
    exact ⟨s, hs.1, hs.2, hd⟩
  · rintro ⟨s, hs, hcandidate, hd⟩
    obtain ⟨o, ho, hd'⟩ :=
      Result.exists_of_mem_of_mapM hfound (List.mem_filter.mpr ⟨hs, hcandidate⟩)
    rw [hd] at hd'
    cases hd'
    exact ⟨some d, ho, rfl⟩

/-! ## Names of type definitions -/

/-- No two structures of a model have one camel name. -/
def CamelDistinct (model : ServiceModel) (namer : Namer) : Prop :=
  ((model.shapes.values.filter (·.isStructure)).map fun s => (namer.names s.name).camel).Nodup

instance (model : ServiceModel) (namer : Namer) : Decidable (CamelDistinct model namer) :=
  inferInstanceAs (Decidable (List.Nodup _))

theorem isStructure_of_isCandidate {types : TypeResolver} {config : Config} {kinds : List String}
    {s : Shape} (h : TypeDef.isCandidate types config kinds s = true) : s.isStructure = true := by
  unfold TypeDef.isCandidate at h
  rw [Bool.and_eq_true, Bool.and_eq_true] at h
  exact h.1.1

theorem nodup_camel (hdefs : schema.typeDefs = .ok defs)
    (hshapes : CamelDistinct schema.model schema.namer) :
    (defs.map fun d => d.names.camel).Nodup := by
  unfold typeDefs TypeDef.all at hdefs
  obtain ⟨found, hfound, hsort⟩ := Result.bind_eq_ok_iff.mp hdefs
  obtain rfl := Result.pure_eq_ok_iff.mp hsort
  rw [((List.mergeSort_perm _ _).map _).nodup_iff]
  have hnames := Result.sublist_of_mapM (g := fun d => d.names.camel)
    (k := fun s : Shape => (schema.namer.names s.name).camel) hfound fun s _ d hd => by
      rw [(TypeDef.ofShape_eq_some hd).1]
      rfl
  have hstructures : schema.model.shapes.values.filter
        (TypeDef.isCandidate schema.types schema.config schema.kinds) =
      (schema.model.shapes.values.filter (·.isStructure)).filter
        (TypeDef.isCandidate schema.types schema.config schema.kinds) := by
    rw [List.filter_filter]
    refine List.filter_congr fun s _ => ?_
    cases hs : TypeDef.isCandidate schema.types schema.config schema.kinds s with
    | false => rfl
    | true => rw [isStructure_of_isCandidate hs]; rfl
  have hmodel : schema.types.model = schema.model := rfl
  rw [hmodel, hstructures] at hnames
  exact (hnames.trans (List.filter_sublist.map _)).nodup hshapes

theorem camel_suffix_inj {a b : String} (ha : '_' ∉ a.toList) (hb : '_' ∉ b.toList)
    (reserved : List String)
    (h : (if reserved.contains a then a ++ "_SDK" else a) =
      if reserved.contains b then b ++ "_SDK" else b) : a = b := by
  have hmem (c : String) : '_' ∈ (c ++ "_SDK").toList := by
    rw [String.toList_append]
    exact List.mem_append_right _ (by decide)
  split at h
  · split at h
    · exact (String.append_left_inj _).mp h
    · exact absurd (h ▸ hmem a) hb
  · split at h
    · exact absurd (h ▸ hmem b) ha
    · exact h

theorem typeName_eq (hdefs : schema.typeDefs = .ok defs) {d : TypeDef} (hd : d ∈ defs) :
    d.typeName = if schema.types.reserved.contains d.names.camel then d.names.camel ++ "_SDK"
      else d.names.camel := by
  obtain ⟨s, -, -, hof⟩ := (mem_typeDefs_iff hdefs).mp hd
  obtain ⟨hnames, htype, -, -⟩ := TypeDef.ofShape_eq_some hof
  rw [htype, hnames]
  rfl

theorem not_mem_camel_of_mem_typeDefs (hnamer : schema.namer = .standard)
    (hdefs : schema.typeDefs = .ok defs) {d : TypeDef} (hd : d ∈ defs) :
    '_' ∉ d.names.camel.toList := by
  obtain ⟨s, -, -, hof⟩ := (mem_typeDefs_iff hdefs).mp hd
  have hnames : d.names = schema.namer.names s.name := (TypeDef.ofShape_eq_some hof).1
  rw [hnames, hnamer]
  exact Naming.not_mem_camel (by decide) s.name

/-- **Type definitions have different names.** -/
theorem nodup_typeNames (hnamer : schema.namer = .standard) (hdefs : schema.typeDefs = .ok defs)
    (hshapes : CamelDistinct schema.model schema.namer) : (defs.map (·.typeName)).Nodup := by
  have hcamel := nodup_camel hdefs hshapes
  refine List.Nodup.map_on (fun d hd d' hd' heq => ?_) (List.Nodup.of_map _ hcamel)
  rw [typeName_eq hdefs hd, typeName_eq hdefs hd'] at heq
  exact List.inj_on_of_nodup_map hcamel hd hd'
    (camel_suffix_inj (not_mem_camel_of_mem_typeDefs hnamer hdefs hd)
      (not_mem_camel_of_mem_typeDefs hnamer hdefs hd') _ heq)

/-! ## Names around resources -/

/-- What the names of the types around a resource end in, behind its kind. -/
def endings : List String := ["Spec", "Status", "List"]

theorem mem_declaredTypes_iff {r : Resource} {name : String} :
    name ∈ r.declaredTypes ↔ name = r.kind ∨ ∃ ending ∈ endings, name = r.kind ++ ending := by
  simp only [Resource.declaredTypes, Resource.specStruct, Resource.statusStruct, endings,
    List.mem_cons, List.not_mem_nil, or_false, exists_eq_or_imp, exists_eq_left]
  tauto

/-- The endings differ in their last letter. -/
theorem append_ending_inj {a b ending ending' : String} (he : ending ∈ endings)
    (he' : ending' ∈ endings) (h : a ++ ending = b ++ ending') : a = b ∧ ending = ending' := by
  have hlast : ∀ e ∈ endings, ∀ e' ∈ endings, e.toList.getLast? = e'.toList.getLast? → e = e' := by
    decide
  have hne : ∀ e ∈ endings, e.toList ≠ [] := by decide
  have hlists := congrArg String.toList h
  rw [String.toList_append, String.toList_append] at hlists
  have hending : ending = ending' := by
    refine hlast ending he ending' he' ?_
    have hget := congrArg List.getLast? hlists
    rwa [List.getLast?_append_of_ne_nil _ (hne ending he),
      List.getLast?_append_of_ne_nil _ (hne ending' he')] at hget
  subst hending
  exact ⟨(String.append_left_inj _).mp h, rfl⟩

theorem ne_append_ending {a ending : String} (he : ending ∈ endings) : a ≠ a ++ ending := by
  intro h
  have hne : ∀ e ∈ endings, e.toList ≠ [] := by decide
  have hlists := congrArg String.toList h
  rw [String.toList_append] at hlists
  exact hne ending he (List.self_eq_append_right.mp hlists)

theorem nodup_declaredTypes (r : Resource) : r.declaredTypes.Nodup := by
  have hspec : "Spec" ∈ endings := by decide
  have hstatus : "Status" ∈ endings := by decide
  have hlist : "List" ∈ endings := by decide
  have hne {e e' : String} (he : e ∈ endings) (he' : e' ∈ endings) (h : e ≠ e') :
      r.kind ++ e ≠ r.kind ++ e' := fun heq => h (append_ending_inj he he' heq).2
  simp only [Resource.declaredTypes, Resource.specStruct, Resource.statusStruct, List.nodup_cons,
    List.mem_cons, List.not_mem_nil, or_false, not_or, List.nodup_nil, not_false_eq_true, and_true]
  exact ⟨⟨hne hspec hstatus (by decide), (ne_append_ending hspec).symm,
      hne hspec hlist (by decide)⟩,
    ⟨(ne_append_ending hstatus).symm, hne hstatus hlist (by decide)⟩, ne_append_ending hlist⟩

/-- No kind is another one with an ending. -/
def KindsApart (rs : List Resource) : Prop :=
  ∀ r ∈ rs, ∀ r' ∈ rs, ∀ ending ∈ endings, r'.kind ≠ r.kind ++ ending

/-- No type definition is named like the list of a resource. -/
def ListsApart (rs : List Resource) (defs : List TypeDef) : Prop :=
  ∀ r ∈ rs, ∀ d ∈ defs, d.names.camel ≠ r.kind ++ "List"

/-- The types around two resources have different names. -/
theorem disjoint_declaredTypes {r r' : Resource} (hne : r.kind ≠ r'.kind)
    (happart : ∀ ending ∈ endings, r'.kind ≠ r.kind ++ ending)
    (happart' : ∀ ending ∈ endings, r.kind ≠ r'.kind ++ ending) :
    List.Disjoint r.declaredTypes r'.declaredTypes := by
  intro name h h'
  rcases mem_declaredTypes_iff.mp h with rfl | ⟨e, he, rfl⟩
  · rcases mem_declaredTypes_iff.mp h' with heq | ⟨e', he', heq⟩
    · exact hne heq
    · exact happart' e' he' heq
  · rcases mem_declaredTypes_iff.mp h' with heq | ⟨e', he', heq⟩
    · exact happart e he heq.symm
    · exact hne (append_ending_inj he he' heq).1

/-- The types around resources of different kinds have different names exactly if the kinds are
apart. -/
theorem nodup_flatMap_declaredTypes_iff (hkinds : (rs.map (·.kind)).Nodup) :
    (rs.flatMap Resource.declaredTypes).Nodup ↔ KindsApart rs := by
  have hsymm : Std.Symm (Function.onFun List.Disjoint Resource.declaredTypes) :=
    ⟨fun _ _ h _ ha hb => h hb ha⟩
  rw [List.nodup_flatMap]
  constructor
  · rintro ⟨-, hpairs⟩ r hr r' hr' ending hending heq
    by_cases hrr : r = r'
    · exact ne_append_ending hending (hrr ▸ heq)
    · exact hpairs.forall hr hr' hrr (mem_declaredTypes_iff.mpr (Or.inr ⟨ending, hending, heq⟩))
        (mem_declaredTypes_iff.mpr (Or.inl rfl))
  · intro hkindsApart
    refine ⟨fun r _ => nodup_declaredTypes r, ?_⟩
    refine List.Pairwise.imp_of_mem (fun {r r'} hr hr' hne => ?_)
      (List.pairwise_map.mp (List.nodup_iff_pairwise_ne.mp hkinds))
    exact disjoint_declaredTypes hne (hkindsApart r hr r' hr') (hkindsApart r' hr' r hr)

theorem mem_reserved_iff (hrs : schema.resources = .ok rs) {name : String} :
    name ∈ schema.types.reserved ↔ ∃ r ∈ rs, name = r.kind ++ "Spec" ∨ name = r.kind ++ "Status" := by
  show name ∈ schema.kinds.flatMap (fun k => [k ++ "Spec", k ++ "Status"]) ↔ _
  rw [List.mem_flatMap]
  constructor
  · rintro ⟨k, hk, hname⟩
    obtain ⟨r, hr, rfl⟩ := (mem_kinds_iff hrs).mp hk
    exact ⟨r, hr, by simpa using hname⟩
  · rintro ⟨r, hr, hname⟩
    exact ⟨r.kind, (mem_kinds_iff hrs).mpr ⟨r, hr, rfl⟩, by simpa using hname⟩

/-- A type definition has the name of a type around a resource exactly if that is the list. -/
theorem typeName_mem_declaredTypes_iff (hnamer : schema.namer = .standard)
    (hrs : schema.resources = .ok rs) (hdefs : schema.typeDefs = .ok defs) {r : Resource}
    (hr : r ∈ rs) {d : TypeDef} (hd : d ∈ defs) :
    d.typeName ∈ r.declaredTypes ↔ d.names.camel = r.kind ++ "List" := by
  have hplain : '_' ∉ r.kind.toList := by
    obtain ⟨name, -, hnames⟩ := exists_names_of_mem_resources hrs hr
    rw [Resource.kind, hnames, hnamer]
    exact Naming.not_mem_camel (by decide) name
  have hlist : "List" ∈ endings := by decide
  rw [typeName_eq hdefs hd, mem_declaredTypes_iff]
  by_cases hreserved : d.names.camel ∈ schema.types.reserved
  · -- the suffix sets the name apart, and the list of a resource is not reserved
    rw [List.contains_iff_mem.mpr hreserved, if_pos rfl]
    have hsuffix : '_' ∈ (d.names.camel ++ "_SDK").toList := by
      rw [String.toList_append]
      exact List.mem_append_right _ (by decide)
    constructor
    · rintro (heq | ⟨ending, hending, heq⟩)
      · exact absurd (heq ▸ hsuffix) hplain
      · have hnone : ∀ e ∈ endings, '_' ∉ e.toList := by decide
        rw [heq, String.toList_append, List.mem_append] at hsuffix
        exact absurd hsuffix (not_or.mpr ⟨hplain, hnone ending hending⟩)
    · intro heq
      obtain ⟨r', -, h | h⟩ := (mem_reserved_iff hrs).mp hreserved
      · exact absurd (append_ending_inj hlist (by decide) (heq.symm.trans h)).2 (by decide)
      · exact absurd (append_ending_inj hlist (by decide) (heq.symm.trans h)).2 (by decide)
  · rw [if_neg (fun h => hreserved (List.contains_iff_mem.mp h))]
    constructor
    · rintro (heq | ⟨ending, hending, heq⟩)
      · -- a structure named like a kind has no type definition
        obtain ⟨s, -, hcandidate, hof⟩ := (mem_typeDefs_iff hdefs).mp hd
        have hkind : schema.kinds.contains (schema.types.namer.names s.name).camel = true := by
          rw [List.contains_iff_mem, ← (TypeDef.ofShape_eq_some hof).1, heq]
          exact (mem_kinds_iff hrs).mpr ⟨r, hr, rfl⟩
        unfold TypeDef.isCandidate at hcandidate
        rw [hkind, Bool.not_true, Bool.and_false] at hcandidate
        cases hcandidate
      · have hcases : ending = "Spec" ∨ ending = "Status" ∨ ending = "List" := by
          simpa [endings] using hending
        rcases hcases with rfl | rfl | rfl
        · exact absurd ((mem_reserved_iff hrs).mpr ⟨r, hr, Or.inl heq⟩) hreserved
        · exact absurd ((mem_reserved_iff hrs).mpr ⟨r, hr, Or.inr heq⟩) hreserved
        · exact heq
    · exact fun heq => Or.inr ⟨"List", hlist, heq⟩

/-- The names of the types that the files of a package declare. -/
def declaredNames (rs : List Resource) (defs : List TypeDef) : List String :=
  rs.flatMap Resource.declaredTypes ++ defs.map (·.typeName)

/-- **The names of the declared types are different unless they clash in one of two ways.** Where
the kinds are different, and the structures have different camel names, all names that the files of
the package declare are different exactly if
* no structure with a type definition is named like the list of a resource, and
* no kind is that of a resource followed by `Spec`, `Status` or `List`. -/
theorem nodup_declaredNames_iff [PatternEngine] {model : ServiceModel} {config : Config}
    {classifier : Classifier} {schema : Schema}
    (hschema : build model config .standard classifier = .ok schema)
    {rs : List Resource} (hrs : schema.resources = .ok rs) {defs : List TypeDef}
    (hdefs : schema.typeDefs = .ok defs) (hkinds : (rs.map (·.kind)).Nodup)
    (hshapes : CamelDistinct model .standard) :
    (declaredNames rs defs).Nodup ↔ ListsApart rs defs ∧ KindsApart rs := by
  obtain ⟨index, rfl⟩ := build_eq_ok hschema
  unfold declaredNames
  rw [List.nodup_append, nodup_flatMap_declaredTypes_iff hkinds]
  have hdisjoint : (∀ a ∈ rs.flatMap Resource.declaredTypes, ∀ b ∈ defs.map (·.typeName), a ≠ b) ↔
      ListsApart rs defs := by
    constructor
    · intro h r hr d hd heq
      exact h _ (List.mem_flatMap.mpr
        ⟨r, hr, (typeName_mem_declaredTypes_iff rfl hrs hdefs hr hd).mpr heq⟩) _
        (List.mem_map_of_mem hd) rfl
    · rintro h a ha b hb rfl
      obtain ⟨r, hr, har⟩ := List.mem_flatMap.mp ha
      obtain ⟨d, hd, rfl⟩ := List.mem_map.mp hb
      exact h r hr d hd ((typeName_mem_declaredTypes_iff rfl hrs hdefs hr hd).mp har)
  rw [hdisjoint]
  have hdefsNodup := nodup_typeNames rfl hdefs hshapes
  tauto

/-- A service with one type definition. -/
theorem typeDefs_of_single {s : Shape} {d : TypeDef}
    (hcandidates : schema.types.model.shapes.values.filter
      (TypeDef.isCandidate schema.types schema.config schema.kinds) = [s])
    (hof : TypeDef.ofShape schema.types s = .ok (some d)) : schema.typeDefs = .ok [d] := by
  rw [typeDefs, TypeDef.all, hcandidates, List.mapM_cons, hof, List.mapM_nil]
  show Except.ok (List.mergeSort [d] _) = Except.ok [d]
  rw [List.mergeSort_singleton]

end Schema

/-- A service of queues where creating one tells of something related, a structure of a given
name. -/
def relatedModel (name : String) : ServiceModel :=
  (([{ name := "Text", kind := .scalar .string },
    { name := "CreateQueueRequest", kind := .structure
        [{ name := "QueueName", target := "Text" }] },
    { name := "CreateQueueResponse", kind := .structure
        [{ name := "Related", target := name }, { name := "QueueArn", target := "Text" }] },
    { name := name, kind := .structure [{ name := "Next", target := "Text" }] }].foldl
      ServiceModel.addShape (.new "Queues")).addOperation createQueue).finish

/-- A queue and its settings: five types of different names. -/
theorem nodup_declaredNames_settings : ∃ schema rs defs,
    Schema.standard (relatedModel "Settings") {} = .ok schema ∧ schema.resources = .ok rs ∧
      schema.typeDefs = .ok defs ∧
      Schema.declaredNames rs defs =
        ["QueueSpec", "QueueStatus", "Queue", "QueueList", "Settings"] ∧
      (Schema.declaredNames rs defs).Nodup := by
  obtain ⟨schema, hschema⟩ :
      ∃ schema, Schema.standard (relatedModel "Settings") {} = .ok schema := ⟨_, rfl⟩
  obtain ⟨r, hrs, hkind⟩ : ∃ r, schema.resources = .ok [r] ∧ r.kind = "Queue" := by
    cases hschema
    exact ⟨_, Schema.resources_of_single (show Schema.resourceNames _ = ["Queue"] from rfl) rfl, rfl⟩
  obtain ⟨d, hdefs, hcamel, htype⟩ :
      ∃ d, schema.typeDefs = .ok [d] ∧ d.names.camel = "Settings" ∧ d.typeName = "Settings" := by
    cases hschema
    exact ⟨_, Schema.typeDefs_of_single rfl rfl, rfl, rfl⟩
  have hnodup := (Schema.nodup_declaredNames_iff hschema hrs hdefs (by simp) (by decide)).mpr
    ⟨by simp [Schema.ListsApart, hkind, hcamel], by
      simp [Schema.KindsApart, Schema.endings, hkind]⟩
  refine ⟨schema, [r], [d], hschema, hrs, hdefs, ?_, hnodup⟩
  simp [Schema.declaredNames, Resource.declaredTypes, Resource.specStruct, Resource.statusStruct,
    hkind, htype]

/-- A structure takes the name of the list of queues. -/
theorem declaredNames_clash_list : ∃ schema rs defs,
    Schema.standard (relatedModel "QueueList") {} = .ok schema ∧ schema.resources = .ok rs ∧
      schema.typeDefs = .ok defs ∧ (rs.map (·.kind)).Nodup ∧
      Schema.CamelDistinct (relatedModel "QueueList") .standard ∧
      ¬ (Schema.declaredNames rs defs).Nodup := by
  obtain ⟨schema, hschema⟩ :
      ∃ schema, Schema.standard (relatedModel "QueueList") {} = .ok schema := ⟨_, rfl⟩
  obtain ⟨r, hrs, hkind⟩ : ∃ r, schema.resources = .ok [r] ∧ r.kind = "Queue" := by
    cases hschema
    exact ⟨_, Schema.resources_of_single (show Schema.resourceNames _ = ["Queue"] from rfl) rfl, rfl⟩
  obtain ⟨d, hdefs, htype⟩ : ∃ d, schema.typeDefs = .ok [d] ∧ d.typeName = "QueueList" := by
    cases hschema
    exact ⟨_, Schema.typeDefs_of_single rfl rfl, rfl⟩
  refine ⟨schema, [r], [d], hschema, hrs, hdefs, by simp, by decide, ?_⟩
  simp [Schema.declaredNames, Resource.declaredTypes, Resource.specStruct, Resource.statusStruct,
    hkind, htype]

end ResourceGen
