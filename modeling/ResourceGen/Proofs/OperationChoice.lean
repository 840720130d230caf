import ResourceGen.Proofs.Bystanders
import ResourceGen.Proofs.ByteOrder

/-!
# Which operation a resource gets

Several operations can have one role for one resource, by their names, by the exact overrides of
the configuration or by its patterns. The index holds them all in the order of their names and
answers with the last one, so the greatest name counts (`OperationIndex.get?_eq_some_iff`). An
operation plays one role for one resource at most (`Operation.Plays`), whatever the configuration
says, so no operation is answered for two.

The resources are those that the index has a Create operation for, unless they are left out. Each is
derived once, and they are put into the order of their kinds.

All this holds for every pattern engine. A pattern is valid if the engine reads it.

Results:
* `Entries.getLast?_filterMap_eq_some_iff`: the last of the values that are kept has the greatest
  key.
* `Overrides.exists_ofConfig`: the overrides of a configuration with valid patterns.
* `OperationIndex.get?_eq_some_iff`, `OperationIndex.get?_eq_none_iff`: what the index answers.
* `Schema.map_name_perm`, `Schema.pairwise_kind`: the names and the order of the resources.
* `Schema.operations_chosen`: the index and the resources of a schema.
-/

namespace ResourceGen

/-! ## The last one counts -/

/-- The last of the values that are kept of ascending entries has the greatest key. -/
theorem Entries.getLast?_filterMap_eq_some_iff {α β : Type} {l : Entries α} (hl : l.Ascending)
    {g : α → Option β} {b : β} :
    (l.filterMap fun e => g e.2).getLast? = some b ↔
      ∃ e ∈ l, g e.2 = some b ∧ ∀ e' ∈ l, (g e'.2).isSome = true → e'.1 ≤ e.1 := by
  induction l using List.reverseRecOn with
  | nil => simp
  | append_singleton l e ih =>
    obtain ⟨hbefore, -, hlast⟩ := List.pairwise_append.mp hl
    have hlt : ∀ e' ∈ l, e'.1 < e.1 := fun e' he' => hlast e' he' e List.mem_cons_self
    rw [List.filterMap_append]
    cases hg : g e.2 with
    | none =>
      have hlist : [e].filterMap (fun e => g e.2) = [] := by simp [hg]
      rw [hlist, List.append_nil, ih hbefore]
      constructor
      · rintro ⟨e', he', hb, hmax⟩
        refine ⟨e', List.mem_append_left _ he', hb, fun e'' he'' hkept => ?_⟩
        rcases List.mem_append.mp he'' with he'' | he''
        · exact hmax e'' he'' hkept
        · rw [List.mem_singleton.mp he'', hg] at hkept
          cases hkept
      · rintro ⟨e', he', hb, hmax⟩
        rcases List.mem_append.mp he' with he' | he'
        · exact ⟨e', he', hb, fun e'' he'' => hmax e'' (List.mem_append_left _ he'')⟩
        · rw [List.mem_singleton.mp he', hg] at hb
          cases hb
    | some c =>
      have hlist : [e].filterMap (fun e => g e.2) = [c] := by simp [hg]
      rw [hlist, List.getLast?_concat]
      constructor
      · intro h
        cases h
        refine ⟨e, by simp, hg, fun e' he' _ => String.not_lt.mp fun hgt => ?_⟩
        rcases List.mem_append.mp he' with he' | he'
        · exact String.lt_irrefl _ (String.lt_trans hgt (hlt e' he'))
        · rw [List.mem_singleton.mp he'] at hgt
          exact String.lt_irrefl _ hgt
      · rintro ⟨e', he', hb, hmax⟩
        rcases List.mem_append.mp he' with he' | he'
        · have hle : e.1 ≤ e'.1 := hmax e (by simp) (by simp [hg])
          exact absurd (hlt e' he') (String.not_lt.mpr hle)
        · rw [List.mem_singleton.mp he', hg] at hb
          exact hb

/-- The same for the values of a dictionary. -/
theorem Dict.getLast?_filterMap_values_eq_some_iff {α β : Type} {d : Dict α} {g : α → Option β}
    {b : β} :
    (d.values.filterMap g).getLast? = some b ↔
      ∃ k a, d.get? k = some a ∧ g a = some b ∧
        ∀ k' a', d.get? k' = some a' → (g a').isSome = true → k' ≤ k := by
  have hvalues : d.values.filterMap g = d.entries.filterMap fun e => g e.2 := by
    rw [Dict.values, List.filterMap_map]
    rfl
  rw [hvalues, Entries.getLast?_filterMap_eq_some_iff d.ascending]
  simp [Dict.mem_entries_iff]

/-- The order of texts is the order of their bytes. -/
theorem Text.bytes_le_iff {s t : String} : Text.bytes s ≤ Text.bytes t ↔ s ≤ t := by
  constructor
  · intro h
    by_contra hlt
    exact absurd (Text.bytes_lt (String.not_le.mp hlt)) (List.not_lt.mpr h)
  · intro h
    by_cases heq : s = t
    · rw [heq]
      exact List.le_refl _
    · have hlt : s < t := String.not_le.mp fun hle => heq (String.le_antisymm h hle)
      exact List.le_of_lt (Text.bytes_lt hlt)

/-! ## Classification -/

section

variable [PatternEngine]

namespace Config

/-- Every pattern of an override can be read. -/
def PatternsValid (c : Config) : Prop :=
  ∀ p ∈ c.operationPatterns, (PatternEngine.compile? p.pattern).isSome = true

instance (c : Config) : Decidable c.PatternsValid := inferInstanceAs (Decidable (∀ p ∈ _, _))

/-- What a pattern makes of the name of an operation. -/
def patternRole? (operation : String) (p : OperationPattern) : Option (Role × String) := do
  let pattern ← PatternEngine.compile? p.pattern
  let found ← PatternEngine.find? pattern operation
  return (p.role, PatternEngine.expand found p.resource)

/-- The role and the resource that are configured for an operation: for its exact name, else by the
first pattern that it matches. -/
def roleOf? (c : Config) (operation : String) : Option (Role × String) :=
  match c.operations.get? operation with
  | some e => some (e.role, e.resource)
  | none => c.operationPatterns.findSome? (patternRole? operation)

end Config

namespace Overrides

/-- A pattern that is read does what its text says. -/
theorem applyPattern_of_readPattern {p : OperationPattern} {q : PatternOverride}
    (h : readPattern p = .ok q) (name : String) : applyPattern name q = Config.patternRole? name p := by
  unfold readPattern at h
  unfold Config.patternRole?
  split at h
  · rename_i pattern hpattern
    cases h
    rw [hpattern]
    unfold applyPattern
    show (PatternEngine.find? pattern name).map _ = (PatternEngine.find? pattern name).bind _
    cases PatternEngine.find? pattern name <;> rfl
  · cases h

theorem findSome?_applyPattern {ps : List OperationPattern} {qs : List PatternOverride}
    (h : ps.mapM readPattern = .ok qs) (name : String) :
    qs.findSome? (applyPattern name) = ps.findSome? (Config.patternRole? name) := by
  induction ps generalizing qs with
  | nil =>
    rw [Result.mapM_nil_eq_ok_iff.mp h]
    rfl
  | cons p ps ih =>
    obtain ⟨q, rest, hq, hrest, rfl⟩ := Result.mapM_cons_eq_ok_iff.mp h
    rw [List.findSome?_cons, List.findSome?_cons, applyPattern_of_readPattern hq, ih hrest]

/-- **The overrides of a configuration with valid patterns** say what is configured. -/
theorem exists_ofConfig {c : Config} (hvalid : c.PatternsValid) :
    ∃ overrides, ofConfig c = .ok overrides ∧ ∀ name, overrides.lookup name = c.roleOf? name := by
  have hread : ∀ p ∈ c.operationPatterns, ∃ q, readPattern p = .ok q := by
    intro p hp
    obtain ⟨pattern, hpattern⟩ := Option.isSome_iff_exists.mp (hvalid p hp)
    exact ⟨⟨pattern, p.role, p.resource⟩, by rw [readPattern, hpattern]⟩
  obtain ⟨patterns, hpatterns⟩ := Result.exists_mapM_eq_ok hread
  refine ⟨⟨c.operations, patterns⟩, Result.bind_eq_ok_iff.mpr ⟨patterns, hpatterns, rfl⟩, ?_⟩
  intro name
  unfold lookup Config.roleOf?
  cases c.operations.get? name with
  | some e => rfl
  | none => exact findSome?_applyPattern hpatterns name

end Overrides

/-- An operation plays a role for a resource: it is not left out, and the configuration or else the
classifier says so. -/
def Operation.Plays (c : Config) (classifier : Classifier) (role : Role) (resource : String)
    (o : Operation) : Prop :=
  c.isIgnoredOperation o.name = false ∧
    (c.roleOf? o.name).or (classifier o.name) = some (role, resource)

instance (c : Config) (classifier : Classifier) (role : Role) (resource : String)
    (o : Operation) : Decidable (o.Plays c classifier role resource) :=
  inferInstanceAs (Decidable (_ ∧ _))

/-- An operation plays one role for one resource. -/
theorem Operation.Plays.unique {c : Config} {classifier : Classifier} {role role' : Role}
    {resource resource' : String} {o : Operation} (h : o.Plays c classifier role resource)
    (h' : o.Plays c classifier role' resource') : role' = role ∧ resource' = resource := by
  have heq := h'.2.symm.trans h.2
  cases heq
  exact ⟨rfl, rfl⟩

namespace OperationIndex

variable {m : ServiceModel} {c : Config} {classifier : Classifier} {x : OperationIndex}
  {role : Role} {resource : String} {o : Operation}

/-- How an operation is classified. -/
theorem classify_eq_some_iff {overrides : Overrides}
    (hlookup : ∀ name, overrides.lookup name = c.roleOf? name) {e : ClassifiedOperation} :
    classify c (overrides.before classifier) o = some e ↔
      e.operation = o ∧ o.Plays c classifier e.role e.resource := by
  unfold classify Overrides.before Operation.Plays
  rw [hlookup]
  by_cases hignored : c.isIgnoredOperation o.name = true
  · simp [hignored]
  · rw [if_neg hignored, Option.map_eq_some_iff]
    obtain ⟨role, resource, operation⟩ := e
    constructor
    · rintro ⟨⟨role', resource'⟩, hrole, heq⟩
      cases heq
      exact ⟨rfl, by simpa using hignored, hrole⟩
    · rintro ⟨rfl, -, hrole⟩
      exact ⟨(role, resource), hrole, rfl⟩

/-- What is kept of an operation for a role of a resource. -/
theorem ifFor_eq_some_iff {overrides : Overrides}
    (hlookup : ∀ name, overrides.lookup name = c.roleOf? name) {e : ClassifiedOperation} :
    ifFor c (overrides.before classifier) role resource o = some e ↔
      e = ⟨role, resource, o⟩ ∧ o.Plays c classifier role resource := by
  unfold ifFor
  rw [Option.filter_eq_some_iff, classify_eq_some_iff hlookup]
  obtain ⟨role', resource', operation⟩ := e
  simp only [isFor, Bool.and_eq_true, beq_iff_eq, ClassifiedOperation.mk.injEq]
  constructor
  · rintro ⟨⟨rfl, hplays⟩, rfl, rfl⟩
    exact ⟨⟨rfl, rfl, rfl⟩, hplays⟩
  · rintro ⟨⟨rfl, rfl, rfl⟩, hplays⟩
    exact ⟨⟨rfl, hplays⟩, rfl, rfl⟩

/-- The index looks for the last of the operations that are kept for a role of a resource. -/
theorem get?_eq_getLast? (hvalid : c.PatternsValid) (hx : ofModel m c classifier = .ok x)
    (role : Role) (resource : String) :
    ∃ keep : Operation → Option ClassifiedOperation,
      (∀ o e, keep o = some e ↔ e = ⟨role, resource, o⟩ ∧ o.Plays c classifier role resource) ∧
        x.get? role resource =
          ((m.operations.values.filterMap keep).getLast?).map (·.operation) := by
  obtain ⟨overrides, hoverrides, hlookup⟩ := Overrides.exists_ofConfig hvalid
  obtain ⟨_, hread, hx⟩ := Result.bind_eq_ok_iff.mp hx
  cases hoverrides.symm.trans hread
  obtain rfl := Result.pure_eq_ok_iff.mp hx
  refine ⟨ifFor c (overrides.before classifier) role resource,
    fun o e => ifFor_eq_some_iff hlookup, ?_⟩
  unfold get?
  rw [List.filter_filterMap]
  rfl

/-- **What the index answers**: of the operations that play a role for a resource, the one with the
greatest name. -/
theorem get?_eq_some_iff (hvalid : c.PatternsValid) (hx : ofModel m c classifier = .ok x) :
    x.get? role resource = some o ↔
      ∃ name, m.operation? name = some o ∧ o.Plays c classifier role resource ∧
        ∀ name' o', m.operation? name' = some o' → o'.Plays c classifier role resource →
          Text.bytes name' ≤ Text.bytes name := by
  obtain ⟨keep, hkeep, hget⟩ := get?_eq_getLast? hvalid hx role resource
  have hkept (o' : Operation) :
      (keep o').isSome = true ↔ o'.Plays c classifier role resource := by
    simp [Option.isSome_iff_exists, hkeep]
  unfold ServiceModel.operation?
  rw [hget, Option.map_eq_some_iff]
  constructor
  · rintro ⟨e, he, rfl⟩
    obtain ⟨name, o, ho, hfor, hmax⟩ := Dict.getLast?_filterMap_values_eq_some_iff.mp he
    obtain ⟨rfl, hplays⟩ := (hkeep o e).mp hfor
    exact ⟨name, ho, hplays, fun name' o' ho' hplays' =>
      Text.bytes_le_iff.mpr (hmax name' o' ho' ((hkept o').mpr hplays'))⟩
  · rintro ⟨name, ho, hplays, hmax⟩
    refine ⟨⟨role, resource, o⟩, Dict.getLast?_filterMap_values_eq_some_iff.mpr
      ⟨name, o, ho, (hkeep o _).mpr ⟨rfl, hplays⟩, ?_⟩, rfl⟩
    exact fun name' o' ho' hfor => Text.bytes_le_iff.mp (hmax name' o' ho' ((hkept o').mp hfor))

/-- **When the index has no answer**: no operation plays the role for the resource. -/
theorem get?_eq_none_iff (hvalid : c.PatternsValid) (hx : ofModel m c classifier = .ok x) :
    x.get? role resource = none ↔
      ∀ o ∈ m.operations.values, ¬ o.Plays c classifier role resource := by
  obtain ⟨keep, hkeep, hget⟩ := get?_eq_getLast? hvalid hx role resource
  rw [hget, Option.map_eq_none_iff, List.getLast?_eq_none_iff, List.filterMap_eq_nil_iff]
  refine forall₂_congr fun o _ => ?_
  rw [Option.eq_none_iff_forall_ne_some]
  simp [hkeep]

/-- Where every operation is under its own name, names need no mention apart from operations. -/
theorem get?_eq_some_iff_of_keyed (hvalid : c.PatternsValid)
    (hx : ofModel m c classifier = .ok x) (hkeyed : m.Keyed) :
    x.get? role resource = some o ↔
      o ∈ m.operations.values ∧ o.Plays c classifier role resource ∧
        ∀ o' ∈ m.operations.values, o'.Plays c classifier role resource →
          Text.bytes o'.name ≤ Text.bytes o.name := by
  rw [get?_eq_some_iff hvalid hx]
  constructor
  · rintro ⟨name, ho, hplays, hmax⟩
    refine ⟨Dict.mem_values_of_get? ho, hplays, fun o' ho' hplays' => ?_⟩
    obtain ⟨name', hname'⟩ := Dict.exists_get?_of_mem_values ho'
    rw [hkeyed.operations name o ho, hkeyed.operations name' o' hname']
    exact hmax name' o' hname' hplays'
  · rintro ⟨ho, hplays, hmax⟩
    obtain ⟨name, hname⟩ := Dict.exists_get?_of_mem_values ho
    refine ⟨name, hname, hplays, fun name' o' ho' hplays' => ?_⟩
    have hle := hmax o' (Dict.mem_values_of_get? ho') hplays'
    rwa [hkeyed.operations name o hname, hkeyed.operations name' o' ho'] at hle

/-- The index answers with the last operation that plays a role for a resource. -/
structure AnswersLast (x : OperationIndex) (m : ServiceModel) (c : Config)
    (classifier : Classifier) : Prop where
  some_iff : ∀ role resource o, x.get? role resource = some o ↔
    ∃ name, m.operation? name = some o ∧ o.Plays c classifier role resource ∧
      ∀ name' o', m.operation? name' = some o' → o'.Plays c classifier role resource →
        Text.bytes name' ≤ Text.bytes name
  none_iff : ∀ role resource, x.get? role resource = none ↔
    ∀ o ∈ m.operations.values, ¬ o.Plays c classifier role resource
  /-- Operations that are under their own names are told apart by these. -/
  keyed : m.Keyed → ∀ role resource o, x.get? role resource = some o ↔
    o ∈ m.operations.values ∧ o.Plays c classifier role resource ∧
      ∀ o' ∈ m.operations.values, o'.Plays c classifier role resource →
        Text.bytes o'.name ≤ Text.bytes o.name
  /-- No operation is answered for two. -/
  unique : ∀ role resource role' resource' o, x.get? role resource = some o →
    x.get? role' resource' = some o → role' = role ∧ resource' = resource

theorem exists_answersLast (m : ServiceModel) (classifier : Classifier)
    (hvalid : c.PatternsValid) :
    ∃ x, ofModel m c classifier = .ok x ∧ x.AnswersLast m c classifier := by
  obtain ⟨overrides, hoverrides, -⟩ := Overrides.exists_ofConfig hvalid
  have hx : ofModel m c classifier =
      .ok ⟨m.operations.values.filterMap (classify c (overrides.before classifier))⟩ :=
    Result.bind_eq_ok_iff.mpr ⟨overrides, hoverrides, rfl⟩
  refine ⟨_, hx, fun role resource o => get?_eq_some_iff hvalid hx,
    fun role resource => get?_eq_none_iff hvalid hx,
    fun hkeyed role resource o => get?_eq_some_iff_of_keyed hvalid hx hkeyed, ?_⟩
  intro role resource role' resource' o h h'
  obtain ⟨-, -, hplays, -⟩ := (get?_eq_some_iff hvalid hx).mp h
  obtain ⟨-, -, hplays', -⟩ := (get?_eq_some_iff hvalid hx).mp h'
  exact hplays.unique hplays'

end OperationIndex

end

/-- The operations of a resource are those that the index has for it. -/
theorem ResourceOperations.get?_ofIndex_of_mem {x : OperationIndex} {resource : String}
    {role : Role} (hrole : role ∈ Role.bound) :
    (ofIndex x resource).get? role = x.get? role resource := by
  cases role with
  | createBatch => exact absurd hrole (by decide)
  | _ => rfl

/-! ## The list of resources -/

/-- Results that go back to their items are as many, and in their order. -/
theorem Result.map_eq_of_mapM {α β : Type} {f : α → Result β} {k : β → α} {l : List α} {r : List β}
    (h : l.mapM f = .ok r) (hk : ∀ a ∈ l, ∀ b, f a = .ok b → k b = a) : r.map k = l := by
  induction l generalizing r with
  | nil =>
    rw [Result.mapM_nil_eq_ok_iff.mp h]
    rfl
  | cons a l ih =>
    obtain ⟨b, bs, hb, hbs, rfl⟩ := Result.mapM_cons_eq_ok_iff.mp h
    rw [List.map_cons, hk a List.mem_cons_self b hb,
      ih hbs fun x hx => hk x (List.mem_cons_of_mem a hx)]

theorem Dict.nodup_sortedKeys (l : List String) : (Dict.sortedKeys l).Nodup := by
  unfold Dict.sortedKeys Dict.keys
  refine List.pairwise_map.mpr ((Dict.ascending _).imp fun {a b} hab heq => ?_)
  rw [heq] at hab
  exact String.lt_irrefl _ hab

namespace Schema

variable {m : ServiceModel} {c : Config} {x : OperationIndex} {rs : List Resource}

theorem mem_resourceNames_iff {schema : Schema} {resource : String} :
    resource ∈ schema.resourceNames ↔
      (schema.index.get? .create resource).isSome = true ∧
        schema.config.isIgnoredResource resource = false := by
  unfold resourceNames
  rw [List.mem_filter, OperationIndex.mem_resources_iff, Bool.not_eq_true']

theorem nodup_resourceNames (schema : Schema) : schema.resourceNames.Nodup :=
  (Dict.nodup_sortedKeys _).filter _

/-- **The resources go by the names that the index has a Create operation for.** -/
theorem map_name_perm (hrs : resources ⟨m, c, .standard, x⟩ = .ok rs) :
    (rs.map (·.name)).Perm (resourceNames ⟨m, c, .standard, x⟩) := by
  obtain ⟨derived, hderived, hsort⟩ := Result.bind_eq_ok_iff.mp hrs
  obtain rfl := Result.pure_eq_ok_iff.mp hsort
  have hnames : derived.map (·.name) = resourceNames ⟨m, c, .standard, x⟩ := by
    refine Result.map_eq_of_mapM hderived fun name _ r hderive => ?_
    exact (DerivationScope.derive_cases keepsRaw_standard hderive).1
  rw [← hnames]
  exact (List.mergeSort_perm derived _).map _

/-- **The resources are in the order of their kinds.** -/
theorem pairwise_kind {schema : Schema} (hrs : schema.resources = .ok rs) :
    rs.Pairwise fun r r' => Text.bytes r.kind ≤ Text.bytes r'.kind := by
  obtain ⟨derived, -, hsort⟩ := Result.bind_eq_ok_iff.mp hrs
  obtain rfl := Result.pure_eq_ok_iff.mp hsort
  have hsorted : (sortByKind derived).Pairwise fun r r' => decide (r.kind ≤ r'.kind) = true := by
    refine List.pairwise_mergeSort (fun a b c hab hbc => ?_) (fun a b => ?_) derived
    · rw [decide_eq_true_eq] at hab hbc ⊢
      exact String.le_trans hab hbc
    · rw [Bool.or_eq_true, decide_eq_true_eq, decide_eq_true_eq]
      exact String.le_total _ _
  exact hsorted.imp fun h => Text.bytes_le_iff.mpr (of_decide_eq_true h)

/-- **The operations of resources are chosen by name, and choose the resources.** With valid
patterns the index answers with the last of the operations that play a role for a resource. The
resources of a schema are named, once each, as the index has a Create operation for and as is not
left out; they are in the order of their kinds; and each has the operations that the index answers
with. -/
theorem operations_chosen [PatternEngine] (m : ServiceModel) {c : Config}
    (hvalid : c.PatternsValid) (classifier : Classifier) :
    ∃ x, OperationIndex.ofModel m c classifier = .ok x ∧ x.AnswersLast m c classifier ∧
      ∀ (schema : Schema) (rs : List Resource),
        build m c .standard classifier = .ok schema → schema.resources = .ok rs →
        (rs.map (·.name)).Nodup ∧
          (∀ resource, resource ∈ rs.map (·.name) ↔
            (x.get? .create resource).isSome = true ∧ c.isIgnoredResource resource = false) ∧
          (rs.Pairwise fun r r' => Text.bytes r.kind ≤ Text.bytes r'.kind) ∧
          ∀ r ∈ rs, ∀ role ∈ Role.bound, r.operations.get? role = x.get? role r.name := by
  obtain ⟨x, hx, hlast⟩ := OperationIndex.exists_answersLast m classifier hvalid
  refine ⟨x, hx, hlast, fun schema rs hschema hrs => ?_⟩
  obtain ⟨index, hindex, hschema⟩ := Result.bind_eq_ok_iff.mp hschema
  obtain rfl := Result.pure_eq_ok_iff.mp hschema
  cases hx.symm.trans hindex
  have hperm := map_name_perm hrs
  refine ⟨hperm.nodup_iff.mpr (nodup_resourceNames _), fun resource => ?_, pairwise_kind hrs,
    fun r hr role hrole => ?_⟩
  · rw [hperm.mem_iff, mem_resourceNames_iff]
  · obtain ⟨name, -, hderive⟩ := derive_of_mem_resources hrs hr
    obtain ⟨rfl, hoperations, -⟩ := DerivationScope.derive_cases keepsRaw_standard hderive
    rw [hoperations, ResourceOperations.get?_ofIndex_of_mem hrole]

end Schema

/-- A service of caches. Clusters are listed and updated by two operations each. -/
def cacheModel : ServiceModel :=
  [{ name := "DeleteSnapshot" }, { name := "DescribeClusters" }, { name := "ListClusters" },
    { name := "ModifyCluster" }, { name := "TuneIt" }].foldl
      ServiceModel.addOperation (.new "Caches")

/-- Snapshots are not deleted, and clusters are tuned. -/
def cacheConfig : Config where
  ignore := { operations := ["DeleteSnapshot"] }
  operationPatterns := [⟨"^Tune", .update, "Cluster"⟩]

/-- The later names are chosen, one by convention and one by its pattern. -/
theorem operations_chosen_cache :
    ∃ x, OperationIndex.ofModel cacheModel cacheConfig (.byConvention .standard) = .ok x ∧
      x.get? .list "Cluster" = some { name := "ListClusters" } ∧
      x.get? .update "Cluster" = some { name := "TuneIt" } ∧
      x.get? .delete "Snapshot" = none := by
  have hvalid : cacheConfig.PatternsValid := by decide +kernel
  have hkeyed : cacheModel.Keyed :=
    (((((ServiceModel.keyed_new "Caches").addOperation _).addOperation _).addOperation
      _).addOperation _).addOperation _
  obtain ⟨x, hx, hlast, -⟩ :=
    Schema.operations_chosen cacheModel hvalid (.byConvention .standard)
  refine ⟨x, hx, (hlast.keyed hkeyed _ _ _).mpr ?_, (hlast.keyed hkeyed _ _ _).mpr ?_,
    (hlast.none_iff _ _).mpr ?_⟩ <;> decide +kernel

end ResourceGen
