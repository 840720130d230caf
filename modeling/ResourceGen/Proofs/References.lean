import ResourceGen.Proofs.Agreement
import ResourceGen.Proofs.Containment
import ResourceGen.Proofs.Finishing
import ResourceGen.Proofs.Properties

/-!
# References without namespaces

A service model knows shapes by their local names. Where the local names of a Smithy model are
distinct, every reference still leads to the data shape that it led to; and a reference to a shape
of the prelude, which the model does not define, leads to a shape of the prelude's kind.

The second part has a gap. A shape of the prelude is defined only where no data shape has its
local name. If the model has a data shape of that name in a namespace of its own, the reference
to the prelude leads there.

Results:
* `toShape?_target?`: a shape refers to the local names of its targets.
* `shape?_of_toService`: what the service model has under a name.
* `references_of_toService`: where references lead.
* `reference_to_prelude_misled`: a reference to the prelude leads to a data shape.
-/

namespace ResourceGen

open ServiceModel (markMembers pointedNames_finish shape?_finish)

/-! ## Steps -/

/-- The id of the shape to which a step leads. -/
def SmithyShape.target? (s : SmithyShape) : Step → Option String
  | .member name =>
    match s with
    | .structure members _ => (members.get? name).map (·.target)
    | _ => none
  | .element =>
    match s with
    | .list member _ | .set member _ => some member
    | _ => none
  | .key =>
    match s with
    | .map key _ _ => some key
    | _ => none
  | .value =>
    match s with
    | .map _ value _ => some value
    | _ => none

/-- Marking members changes nothing about where they lead. -/
theorem Shape.target?_markMembers (s : Shape) (pointed : List String) (usedAsOutput : Bool)
    (step : Step) :
    Shape.target? { s with usedAsOutput := usedAsOutput, kind := markMembers pointed s.kind } step =
      s.target? step := by
  cases step with
  | member name =>
    unfold Shape.target? Shape.member? Shape.members
    cases hk : s.kind with
    | «structure» members =>
      simp only [markMembers, List.find?_map, Option.map_map]
      rfl
    | _ => rfl
  | _ => cases hk : s.kind <;> simp [Shape.target?, markMembers, hk]

namespace SmithyDocument

variable {d : SmithyDocument}

/-- **A shape refers to the local names of its targets.** -/
theorem toShape?_target? {errors : List String} {id : String} {s : SmithyShape} {c : Shape}
    (h : toShape? errors id s = some c) (step : Step) :
    c.target? step = (s.target? step).map localName := by
  obtain ⟨kind, hkind, rfl⟩ := Option.map_eq_some_iff.mp h
  cases s with
  | «structure» members traits =>
    cases hkind
    cases step with
    | member name =>
      unfold Shape.target? Shape.member? Shape.members SmithyShape.target? Dict.get?
      simp only [List.find?_map, Option.map_map, Entries.get?_eq_find?]
      rfl
    | _ => rfl
  | service | operation | resource => cases hkind
  | union members =>
    cases hkind
    cases step <;> rfl
  | list | set | map =>
    cases hkind
    cases step <;> rfl
  | scalar type traits =>
    cases hkind
    cases type <;> cases step <;> rfl
  | other =>
    cases hkind
    cases step <;> rfl

/-- The target of a step is among the targets of the shape. -/
theorem mem_targets_of_target? {s : SmithyShape} {step : Step} {target : String}
    (h : s.target? step = some target) : target ∈ targets s := by
  cases step with
  | member name =>
    cases s with
    | «structure» members traits =>
      obtain ⟨m, hm, rfl⟩ := Option.map_eq_some_iff.mp h
      exact List.mem_map_of_mem (Dict.mem_values_of_get? hm)
    | _ => cases h
  | _ => cases s <;> cases h <;> simp [targets]

/-! ## Shapes of the prelude -/

/-- A shape of the prelude, where the prelude has it. -/
def preludeShape? (name : String) : Option Shape :=
  (preludeKind? name).map fun kind => { name := name, kind := kind }

theorem shape?_addPrelude (m : ServiceModel) (name n : String) :
    (addPrelude m name).shape? n =
      (m.shape? n).or (if n = name then preludeShape? n else none) := by
  unfold addPrelude
  by_cases hn : n = name
  · subst hn
    cases hm : m.shape? n with
    | some s => simp [hm]
    | none =>
      unfold preludeShape?
      cases preludeKind? n with
      | some kind => simp [ServiceModel.shape?, ServiceModel.addShape]
      | none => simp [hm]
  · rw [if_neg hn, Option.or_none]
    split
    · rfl
    · split
      · exact Dict.get?_insert_of_ne hn m.shapes _
      · rfl

theorem shape?_foldl_addPrelude (names : List String) (m : ServiceModel) (n : String) :
    (names.foldl addPrelude m).shape? n =
      (m.shape? n).or (if n ∈ names then preludeShape? n else none) := by
  induction names generalizing m with
  | nil => simp
  | cons name names ih =>
    rw [List.foldl_cons, ih, shape?_addPrelude, Option.or_assoc]
    by_cases hn : n = name
    · subst hn
      by_cases hmem : n ∈ names
      · simp [hmem]
      · simp [hmem]
    · simp [hn]

theorem markMembers_preludeKind {name : String} {kind : ShapeKind}
    (h : preludeKind? name = some kind) (pointed : List String) :
    markMembers pointed kind = kind := by
  unfold preludeKind? at h
  split at h <;> cases h <;> rfl

theorem mem_preludeNames {name : String} : name ∈ d.preludeNames ↔
    ∃ id s target, d.shapes.get? id = some s ∧ target ∈ targets s ∧ inPrelude target = true ∧
      localName target = name := by
  unfold preludeNames
  rw [Dict.mem_sortedKeys]
  simp only [List.mem_map, List.mem_filter, List.mem_flatMap]
  constructor
  · rintro ⟨target, ⟨⟨s, hs, htarget⟩, hprelude⟩, rfl⟩
    obtain ⟨id, hid⟩ := Dict.exists_get?_of_mem_values hs
    exact ⟨id, s, target, hid, htarget, hprelude, rfl⟩
  · rintro ⟨id, s, target, hid, htarget, hprelude, rfl⟩
    exact ⟨target, ⟨⟨s, Dict.mem_values_of_get? hid, htarget⟩, hprelude⟩, rfl⟩

/-! ## Shapes of the service -/

/-- The shape `c` of the service model comes from the data shape `s`. -/
structure ConvertedTo (pointed : List String) (s : SmithyShape) (c : Shape) : Prop where
  kind : (kind? s).map (markMembers pointed) = some c.kind
  targets : ∀ step, c.target? step = (s.target? step).map localName

theorem name_of_toShape? {errors : List String} {id : String} {s : SmithyShape} {c : Shape}
    (h : toShape? errors id s = some c) : c.name = localName id := by
  obtain ⟨kind, -, rfl⟩ := Option.map_eq_some_iff.mp h
  rfl

theorem exists_toShape? (errors : List String) (id : String) {s : SmithyShape} {kind : ShapeKind}
    (h : kind? s = some kind) : ∃ c, toShape? errors id s = some c := by
  unfold toShape?
  rw [h]
  exact ⟨_, rfl⟩

theorem id_eq_of_localName (hdistinct : (d.shapes.keys.map localName).Nodup) {id id' : String}
    {s s' : SmithyShape} (hs : d.shapes.get? id = some s) (hs' : d.shapes.get? id' = some s')
    (h : localName id = localName id') : id = id' :=
  List.inj_on_of_nodup_map hdistinct (Dict.mem_keys_iff.mpr ⟨s, hs⟩)
    (Dict.mem_keys_iff.mpr ⟨s', hs'⟩) h

/-- Data shapes with distinct local names are all there. -/
theorem shape?_dataShapes (hdistinct : (d.shapes.keys.map localName).Nodup)
    {errors : List String} {base : ServiceModel} (hempty : base.shapes = .empty) {name : String}
    {c : Shape} :
    ((d.shapes.entries.filterMap fun e => toShape? errors e.1 e.2).foldl .addShape base).shape?
        name = some c ↔
      ∃ id s, d.shapes.get? id = some s ∧ toShape? errors id s = some c ∧ localName id = name := by
  have hnames : ∀ x ∈ d.shapes.entries.filterMap fun e => toShape? errors e.1 e.2,
      ∀ y ∈ d.shapes.entries.filterMap fun e => toShape? errors e.1 e.2,
        x.name = y.name → x = y := by
    intro x hx y hy hxy
    obtain ⟨⟨id, s⟩, hs, hx⟩ := List.mem_filterMap.mp hx
    obtain ⟨⟨id', s'⟩, hs', hy⟩ := List.mem_filterMap.mp hy
    have hs := Dict.mem_entries_iff.mp hs
    have hs' := Dict.mem_entries_iff.mp hs'
    rw [name_of_toShape? hx, name_of_toShape? hy] at hxy
    obtain rfl := id_eq_of_localName hdistinct hs hs' hxy
    rw [hs] at hs'
    cases hs'
    exact Option.some.inj (hx.symm.trans hy)
  rw [ServiceModel.foldl_addShape]
  unfold ServiceModel.shape?
  rw [hempty, Dict.get?_foldl_insert_iff hnames, List.mem_filterMap]
  constructor
  · rintro ⟨⟨⟨id, s⟩, hs, hc⟩, rfl⟩
    exact ⟨id, s, Dict.mem_entries_iff.mp hs, hc, (name_of_toShape? hc).symm⟩
  · rintro ⟨id, s, hs, hc, rfl⟩
    exact ⟨⟨(id, s), Dict.mem_entries_iff.mpr hs, hc⟩, name_of_toShape? hc⟩

/-- What is under a name: a data shape of this local name, else a shape of the prelude. -/
theorem shape?_of_toService {m : ServiceModel} (hm : d.toService = .ok m)
    (hdistinct : (d.shapes.keys.map localName).Nodup) (name : String) :
    (∃ id s c, d.shapes.get? id = some s ∧ localName id = name ∧ m.shape? name = some c ∧
        ConvertedTo m.pointedNames s c) ∨
      (∀ id s, d.shapes.get? id = some s → localName id = name → kind? s = none) ∧
        (m.shape? name).map (·.kind) =
          if name ∈ d.preludeNames then preludeKind? name else none := by
  obtain ⟨_, _, _, _, _, bound, base, -, -, -, hempty, rfl⟩ := ServiceModel.toService_eq_ok hm
  rw [pointedNames_finish]
  generalize bound.flatMap (·.2) = errors
  obtain ⟨own, heq, hdata⟩ : ∃ own : ServiceModel,
      (d.shapes.entries.filterMap fun e => toShape? errors e.1 e.2).foldl .addShape base = own ∧
        ∀ c, own.shape? name = some c ↔ ∃ id s, d.shapes.get? id = some s ∧
          toShape? errors id s = some c ∧ localName id = name :=
    ⟨_, rfl, fun _ => shape?_dataShapes hdistinct hempty⟩
  rw [heq]
  have hbefore := shape?_foldl_addPrelude d.preludeNames own name
  generalize d.preludeNames.foldl addPrelude own = before at hbefore ⊢
  have hfinish := shape?_finish before name
  rw [hbefore] at hfinish
  cases hown : own.shape? name with
  | some c =>
    obtain ⟨id, s, hs, hc, hid⟩ := (hdata c).mp hown
    refine Or.inl ⟨id, s, _, hs, hid, by rw [hfinish, hown]; rfl, ?_, fun step => ?_⟩
    · obtain ⟨kind, hkind, rfl⟩ := Option.map_eq_some_iff.mp hc
      rw [hkind]
      rfl
    · exact (Shape.target?_markMembers c _ _ step).trans (toShape?_target? hc step)
  | none =>
    refine Or.inr ⟨fun id s hs hid => ?_, ?_⟩
    · cases hkind : kind? s with
      | none => rfl
      | some kind =>
        obtain ⟨c, hc⟩ := exists_toShape? errors id hkind
        have hsome := (hdata c).mpr ⟨id, s, hs, hc, hid⟩
        rw [hown] at hsome
        cases hsome
    · rw [hfinish, hown, Option.none_or]
      split
      · unfold preludeShape?
        cases hkind : preludeKind? name with
        | none => rfl
        | some kind => exact congrArg some (markMembers_preludeKind hkind _)
      · rfl

theorem shape?_of_data {m : ServiceModel} (hm : d.toService = .ok m)
    (hdistinct : (d.shapes.keys.map localName).Nodup) {id : String} {s : SmithyShape}
    (hs : d.shapes.get? id = some s) {kind : ShapeKind} (hkind : kind? s = some kind) :
    ∃ c, m.shape? (localName id) = some c ∧ ConvertedTo m.pointedNames s c := by
  rcases shape?_of_toService hm hdistinct (localName id) with
    ⟨id', s', c, hs', hid, hc, hconverted⟩ | ⟨hnone, -⟩
  · obtain rfl := id_eq_of_localName hdistinct hs' hs hid
    rw [hs] at hs'
    cases hs'
    exact ⟨c, hc, hconverted⟩
  · rw [hnone id s hs rfl] at hkind
    cases hkind

/-! ## References -/

/-- **References survive without namespaces.** In a Smithy model whose shapes have distinct local
names, a reference of a data shape to `target` is kept under the local name of `target`.
* It leads to the data shape of the model that has this local name, if there is one: to the target
  itself if that is a data shape.
* Where there is none, a target in the prelude that the model does not define is defined with its
  kind in the prelude.
* It leads nowhere only if the target is no data shape, and no shape of the prelude that has a kind
  and is missing in the model.

The kind of a shape is that of its conversion, with the members marked that are held through a
pointer. -/
theorem references_of_toService {m : ServiceModel} (hm : d.toService = .ok m)
    (hdistinct : (d.shapes.keys.map localName).Nodup) {id target : String} {s : SmithyShape}
    {kind : ShapeKind} (hs : d.shapes.get? id = some s) (hdata : kind? s = some kind) (step : Step)
    (htarget : s.target? step = some target) :
    ∃ c, m.shape? (localName id) = some c ∧ c.target? step = some (localName target) ∧
      (∀ other t k, d.shapes.get? other = some t → localName other = localName target →
        kind? t = some k →
          (m.shape? (localName target)).map (·.kind) = some (markMembers m.pointedNames k)) ∧
      (inPrelude target = true → d.shapes.get? target = none →
        (∀ other t, d.shapes.get? other = some t → localName other = localName target →
          kind? t = none) →
        (m.shape? (localName target)).map (·.kind) = preludeKind? (localName target)) ∧
      (m.shape? (localName target) = none →
        (∀ t, d.shapes.get? target = some t → kind? t = none) ∧
        (inPrelude target = true → preludeKind? (localName target) = none)) := by
  obtain ⟨c, hc, hconverted⟩ := shape?_of_data hm hdistinct hs hdata
  have hmem (hprelude : inPrelude target = true) : localName target ∈ d.preludeNames :=
    mem_preludeNames.mpr ⟨id, s, target, hs, mem_targets_of_target? htarget, hprelude, rfl⟩
  refine ⟨c, hc, ?_, fun other t k ht hname hk => ?_, fun hprelude _ hnone => ?_,
    fun hmissing => ⟨fun t ht => ?_, fun hprelude => ?_⟩⟩
  · rw [hconverted.targets, htarget]
    rfl
  · obtain ⟨c', hc', hconverted'⟩ := shape?_of_data hm hdistinct ht hk
    rw [← hname, hc', Option.map_some, ← hconverted'.kind, hk, Option.map_some]
  · rcases shape?_of_toService hm hdistinct (localName target) with
      ⟨other, t, c', ht, hname, -, hconverted'⟩ | ⟨-, hkind⟩
    · have hkind := hconverted'.kind
      rw [hnone other t ht hname] at hkind
      cases hkind
    · rw [hkind, if_pos (hmem hprelude)]
  · cases hk : kind? t with
    | none => rfl
    | some k =>
      obtain ⟨c', hc', -⟩ := shape?_of_data hm hdistinct ht hk
      rw [hmissing] at hc'
      cases hc'
  · rcases shape?_of_toService hm hdistinct (localName target) with
      ⟨-, -, c', -, -, hc', -⟩ | ⟨-, hkind⟩
    · rw [hmissing] at hc'
      cases hc'
    · rw [hmissing, if_pos (hmem hprelude)] at hkind
      exact hkind.symm

end SmithyDocument

open SmithyDocument

/-- A member without traits. -/
def plainMember (target : String) : SmithyMember := ⟨target, .empty⟩

/-- The shape of a queue, with its labels and the time of its creation. -/
def queueShape : SmithyShape :=
  .structure (.ofList
    [("Labels", plainMember "example.queues#Labels"),
      ("Created", plainMember "smithy.api#Timestamp")]) .empty

/-- A service of queues whose data shapes are a queue, its labels and one more. -/
def queuesDocument (id : String) (more : SmithyShape) : SmithyDocument where
  smithy := "2.0"
  shapes := .ofList
    [("example.queues#Queues", .service none [] [] .empty), ("example.queues#Queue", queueShape),
      ("example.queues#Labels", .map "smithy.api#String" "smithy.api#String" .empty), (id, more)]
  metadata := .empty

/-- The members of a queue lead to its labels and to the timestamps of the prelude. -/
theorem references_of_queue : ∃ m,
    (queuesDocument "example.queues#Ages" (.list "smithy.api#Long" .empty)).toService = .ok m ∧
      (m.shape? "Queue").bind (·.target? (.member "Labels")) = some "Labels" ∧
      (m.shape? "Labels").map (·.kind) = some (.map "String" "String") ∧
      (m.shape? "Queue").bind (·.target? (.member "Created")) = some "Timestamp" ∧
      (m.shape? "Timestamp").map (·.kind) = some (.scalar .timestamp) := by
  obtain ⟨d, hd⟩ : ∃ d, queuesDocument "example.queues#Ages" (.list "smithy.api#Long" .empty) = d :=
    ⟨_, rfl⟩
  obtain ⟨m, hm⟩ : ∃ m, d.toService = .ok m := by
    cases hd
    exact ⟨_, rfl⟩
  have hdistinct : (d.shapes.keys.map localName).Nodup := by
    cases hd
    decide
  have hqueue : d.shapes.get? "example.queues#Queue" = some queueShape := by
    cases hd
    rfl
  have hnone : ∀ other t, d.shapes.get? other = some t → localName other = "Timestamp" →
      kind? t = none := by
    intro other t ht hname
    have hmem := Dict.mem_keys_iff.mpr ⟨t, ht⟩
    have hkeys : d.shapes.keys.all fun id => localName id != "Timestamp" := by
      cases hd
      decide
    have hne := List.all_eq_true.mp hkeys other hmem
    rw [hname] at hne
    cases hne
  obtain ⟨c, hc, hlabels, hown, -⟩ :=
    references_of_toService hm hdistinct hqueue rfl (.member "Labels") rfl
  obtain ⟨c', hc', hcreated, -, hprelude, -⟩ :=
    references_of_toService hm hdistinct hqueue rfl (.member "Created") rfl
  have hc : m.shape? "Queue" = some c := hc
  have hc' : m.shape? "Queue" = some c' := hc'
  rw [hd]
  refine ⟨m, hm, by rw [hc]; exact hlabels, ?_, by rw [hc']; exact hcreated, ?_⟩
  · exact hown "example.queues#Labels" (.map "smithy.api#String" "smithy.api#String" .empty) _
      (by cases hd; rfl) rfl rfl
  · exact hprelude rfl (by cases hd; rfl) hnone

/-- A text by the name of `Timestamp` takes the place of the timestamps of the prelude. -/
theorem reference_to_prelude_misled : ∃ (d : SmithyDocument) (m : ServiceModel),
    d.toService = .ok m ∧
    (d.shapes.keys.map localName).Nodup ∧
    ∃ s, d.shapes.get? "example.queues#Queue" = some s ∧
      s.target? (.member "Created") = some "smithy.api#Timestamp" ∧
      inPrelude "smithy.api#Timestamp" = true ∧ d.shapes.get? "smithy.api#Timestamp" = none ∧
      (m.shape? "Queue").bind (·.target? (.member "Created")) = some "Timestamp" ∧
      (m.shape? "Timestamp").map (·.kind) ≠ preludeKind? "Timestamp" := by
  refine ⟨queuesDocument "example.queues#Timestamp" (.scalar .string .empty), _, rfl, by decide,
    queueShape, rfl, rfl, rfl, rfl, rfl, ?_⟩
  have hkind : preludeKind? "Timestamp" = some (.scalar .timestamp) := rfl
  rw [hkind]
  intro h
  cases h

end ResourceGen
