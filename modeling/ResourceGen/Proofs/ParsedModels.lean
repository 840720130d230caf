import ResourceGen.Proofs.ByteOrder
import ResourceGen.Proofs.References

/-!
# Models that are read

A service model is read from an API description or from a Smithy model. Both readings put it
together from operations and from shapes without flags (`Unfinished`), and finish it. So the model
is well formed (`WellFormed`), whatever the document says: everything is under its own name, the
members of a structure ascend, and the flags say what they stand for in the whole model.

Which shapes are exceptions is read from the document. Of the data shapes of a Smithy model that
have one local name, the last one counts (`Stays`).

Results:
* `wellFormed_finish`: what is put together is well formed when it is finished.
* `ApiDocument.exception_iff`, `SmithyDocument.exception_iff`: which shapes are exceptions.
* `wellFormed_of_read`: every model that is read is well formed, with exact exceptions.
-/

namespace ResourceGen

/-- The members of a shape ascend strictly, in the order of the bytes of their names. -/
def Shape.MembersAscend (s : Shape) : Prop :=
  s.members.Pairwise fun f g => Text.bytes f.name < Text.bytes g.name

/-- Members that are read from the entries of a dictionary ascend. -/
theorem membersAscend_of_entries {α : Type} (d : Dict α) {f : String × α → Member}
    (hf : ∀ e, (f e).name = e.1) {s : Shape} (hs : s.kind = .structure (d.entries.map f)) :
    s.MembersAscend := by
  unfold Shape.MembersAscend Shape.members
  rw [hs]
  refine List.pairwise_map.mpr (d.ascending.imp fun {a b} hab => ?_)
  rw [hf, hf]
  exact Text.bytes_lt hab

/-- A shape without members ascends. -/
theorem membersAscend_of_members_eq_nil {s : Shape} (h : s.members = []) : s.MembersAscend := by
  unfold Shape.MembersAscend
  rw [h]
  exact List.Pairwise.nil

namespace ServiceModel

/-- **Well-formed models.** Names, orders and flags are what they should be. -/
structure WellFormed (m : ServiceModel) : Prop where
  /-- Everything is under its own name. -/
  keyed : m.Keyed
  ascending : ∀ name s, m.shape? name = some s → s.MembersAscend
  /-- Exactly the outputs of operations are marked as outputs. -/
  outputs : ∀ name s, m.shape? name = some s →
    (s.usedAsOutput = true ↔ ∃ o ∈ m.operations.values, o.output = some name)
  /-- Exactly the members whose target is a scalar, other than a blob, are behind a pointer. -/
  pointers : ∀ name s, m.shape? name = some s → ∀ f ∈ s.members,
    (f.indirection = true ↔
      ∃ t type, m.shape? f.target = some t ∧ t.kind = .scalar type ∧ type ≠ .blob)
  finished : m.finish = m

/-! ## Putting a model together -/

/-- A model that is put together and not finished. -/
structure Unfinished (m : ServiceModel) : Prop where
  keyed : m.Keyed
  unmarked : ∀ name s, m.shape? name = some s → s.usedAsOutput = false
  ascending : ∀ name s, m.shape? name = some s → s.MembersAscend

variable {m : ServiceModel}

/-- Operations alone, each under its own name. -/
theorem unfinished_of_operations {os : List Operation}
    (hoperations : m.operations = os.foldl (fun d o => d.insert o.name o) .empty)
    (hempty : m.shapes = .empty) : m.Unfinished := by
  have hnone : ∀ name s, m.shapes.get? name ≠ some s := by
    intro name s hs
    rw [hempty] at hs
    cases hs
  refine ⟨⟨fun name s hs => absurd hs (hnone name s), fun name o ho => ?_⟩,
    fun name s hs => absurd hs (hnone name s), fun name s hs => absurd hs (hnone name s)⟩
  rw [hoperations] at ho
  rcases Dict.get?_foldl_insert (fun p : Operation => p.name) (fun p => p) ho with
    ⟨p, -, hname, rfl⟩ | hnone
  · exact hname
  · cases hnone

theorem Unfinished.addShape (h : m.Unfinished) {s : Shape} (hunmarked : s.usedAsOutput = false)
    (hascending : s.MembersAscend) : (m.addShape s).Unfinished := by
  have hcases : ∀ name t, (m.addShape s).shape? name = some t →
      t = s ∨ m.shape? name = some t := by
    intro name t ht
    unfold shape? ServiceModel.addShape at ht
    rw [Dict.get?_insert] at ht
    by_cases hname : name = s.name
    · rw [if_pos hname] at ht
      exact Or.inl (Option.some.inj ht).symm
    · rw [if_neg hname] at ht
      exact Or.inr ht
  refine ⟨h.keyed.addShape s, fun name t ht => ?_, fun name t ht => ?_⟩
  · rcases hcases name t ht with rfl | ht
    · exact hunmarked
    · exact h.unmarked name t ht
  · rcases hcases name t ht with rfl | ht
    · exact hascending
    · exact h.ascending name t ht

theorem Unfinished.foldl_addShape (h : m.Unfinished) {ss : List Shape}
    (hss : ∀ s ∈ ss, s.usedAsOutput = false ∧ s.MembersAscend) :
    (ss.foldl .addShape m).Unfinished := by
  induction ss generalizing m with
  | nil => exact h
  | cons s ss ih =>
    obtain ⟨hunmarked, hascending⟩ := hss s List.mem_cons_self
    exact ih (h.addShape hunmarked hascending) fun t ht => hss t (List.mem_cons_of_mem s ht)

theorem membersAscend_marked {s : Shape} (h : s.MembersAscend) : (m.marked s).MembersAscend := by
  unfold Shape.MembersAscend
  rw [members_marked]
  exact List.pairwise_map.mpr h

theorem isPointed_iff {s : Shape} :
    isPointed s = true ↔ ∃ type, s.kind = .scalar type ∧ type ≠ .blob := by
  unfold isPointed
  cases s.kind <;> simp

/-- The names that members hold through a pointer, in a model whose shapes have their own names. -/
theorem Keyed.mem_pointedNames_iff (h : m.Keyed) {name : String} : name ∈ m.pointedNames ↔
    ∃ t type, m.shape? name = some t ∧ t.kind = .scalar type ∧ type ≠ .blob := by
  rw [ServiceModel.mem_pointedNames_iff]
  constructor
  · rintro ⟨t, ht, hpointed, rfl⟩
    obtain ⟨key, hkey⟩ := Dict.exists_get?_of_mem_values ht
    obtain rfl := h.shapes key t hkey
    obtain ⟨type, hkind⟩ := isPointed_iff.mp hpointed
    exact ⟨t, type, hkey, hkind⟩
  · rintro ⟨t, type, ht, hkind⟩
    exact ⟨t, Dict.mem_values_of_get? ht, isPointed_iff.mpr ⟨type, hkind⟩, h.shapes name t ht⟩

/-- **What is put together is well formed when it is finished.** -/
theorem wellFormed_finish (h : m.Unfinished) : m.finish.WellFormed := by
  have hmarked : ∀ name s, m.finish.shape? name = some s →
      ∃ t, m.shape? name = some t ∧ m.marked t = s := by
    intro name s hs
    rw [shape?_finish] at hs
    exact Option.map_eq_some_iff.mp hs
  constructor
  case keyed => exact h.keyed.finish
  case finished => exact finish_finish m
  case ascending =>
    intro name s hs
    obtain ⟨t, ht, rfl⟩ := hmarked name s hs
    exact membersAscend_marked (h.ascending name t ht)
  case outputs =>
    intro name s hs
    obtain ⟨t, ht, rfl⟩ := hmarked name s hs
    show (t.usedAsOutput || m.outputNames.contains t.name) = true ↔ _
    rw [h.unmarked name t ht, h.keyed.shapes name t ht, Bool.false_or, List.contains_iff_mem,
      mem_outputNames_iff]
    rfl
  case pointers =>
    intro name s hs f hf
    obtain ⟨t, ht, rfl⟩ := hmarked name s hs
    rw [members_marked] at hf
    obtain ⟨g, -, rfl⟩ := List.mem_map.mp hf
    show m.pointedNames.contains g.target = true ↔ _
    rw [List.contains_iff_mem, ← pointedNames_finish, h.keyed.finish.mem_pointedNames_iff]

end ServiceModel

/-- The last of the items with one key stays. -/
theorem Dict.get?_foldl_insert_last {α β : Type} (key : β → String) (val : β → α)
    {before after : List β} {x : β} (h : ∀ y ∈ after, key y ≠ key x) (d : Dict α) :
    ((before ++ x :: after).foldl (fun d y => d.insert (key y) (val y)) d).get? (key x) =
      some (val x) := by
  rw [List.foldl_append, List.foldl_cons]
  have hx := Dict.get?_insert_self
    (before.foldl (fun d y => d.insert (key y) (val y)) d) (key x) (val x)
  generalize (before.foldl (fun d y => d.insert (key y) (val y)) d).insert (key x) (val x) = e at hx
  induction after generalizing e with
  | nil => exact hx
  | cons y after ih =>
    have hne : key x ≠ key y := (h y List.mem_cons_self).symm
    refine ih (fun z hz => h z (List.mem_cons_of_mem y hz)) _ ?_
    rw [Dict.get?_insert_of_ne hne]
    exact hx

/-! ## API descriptions -/

namespace ApiDocument

variable {d : ApiDocument} {m : ServiceModel}

/-- Some operation of the description lists the shape among its errors. -/
def ListsError (d : ApiDocument) (name : String) : Prop :=
  ∃ o ∈ d.operations.values, ∃ r ∈ o.errors, r.shape = name

theorem mem_errorNames_iff {name : String} : name ∈ d.errorNames ↔ d.ListsError name := by
  unfold errorNames ListsError
  simp

/-- How the model of a description came about. -/
theorem toService_eq_ok (h : d.toService = .ok m) : ∃ (base : ServiceModel) (shapes : List Shape),
    base.Unfinished ∧ base.shapes = .empty ∧
      d.shapes.entries.mapM (fun e => e.2.toShape d.errorNames e.1) = .ok shapes ∧
      m = (shapes.foldl .addShape base).finish := by
  unfold toService at h
  split at h
  · cases h
  · obtain ⟨shapes, hshapes, h⟩ := Result.bind_eq_ok_iff.mp h
    refine ⟨_, shapes, ?_, ?_, hshapes, (Result.pure_eq_ok_iff.mp h).symm⟩
    · rw [ServiceModel.foldl_addOperation]
      exact ServiceModel.unfinished_of_operations rfl rfl
    · rw [ServiceModel.foldl_addOperation]
      rfl

theorem toShape_eq_ok {sh : ApiShape} {errors : List String} {name : String} {s : Shape}
    (h : sh.toShape errors name = .ok s) :
    s.usedAsOutput = false ∧ s.MembersAscend ∧
      s.exception = (sh.exception || sh.fault || errors.contains name) := by
  obtain ⟨kind, hkind, h⟩ := Result.bind_eq_ok_iff.mp h
  obtain rfl := Result.pure_eq_ok_iff.mp h
  refine ⟨rfl, ?_, rfl⟩
  unfold ApiShape.kind at hkind
  split at hkind
  · cases hkind
    exact membersAscend_of_entries sh.members (fun e => rfl) rfl
  · obtain ⟨member, -, hkind⟩ := Result.bind_eq_ok_iff.mp hkind
    cases hkind
    exact membersAscend_of_members_eq_nil rfl
  · obtain ⟨key, -, hkind⟩ := Result.bind_eq_ok_iff.mp hkind
    obtain ⟨value, -, hkind⟩ := Result.bind_eq_ok_iff.mp hkind
    cases hkind
    exact membersAscend_of_members_eq_nil rfl
  · split at hkind <;> (cases hkind; exact membersAscend_of_members_eq_nil rfl)

theorem wellFormed_of_toService (h : d.toService = .ok m) : m.WellFormed := by
  obtain ⟨base, shapes, hbase, -, hshapes, rfl⟩ := toService_eq_ok h
  refine ServiceModel.wellFormed_finish (hbase.foldl_addShape fun s hs => ?_)
  obtain ⟨e, -, he⟩ := Result.exists_of_mem_mapM hshapes hs
  obtain ⟨hunmarked, hascending, -⟩ := toShape_eq_ok he
  exact ⟨hunmarked, hascending⟩

/-- **The exceptions of a description** are the shapes that say so and the errors that operations
list. -/
theorem exception_iff (h : d.toService = .ok m) {name : String} {sh : ApiShape}
    (hsh : d.shapes.get? name = some sh) : ∃ s, m.shape? name = some s ∧
      (s.exception = true ↔ sh.exception = true ∨ sh.fault = true ∨ d.ListsError name) := by
  obtain ⟨base, shapes, -, hempty, hshapes, rfl⟩ := toService_eq_ok h
  obtain ⟨s, hs, htoShape⟩ :=
    Result.exists_of_mem_of_mapM hshapes (Dict.mem_entries_iff.mpr hsh)
  obtain ⟨-, -, hexception⟩ := toShape_eq_ok htoShape
  have hshape : (shapes.foldl ServiceModel.addShape base).shape? name = some s := by
    unfold ServiceModel.shape?
    rw [ServiceModel.foldl_addShape, hempty]
    exact (Dict.get?_foldl_insert_iff fun x hx y hy => toShape_eq_of_name hshapes hx hy).mpr
      ⟨hs, name_of_toShape htoShape⟩
  refine ⟨_, (ServiceModel.shape?_finish _ name).trans (congrArg _ hshape), ?_⟩
  show s.exception = true ↔ _
  rw [hexception, Bool.or_eq_true, Bool.or_eq_true, List.contains_iff_mem, mem_errorNames_iff,
    or_assoc]

end ApiDocument

/-! ## Smithy models -/

namespace SmithyDocument

variable {d : SmithyDocument} {m : ServiceModel}

/-- Some operation that the service binds lists a shape of this local name among its errors. -/
def ListsError (d : SmithyDocument) (name : String) : Prop :=
  ∃ service version operations resources serviceTraits id input output errors traits,
    d.service? = some (service, .service version operations resources serviceTraits) ∧
    id ∈ d.operationIds operations resources ∧
    d.shapes.get? id = some (.operation input output errors traits) ∧
    ∃ error ∈ errors, localName error = name

/-- The data shape that stays under its local name: no data shape with this name has a later id. -/
structure Stays (d : SmithyDocument) (id : String) (s : SmithyShape) : Prop where
  shape : d.shapes.get? id = some s
  data : (kind? s).isSome = true
  last : ∀ other t, d.shapes.get? other = some t → (kind? t).isSome = true →
    localName other = localName id → other ≤ id

/-- The shape carries traits, and says with them that it is an error. -/
def SaysError (s : SmithyShape) : Prop :=
  ∃ traits, s.traits? = some traits ∧ traits.contains "smithy.api#error" = true

theorem mem_errors_iff {service : String} {version : Option String}
    {operations resources : List String} {serviceTraits : Traits}
    (hservice : d.service? = some (service, .service version operations resources serviceTraits))
    {bound : List (Operation × List String)}
    (hbound : (d.operationIds operations resources).mapM d.operation = .ok bound) {name : String} :
    name ∈ bound.flatMap (·.2) ↔ d.ListsError name := by
  rw [List.mem_flatMap]
  constructor
  · rintro ⟨b, hb, hname⟩
    obtain ⟨id, hid, hop⟩ := Result.exists_of_mem_mapM hbound hb
    unfold operation at hop
    split at hop
    · rename_i input output errors traits hshape
      cases hop
      exact ⟨_, _, _, _, _, id, input, output, errors, traits, hservice, hid, hshape,
        List.mem_map.mp hname⟩
    · cases hop
  · rintro ⟨service', version', operations', resources', traits', id, input, output, errors, traits,
      hservice', hid, hshape, hname⟩
    cases hservice.symm.trans hservice'
    obtain ⟨b, hb, hop⟩ := Result.exists_of_mem_of_mapM hbound hid
    unfold operation at hop
    rw [hshape] at hop
    cases hop
    exact ⟨_, hb, List.mem_map.mpr hname⟩

theorem toShape?_eq_some {errors : List String} {id : String} {s : SmithyShape} {c : Shape}
    (h : toShape? errors id s = some c) :
    c.usedAsOutput = false ∧ c.MembersAscend ∧
      (c.exception = true ↔ SaysError s ∨ localName id ∈ errors) := by
  obtain ⟨kind, hkind, rfl⟩ := Option.map_eq_some_iff.mp h
  refine ⟨rfl, ?_, ?_⟩
  · cases s with
    | «structure» members traits =>
      cases hkind
      exact membersAscend_of_entries members (fun e => rfl) rfl
    | service | operation | resource => cases hkind
    | scalar type traits =>
      cases hkind
      cases type <;> exact membersAscend_of_members_eq_nil rfl
    | list | set | map | union | other =>
      cases hkind
      exact membersAscend_of_members_eq_nil rfl
  · show (s.traits?.any _ || errors.contains (localName id)) = true ↔ _
    rw [Bool.or_eq_true, List.contains_iff_mem, Option.any_eq_true]
    rfl

theorem unfinished_addPrelude (h : m.Unfinished) (name : String) : (addPrelude m name).Unfinished := by
  unfold addPrelude
  split
  · exact h
  · split
    · rename_i kind hkind
      refine h.addShape rfl (membersAscend_of_members_eq_nil ?_)
      unfold preludeKind? at hkind
      split at hkind <;> cases hkind <;> rfl
    · exact h

theorem unfinished_foldl_addPrelude (h : m.Unfinished) (names : List String) :
    (names.foldl addPrelude m).Unfinished := by
  induction names generalizing m with
  | nil => exact h
  | cons name names ih => exact ih (unfinished_addPrelude h name)

/-- A model that is read from a Smithy model, before its prelude shapes. -/
theorem unfinished_dataShapes {base : ServiceModel} (hbase : base.Unfinished)
    (errors : List String) :
    ((d.shapes.entries.filterMap fun e =>
      toShape? errors e.1 e.2).foldl .addShape base).Unfinished := by
  refine hbase.foldl_addShape fun c hc => ?_
  obtain ⟨e, -, he⟩ := List.mem_filterMap.mp hc
  obtain ⟨hunmarked, hascending, -⟩ := toShape?_eq_some he
  exact ⟨hunmarked, hascending⟩

theorem wellFormed_of_toService (h : d.toService = .ok m) : m.WellFormed := by
  obtain ⟨_, _, _, _, _, bound, base, -, -, hoperations, hempty, rfl⟩ :=
    ServiceModel.toService_eq_ok h
  have hbase := ServiceModel.unfinished_of_operations hoperations hempty
  exact ServiceModel.wellFormed_finish
    (unfinished_foldl_addPrelude (unfinished_dataShapes hbase _) _)

/-- The data shape that stays is the one under its local name. -/
theorem Stays.shape?_dataShapes {id : String} {s : SmithyShape} (hstays : d.Stays id s)
    {errors : List String} {c : Shape} (hc : toShape? errors id s = some c)
    (base : ServiceModel) :
    ((d.shapes.entries.filterMap fun e => toShape? errors e.1 e.2).foldl .addShape base).shape?
        (localName id) = some c := by
  obtain ⟨before, after, hentries⟩ :=
    List.append_of_mem (Dict.mem_entries_iff.mpr hstays.shape)
  have hlater : ∀ e ∈ after, id < e.1 := by
    have hascending := d.shapes.ascending
    unfold Entries.Ascending at hascending
    rw [hentries] at hascending
    exact (List.pairwise_cons.mp (List.pairwise_append.mp hascending).2.1).1
  have hother : ∀ t ∈ after.filterMap (fun e => toShape? errors e.1 e.2), t.name ≠ c.name := by
    intro t ht heq
    obtain ⟨⟨other, sh⟩, he, ht⟩ := List.mem_filterMap.mp ht
    rw [name_of_toShape? ht, name_of_toShape? hc] at heq
    obtain ⟨kind, hkind, -⟩ := Option.map_eq_some_iff.mp ht
    have hmem : (other, sh) ∈ d.shapes.entries := by
      rw [hentries]
      exact List.mem_append_right _ (List.mem_cons_of_mem _ he)
    have hle := hstays.last other sh (Dict.mem_entries_iff.mp hmem) (by rw [hkind]; rfl) heq
    exact String.not_le.mpr (hlater _ he) hle
  have hcons : ((id, s) :: after).filterMap (fun e => toShape? errors e.1 e.2) =
      c :: after.filterMap fun e => toShape? errors e.1 e.2 :=
    List.filterMap_cons_some hc
  unfold ServiceModel.shape?
  rw [ServiceModel.foldl_addShape, hentries, List.filterMap_append, hcons, ← name_of_toShape? hc]
  exact Dict.get?_foldl_insert_last (fun t : Shape => t.name) (fun t => t) hother _

/-- **The exceptions of a Smithy model** are the shapes that say so and the errors that operations
of the service list, by the last data shape of each local name. -/
theorem exception_iff (h : d.toService = .ok m) {id : String} {s : SmithyShape}
    (hstays : d.Stays id s) : ∃ c, m.shape? (localName id) = some c ∧
      (c.exception = true ↔ SaysError s ∨ d.ListsError (localName id)) := by
  obtain ⟨_, _, _, _, _, bound, base, hservice, hbound, -, -, rfl⟩ :=
    ServiceModel.toService_eq_ok h
  obtain ⟨kind, hkind⟩ := Option.isSome_iff_exists.mp hstays.data
  obtain ⟨c, hc⟩ := exists_toShape? (bound.flatMap (·.2)) id hkind
  obtain ⟨-, -, hexception⟩ := toShape?_eq_some hc
  have hshape := shape?_foldl_addPrelude d.preludeNames _ (localName id) |>.trans
    (congrArg (Option.or · _) (hstays.shape?_dataShapes hc base))
  refine ⟨_, (ServiceModel.shape?_finish _ _).trans (congrArg _ hshape), ?_⟩
  show c.exception = true ↔ _
  rw [hexception, mem_errors_iff hservice hbound]

end SmithyDocument

/-! ## Both readings -/

/-- **Every model that is read is well formed, with exact flags.**
* Everything is under its own name, members ascend in byte order, the outputs of operations and the
  members whose target is a scalar other than a blob are marked, and finishing changes nothing.
* A shape of an API description is an exception exactly when the description says that it is an
  exception or a fault, or an operation lists it among its errors.
* A data shape of a Smithy model that stays under its local name is an exception exactly when it
  carries the error trait, or an operation of the service lists its name among its errors. -/
theorem wellFormed_of_read :
    (∀ (d : ApiDocument) (m : ServiceModel), d.toService = .ok m → m.WellFormed ∧
      ∀ name sh, d.shapes.get? name = some sh → ∃ s, m.shape? name = some s ∧
        (s.exception = true ↔
          sh.exception = true ∨ sh.fault = true ∨ d.ListsError name)) ∧
    (∀ (d : SmithyDocument) (m : ServiceModel), d.toService = .ok m → m.WellFormed ∧
      ∀ id s, d.Stays id s → ∃ c, m.shape? (SmithyDocument.localName id) = some c ∧
        (c.exception = true ↔
          SmithyDocument.SaysError s ∨ d.ListsError (SmithyDocument.localName id))) :=
  ⟨fun _ _ h => ⟨ApiDocument.wellFormed_of_toService h,
      fun _ _ hsh => ApiDocument.exception_iff h hsh⟩,
    fun _ _ h => ⟨SmithyDocument.wellFormed_of_toService h,
      fun _ _ hstays => SmithyDocument.exception_iff h hstays⟩⟩

/-- A structure that is an error of the client. -/
def clientError : SmithyShape :=
  .structure .empty (.ofList [("smithy.api#error", .str "client")])

/-- The listed error of the service of queues is an exception, and so is the error of a later
namespace that takes the name of the queues. -/
theorem wellFormed_of_read_queues : ∃ m m', queueDocument.toService = .ok m ∧ m.WellFormed ∧
    (m.shape? "QueueExists").map (·.exception) = some true ∧
    (queuesDocument "example.stale#Queue" clientError).toService = .ok m' ∧ m'.WellFormed ∧
    (m'.shape? "Queue").map (·.exception) = some true := by
  obtain ⟨m, hm⟩ : ∃ m, queueDocument.toService = .ok m := ⟨_, rfl⟩
  obtain ⟨m', hm'⟩ : ∃ m', (queuesDocument "example.stale#Queue" clientError).toService = .ok m' :=
    ⟨_, rfl⟩
  have hstays : (queuesDocument "example.stale#Queue" clientError).Stays "example.stale#Queue"
      clientError := by
    refine ⟨rfl, rfl, fun other t ht _ _ => ?_⟩
    have hkeys : ∀ key ∈ (queuesDocument "example.stale#Queue" clientError).shapes.keys,
        key ≤ "example.stale#Queue" := by decide
    exact hkeys other (Dict.mem_keys_iff.mpr ⟨t, ht⟩)
  obtain ⟨hformed, hexceptions⟩ := wellFormed_of_read.1 _ m hm
  obtain ⟨hformed', hexceptions'⟩ := wellFormed_of_read.2 _ m' hm'
  obtain ⟨s, hs, hiff⟩ := hexceptions "QueueExists" _ rfl
  obtain ⟨c, hc, hiff'⟩ := hexceptions' _ _ hstays
  refine ⟨m, m', hm, hformed, ?_, hm', hformed', ?_⟩
  · rw [hs, Option.map_some, hiff.mpr (Or.inl rfl)]
  · have hc : m'.shape? "Queue" = some c := hc
    rw [hc, Option.map_some, hiff'.mpr (Or.inl ⟨_, rfl, rfl⟩)]

end ResourceGen
