import ResourceGen.Proofs.Adoption
import ResourceGen.Proofs.Failures
import ResourceGen.Proofs.Finishing
import ResourceGen.Proofs.Listing
import ResourceGen.Proofs.Redirection
import ResourceGen.Proofs.UsedVariables

/-!
# Wrapped responses

An operation that answers with a structure may come to answer with a wrapper around it: a new
structure whose only member leads to the old one (`ServiceModel.wrapOutput`). The model with the
wrapper agrees with the one without it beside the name of the wrapper
(`ServiceModel.agreesBeside_wrapOutput`), and `unwrap` takes the wrapper off again. So the
resources stay as they are, and a response is taken over from behind the wrapper as it was taken
over before, when a path leads to it.

The exception is a List response. Its lists are looked for in the output itself, before the
wrapper is taken off, so the lists inside of a wrapper are not found.

Results:
* `DerivationScope.createdMembers_wrapOutput`: what Create gives, with the wrapper and without it.
* `Synthesizer.eq_iff_of_adoptResponse`: the programs for one resource.
* `Schema.wrapped_response_eq_iff`: the resources of a schema and their programs.
* `wrapped_listing_not_taken_over`: a listing whose only element is lost in a wrapper.
-/

namespace ResourceGen

/-- The operation with another output, if it goes by the given name. -/
def Operation.answering (name output : String) (o : Operation) : Operation :=
  if o.name = name then { o with output := some output } else o

namespace Operation

variable (name output : String) (o : Operation)

theorem name_answering : (o.answering name output).name = o.name := by
  unfold answering
  split <;> rfl

theorem input_answering : (o.answering name output).input = o.input := by
  unfold answering
  split <;> rfl

theorem answering_self : o.answering o.name output = { o with output := some output } := if_pos rfl

theorem answering_of_ne {o : Operation} {name : String} (h : o.name ≠ name) :
    o.answering name output = o := if_neg h

end Operation

namespace ServiceModel

/-- The model with the structure `w` as the output of an operation. -/
def wrapOutput (m : ServiceModel) (o : Operation) (w : Shape) : ServiceModel :=
  (m.addShape w).addOperation { o with output := some w.name }

/-- The structure `w` with the only member `f` can be put around the output `s` of an operation. -/
structure Wraps (m : ServiceModel) (o : Operation) (w : Shape) (f : Member) (s : Shape) :
    Prop where
  operation : m.operation? o.name = some o
  output : o.output = some f.target
  shape : m.shape? f.target = some s
  isStructure : s.isStructure = true
  /-- The output is no wrapper itself. -/
  plain : ∀ g, s.members = [g] → ∀ t, m.shape? g.target = some t → t.isStructure = false
  kind : w.kind = .structure [f]
  /-- The name of the wrapper is used nowhere. -/
  newShape : ∀ t ∈ m.shapes.values, t.name ≠ w.name ∧ w.name ∉ t.references
  newPayload : ∀ p ∈ m.operations.values, p.input ≠ some w.name ∧ p.output ≠ some w.name

theorem references_marked (m : ServiceModel) (s : Shape) :
    (m.marked s).references = s.references := by
  unfold Shape.references marked
  cases s.kind <;> simp [markMembers]

variable {m : ServiceModel} {o : Operation} {w : Shape} {f : Member} {s : Shape}

theorem shape?_wrapOutput (reference : String) :
    (m.wrapOutput o w).shape? reference =
      if reference = w.name then some w else m.shape? reference :=
  Dict.get?_insert _ _ _ _

/-- An operation that is entered again changes in its place. -/
theorem values_wrapOutput (hkeyed : m.Keyed) (hw : m.Wraps o w f s) :
    (m.wrapOutput o w).operations.values =
      m.operations.values.map (.answering o.name w.name) := by
  have hinsert : (m.wrapOutput o w).operations =
      m.operations.mapValues fun _ p => p.answering o.name w.name := by
    refine Dict.ext_get? fun key p => ?_
    have hget : (m.wrapOutput o w).operations.get? key =
        if key = o.name then some { o with output := some w.name } else m.operations.get? key :=
      Dict.get?_insert _ _ _ _
    rw [hget, Dict.get?_mapValues]
    split
    · rename_i hkey
      rw [hkey, show m.operations.get? o.name = some o from hw.operation, Option.map_some,
        Operation.answering_self]
    · rename_i hkey
      cases hp : m.operations.get? key with
      | none => rfl
      | some q =>
        have hname : q.name ≠ o.name := by
          rw [hkeyed.operations key q hp]
          exact hkey
        rw [Option.map_some, Operation.answering_of_ne _ hname]
  rw [hinsert, Dict.values_mapValues, Dict.values, List.map_map]
  rfl

theorem mem_pointedNames_wrapOutput (hkeyed : m.Keyed) (hw : m.Wraps o w f s) (name : String) :
    name ∈ (m.wrapOutput o w).pointedNames ↔ name ∈ m.pointedNames := by
  have hpointed : isPointed w = false := by
    unfold isPointed
    rw [hw.kind]
  rw [mem_pointedNames_iff, mem_pointedNames_iff]
  constructor
  · rintro ⟨t, ht, hpt, rfl⟩
    obtain ⟨key, hkey⟩ := Dict.exists_get?_of_mem_values ht
    have hkey : (m.wrapOutput o w).shape? key = some t := hkey
    rw [shape?_wrapOutput] at hkey
    split at hkey
    · cases hkey
      rw [hpointed] at hpt
      cases hpt
    · exact ⟨t, Dict.mem_values_of_get? hkey, hpt, rfl⟩
  · rintro ⟨t, ht, hpt, rfl⟩
    obtain ⟨key, hkey⟩ := Dict.exists_get?_of_mem_values ht
    refine ⟨t, Dict.mem_values_of_get? (k := key) ?_, hpt, rfl⟩
    have hne : key ≠ w.name := fun heq =>
      (hw.newShape t ht).1 ((hkeyed.shapes key t hkey).trans heq)
    show (m.wrapOutput o w).shape? key = some t
    rw [shape?_wrapOutput, if_neg hne]
    exact hkey

/-- **With a wrapper the model agrees** beside the name of the wrapper. -/
theorem agreesBeside_wrapOutput (hkeyed : m.Keyed) (hw : m.Wraps o w f s) :
    m.finish.AgreesBeside w.name (m.wrapOutput o w).finish := by
  refine ⟨fun reference hne => ?_, fun t ht => ?_⟩
  · rw [shape?_finish, shape?_finish, shape?_wrapOutput, if_neg hne]
    cases m.shape? reference with
    | none => exact .none
    | some t => exact .some ⟨rfl, markMembers_congr (mem_pointedNames_wrapOutput hkeyed hw) _⟩
  · obtain ⟨key, hkey⟩ := Dict.exists_get?_of_mem_values ht
    have hkey : m.finish.shape? key = some t := hkey
    rw [shape?_finish] at hkey
    obtain ⟨t, hbase, rfl⟩ := Option.map_eq_some_iff.mp hkey
    rw [references_marked]
    exact (hw.newShape t (Dict.mem_values_of_get? hbase)).2

/-- The output in the finished model is taken as it is. -/
theorem exists_plain_output (hw : m.Wraps o w f s) :
    ∃ t, m.finish.shape? f.target = some t ∧ t.isStructure = true ∧
      ∀ u, m.finish.unwrap t = .ok u → u = ⟨t, none⟩ := by
  refine ⟨m.marked s, by rw [shape?_finish, hw.shape]; rfl,
    (isStructure_marked m s).trans hw.isStructure, fun u hu => ?_⟩
  unfold unwrap at hu
  split at hu
  · rename_i g hmembers
    rw [members_marked] at hmembers
    obtain ⟨g, hg, rfl⟩ := List.map_eq_singleton_iff.mp hmembers
    split at hu
    · obtain ⟨inner, hinner, hu⟩ := Result.bind_eq_ok_iff.mp hu
      have hinner := resolve_eq_ok_iff.mp hinner
      rw [shape?_finish] at hinner
      obtain ⟨t, ht, rfl⟩ := Option.map_eq_some_iff.mp hinner
      rw [isStructure_marked, hw.plain g hg t ht, if_neg (by decide)] at hu
      cases hu
      rfl
    · cases hu
      rfl
  · cases hu
    rfl

theorem Wraps.target_ne (hw : m.Wraps o w f s) : f.target ≠ w.name := by
  rintro heq
  refine (hw.newPayload o (Dict.mem_values_of_get? hw.operation)).2 ?_
  rw [hw.output, heq]

/-- With the wrapper, the wrapper leads to a shape like the output. -/
theorem exists_wrapper (hkeyed : m.Keyed) (hw : m.Wraps o w f s) {t : Shape}
    (ht : m.finish.shape? f.target = some t) (hstructure : t.isStructure = true) :
    ∃ t' w' f', t.Like t' ∧ w.name ∉ t.references ∧
      (m.wrapOutput o w).finish.shape? w.name = some w' ∧ w'.members = [f'] ∧
      (m.wrapOutput o w).finish.shape? f'.target = some t' ∧
      (m.wrapOutput o w).finish.unwrap w' = .ok ⟨t', some f.name⟩ := by
  have hagree := agreesBeside_wrapOutput hkeyed hw
  obtain ⟨t', ht', hlike⟩ := hagree.exists_like hw.target_ne ht
  have hshape := shape?_finish (m.wrapOutput o w) w.name
  rw [shape?_wrapOutput, if_pos rfl, Option.map_some] at hshape
  have hmark : ((m.wrapOutput o w).marked w).usedAsOutput = true :=
    usedAsOutput_of_output (m := m.wrapOutput o w) (o := { o with output := some w.name })
      ((hkeyed.addShape w).addOperation _)
      (Dict.mem_values_of_get? (Dict.get?_insert_self _ o.name _)) rfl hshape
  have hmembers := members_marked (m.wrapOutput o w) w
  rw [members_eq hw.kind, List.map_singleton] at hmembers
  refine ⟨t', _, _, hlike, hagree.unreferenced t (Dict.mem_values_of_get? ht), hshape, hmembers,
    ht', ?_⟩
  unfold unwrap
  simp only [hmembers, if_pos hmark, resolve, ht']
  show Except.ok (if t'.isStructure = true then _ else _) = _
  rw [if_pos (hlike.isStructure.trans hstructure)]

/-- An operation of its name is the operation itself. -/
theorem eq_of_mem_operations (hkeyed : m.Keyed) (hw : m.Wraps o w f s) {p : Operation}
    (hp : p ∈ m.operations.values) (hname : p.name = o.name) : p = o := by
  obtain ⟨key, hkey⟩ := Dict.exists_get?_of_mem_values hp
  have hoperation : m.operations.get? o.name = some o := hw.operation
  rw [← hname, hkeyed.operations key p hkey, hkey] at hoperation
  exact Option.some.inj hoperation

end ServiceModel

open ServiceModel (Keyed Wraps)

section Wraps

variable {m : ServiceModel} {o : Operation} {w : Shape} {f : Member} {s : Shape}
  (hkeyed : m.Keyed) (hw : m.Wraps o w f s)

include hkeyed hw

namespace DerivationScope

variable {d : DerivationScope} {ms ms' : List Member}

/-- What the operation gives is inside the wrapper. -/
theorem createdMembers_of_wrapped (hd : d.model = m.finish) (hms : d.createdMembers o = .ok ms)
    (hms' : (d.withModel (m.wrapOutput o w).finish).createdMembers
      { o with output := some w.name } = .ok ms') :
    ms' = ms ∧ ∀ g ∈ ms, g.target ≠ w.name := by
  obtain ⟨t, ht, hstructure, hplain⟩ := ServiceModel.exists_plain_output hw
  obtain ⟨t', w', f', hlike, hrefs, hw', -, -, hunwrap⟩ :=
    ServiceModel.exists_wrapper hkeyed hw ht hstructure
  obtain ⟨output, u, houtput, hu, rfl⟩ := (createdMembers_eq_ok_iff hw.output).mp hms
  obtain ⟨output', u', houtput', hu', rfl⟩ := (createdMembers_eq_ok_iff rfl).mp hms'
  rw [hd] at houtput hu
  cases ht.symm.trans houtput
  cases hw'.symm.trans houtput'
  cases hplain u hu
  cases hunwrap.symm.trans hu'
  exact ⟨hlike.members, fun g hg => Shape.target_ne hrefs hg⟩

/-- What another operation gives does not lead to the wrapper. -/
theorem createdMembers_of_unwrapped (hd : d.model = m.finish) {p : Operation}
    (hp : p ∈ m.operations.values) (hname : p.name ≠ o.name) (hms : d.createdMembers p = .ok ms)
    (hms' : (d.withModel (m.wrapOutput o w).finish).createdMembers p = .ok ms') :
    ms' = ms ∧ ∀ g ∈ ms, g.target ≠ w.name := by
  have hagree := ServiceModel.agreesBeside_wrapOutput hkeyed hw
  cases href : p.output with
  | none =>
    unfold createdMembers at hms hms'
    rw [href] at hms hms'
    cases hms
    cases hms'
    exact ⟨rfl, fun g hg => by cases hg⟩
  | some reference =>
    have hne : reference ≠ w.name := fun heq =>
      (hw.newPayload p hp).2 (href.trans (congrArg some heq))
    obtain ⟨output, u, houtput, hu, rfl⟩ := (createdMembers_eq_ok_iff href).mp hms
    obtain ⟨output', u', houtput', hu', rfl⟩ := (createdMembers_eq_ok_iff href).mp hms'
    rw [hd] at houtput hu
    -- the output of another operation is marked in both models
    have hmark := ServiceModel.usedAsOutput_of_output hkeyed hp href houtput
    have hmark' : output'.usedAsOutput = true := by
      refine ServiceModel.usedAsOutput_of_output (m := m.wrapOutput o w)
        ((hkeyed.addShape w).addOperation _) ?_ href houtput'
      rw [ServiceModel.values_wrapOutput hkeyed hw]
      exact List.mem_map.mpr ⟨p, hp, Operation.answering_of_ne _ hname⟩
    obtain ⟨hlike, hrefs⟩ := hagree.like_of_unwrap
      (hagree.unreferenced output (Dict.mem_values_of_get? houtput))
      (hagree.like hne houtput houtput') (hmark'.trans hmark.symm) hu hu'
    exact ⟨hlike.members, fun g hg => Shape.target_ne hrefs hg⟩

/-- What an operation gives is the same with the wrapper. -/
theorem createdMembers_wrapOutput (hd : d.model = m.finish) {p : Operation}
    (hp : p ∈ m.operations.values) (hms : d.createdMembers p = .ok ms)
    (hms' : (d.withModel (m.wrapOutput o w).finish).createdMembers
      (p.answering o.name w.name) = .ok ms') :
    ms' = ms ∧ ∀ g ∈ ms, g.target ≠ w.name := by
  by_cases hname : p.name = o.name
  · obtain rfl := ServiceModel.eq_of_mem_operations hkeyed hw hp hname
    rw [Operation.answering_self] at hms'
    exact createdMembers_of_wrapped hkeyed hw hd hms hms'
  · rw [Operation.answering_of_ne _ hname] at hms'
    exact createdMembers_of_unwrapped hkeyed hw hd hp hname hms hms'

end DerivationScope

end Wraps

namespace Synthesizer

variable {s : Synthesizer} {r : Resource} {role : Role} {o : Operation} {target : InboundTarget}
  {response : Accessor} {p : Program}

/-- In a structure whose only member is a structure there is no list of structures. -/
theorem resourceList_eq_absent {w t : Shape} {f : Member} (hw : w.members = [f])
    (ht : s.model.shape? f.target = some t) (hstructure : t.isStructure = true) :
    s.resourceList r w = .ok .absent := by
  obtain ⟨members, hk⟩ := ServiceModel.isStructure_iff.mp hstructure
  have hmember : s.listMember f = .ok none := by
    unfold listMember
    rw [ht]
    simp only [hk]
  unfold resourceList
  rw [hw, List.mapM_cons, hmember, List.mapM_nil]
  rfl

/-- A program with guards alone takes over no element. -/
theorem ne_of_ifSingleElement (ts : List Transfer) (source : Accessor) (x : String)
    (body : List Statement) :
    s.program .inbound [] ts ≠ ⟨.inbound, [.ifSingleElement source x body]⟩ := by
  intro heq
  have hstatements : (Copier.mk .inbound s.types).transfers ts 0 =
      [.ifSingleElement source x body] := (Program.mk.inj heq).2
  cases ts with
  | nil => cases hstatements
  | cons t rest =>
    obtain ⟨guarded, hguarded⟩ := Copier.transfer_eq_guard ⟨.inbound, s.types⟩ t 0
    rw [Copier.transfers] at hstatements
    simp only [hguarded] at hstatements
    cases hstatements

theorem ne_of_adoptElement (ts : List Transfer) {output : Shape} {l : ListMember}
    (h : s.adoptElement r o output response target l = .ok p) :
    s.program .inbound [] ts ≠ p := by
  unfold adoptElement at h
  obtain ⟨path, -, h⟩ := Result.bind_eq_ok_iff.mp h
  obtain ⟨element, -, h⟩ := Result.bind_eq_ok_iff.mp h
  obtain rfl := Result.pure_eq_ok_iff.mp h
  exact ne_of_ifSingleElement ts _ _ _

section Wraps

variable {m : ServiceModel} {w t : Shape} {f : Member} {inner : Shape} (hkeyed : m.Keyed)
  (hw : m.Wraps o w f inner) (ht : m.finish.shape? f.target = some t)
  (ho : r.operations.get? role = some o)

include hkeyed hw ht ho

/-- With the wrapper, the members of the output are taken over from inside of it. -/
theorem transfers_of_wrapped {path : String}
    (h : (s.withModel (m.wrapOutput o w).finish).adoptResponse
      (r.mapOperations (.answering o.name w.name)) role path target = .ok p) :
    ∃ t' way ts, t.Like t' ∧ w.name ∉ t.references ∧
      (s.withModel (m.wrapOutput o w).finish).memberTransfers
        (r.mapOperations (.answering o.name w.name)) (o.answering o.name w.name) way
        ((Accessor.parse path).field f.name) target t' = .ok ts ∧
      p = s.program .inbound [] ts := by
  obtain ⟨_, ht₀, hstructure, -⟩ := ServiceModel.exists_plain_output hw
  cases ht.symm.trans ht₀
  obtain ⟨t', w', f', hlike, hrefs, hw', hmembers, ht', hunwrap⟩ :=
    ServiceModel.exists_wrapper hkeyed hw ht hstructure
  have ho' : (r.mapOperations (.answering o.name w.name)).operations.get? role =
      some (o.answering o.name w.name) :=
    (ResourceOperations.get?_map _ _ role).trans (congrArg _ ho)
  have houtput : (o.answering o.name w.name).output = some w.name := by
    rw [Operation.answering_self]
  rw [adoptResponse_eq (s := s.withModel (m.wrapOutput o w).finish) ho' houtput hw', adoptOutput,
    resourceList_eq_absent (s := s.withModel (m.wrapOutput o w).finish) hmembers ht'
      (hlike.isStructure.trans hstructure)] at h
  have hadopted : (s.withModel (m.wrapOutput o w).finish).adoptMembers
      (r.mapOperations (.answering o.name w.name)) (o.answering o.name w.name) w'
      (.parse path) target = .ok p := by
    split at h <;> exact h
  obtain ⟨u, way, ts, hu, hts, rfl⟩ := transfers_of_adoptMembers hadopted
  cases hunwrap.symm.trans hu
  exact ⟨t', way, ts, hlike, hrefs, hts, program_withModel s _ _ _ _⟩

/-- **The programs for one resource**, with the wrapper and without it. -/
theorem eq_iff_of_adoptResponse (hmodel : s.model = m.finish) {response path : String}
    (hpath : Accessor.parse path = (Accessor.parse response).field f.name) {p' : Program}
    (hp : s.adoptResponse r role path target = .ok p)
    (hp' : (s.withModel (m.wrapOutput o w).finish).adoptResponse
      (r.mapOperations (.answering o.name w.name)) role response target = .ok p') :
    p' = p ↔ role ≠ .list ∨ s.resourceList r t = .ok .absent ∨
      s.resourceList r t = .ok .ambiguous ∧ p' = .empty .inbound := by
  obtain ⟨t', way', ts', hlike, hrefs, hts', rfl⟩ := transfers_of_wrapped hkeyed hw ht ho hp'
  have hsame {p : Program} (h : s.adoptMembers r o t (.parse path) target = .ok p) :
      s.program .inbound [] ts' = p := by
    obtain ⟨_, ht₀, -, hplain⟩ := ServiceModel.exists_plain_output hw
    cases ht.symm.trans ht₀
    obtain ⟨u, way, ts, hu, hts, rfl⟩ := transfers_of_adoptMembers h
    cases hplain u (hmodel ▸ hu)
    rw [Unwrapped.place, hpath] at hts
    rw [eq_of_memberTransfers (hmodel ▸ ServiceModel.agreesBeside_wrapOutput hkeyed hw) hrefs
      hlike _ (Operation.name_answering o.name w.name o) hts hts']
  rw [adoptResponse_eq ho hw.output (hmodel ▸ ht), adoptOutput] at hp
  by_cases hrole : role = .list
  · rw [if_pos hrole] at hp
    obtain ⟨list, hlist, hp⟩ := Result.bind_eq_ok_iff.mp hp
    rw [or_iff_right (not_not.mpr hrole), hlist]
    cases list with
    | absent => simp [hsame hp]
    | ambiguous =>
      cases hp
      simp
    | found l => simp [ne_of_adoptElement ts' hp]
  · rw [if_neg hrole] at hp
    simp [hsame hp, hrole]

end Wraps

end Synthesizer

/-- **A wrapper is transparent, but for lists.** When the output of an operation gets a wrapper, the
resources are the same as before, each with the operation in its place. In every role that the
operation plays, the program for its response is the program for the path behind the wrapper,
unless the role is List and the output has lists of structures: then the program without the
wrapper takes over the element of one of the lists, or nothing where none stands out, and the
program with the wrapper looks for no list. -/
theorem Schema.wrapped_response_eq_iff [PatternEngine] {m : ServiceModel} {o : Operation}
    {w : Shape} {f : Member} {s : Shape} (hkeyed : m.Keyed) (hw : m.Wraps o w f s)
    {config : Config} {namer : Namer} {classifier : Classifier} {schema schema' : Schema}
    (hschema : build m.finish config namer classifier = .ok schema)
    (hschema' : build (m.wrapOutput o w).finish config namer classifier = .ok schema')
    {rs rs' : List Resource} (hrs : schema.resources = .ok rs)
    (hrs' : schema'.resources = .ok rs') :
    rs' = rs.map (.mapOperations (.answering o.name w.name)) ∧
      ∃ output, m.finish.shape? f.target = some output ∧
        ∀ r ∈ rs, ∀ role, r.operations.get? role = some o →
          ∀ (target : InboundTarget) (response path : String) (p p' : Program),
            Accessor.parse path = (Accessor.parse response).field f.name →
            schema.synthesizer.adoptResponse r role path target = .ok p →
            schema'.synthesizer.adoptResponse (r.mapOperations (.answering o.name w.name)) role
              response target = .ok p' →
            (p' = p ↔ role ≠ .list ∨
              schema.synthesizer.resourceList r output = .ok .absent ∨
              schema.synthesizer.resourceList r output = .ok .ambiguous ∧
                p' = .empty .inbound) := by
  obtain ⟨index, hindex, hschema⟩ := Result.bind_eq_ok_iff.mp hschema
  obtain rfl := Result.pure_eq_ok_iff.mp hschema
  obtain ⟨index', hindex', hschema'⟩ := Result.bind_eq_ok_iff.mp hschema'
  obtain rfl := Result.pure_eq_ok_iff.mp hschema'
  have hmap : OperationIndex.ofModel (m.wrapOutput o w).finish config classifier =
      .ok (index.map (.answering o.name w.name)) :=
    OperationIndex.ofModel_map (Operation.name_answering o.name w.name)
      (ServiceModel.values_wrapOutput hkeyed hw) hindex
  cases hindex'.symm.trans hmap
  obtain ⟨output, houtput, -⟩ := ServiceModel.exists_plain_output hw
  refine ⟨eq_of_resources (ServiceModel.agreesBeside_wrapOutput hkeyed hw)
    (Operation.name_answering o.name w.name) (Operation.input_answering o.name w.name)
    (fun resource create hcreate => ?_) hrs hrs', output, houtput, ?_⟩
  · have hmem := OperationIndex.mem_values_of_get? hindex hcreate
    exact ⟨(hw.newPayload create hmem).1, fun ms ms' hms hms' =>
      DerivationScope.createdMembers_wrapOutput hkeyed hw rfl hmem hms hms'⟩
  · intro r _ role ho target response path p p' hpath hp hp'
    have hsynthesizer := synthesizer_mapOperations ⟨m.finish, config, namer, index⟩
      (m.wrapOutput o w).finish (.answering o.name w.name)
    rw [mapOperations] at hsynthesizer
    rw [hsynthesizer] at hp'
    exact Synthesizer.eq_iff_of_adoptResponse hkeyed hw houtput ho rfl hpath hp hp'

/-- The operation that reads a queue. -/
def getQueue : Operation where
  name := "GetQueue"
  output := some "Description"

/-- The service of queues with an operation that answers with the plain description. -/
def readingModel : ServiceModel := queueModel.addOperation getQueue

/-- A structure around the answer to one operation. -/
def wrapperOf (name member target : String) : Shape where
  name := name
  kind := .structure [{ name := member, target := target }]

/-- The wrapper around the description of a queue. -/
def getQueueResponse : Shape := wrapperOf "GetQueueResponse" "Queue" "Description"

theorem keyed_queueModel : queueModel.Keyed :=
  (((((((ServiceModel.keyed_new "Queues").addShape _).addShape _).addShape _).addShape _).addShape
    _).addOperation _).finish

theorem keyed_readingModel : readingModel.Keyed := keyed_queueModel.addOperation _

/-- The description of a queue can be wrapped. -/
theorem wraps_getQueue :
    readingModel.Wraps getQueue getQueueResponse { name := "Queue", target := "Description" }
      queueDescription where
  operation := rfl
  output := rfl
  shape := rfl
  isStructure := rfl
  plain := fun g hg => by cases hg
  kind := rfl
  newShape := by decide
  newPayload := by decide

/-- The schema of the service with a read operation. -/
def readingSchema : Schema where
  model := readingModel.finish
  config := queueConfig
  namer := .standard
  index := ⟨[⟨.create, "Queue", createQueue⟩, ⟨.get, "Queue", getQueue⟩]⟩

/-- The schema of the service whose read operation wraps the description. -/
def wrappedReadingSchema : Schema :=
  readingSchema.mapOperations (readingModel.wrapOutput getQueue getQueueResponse).finish
    (.answering "GetQueue" "GetQueueResponse")

/-- The resource of the service with a read operation. -/
def readQueue : Resource :=
  { queue with operations := { create := some createQueue, readOne := some getQueue } }

/-- The resource of the service whose read operation wraps the description. -/
def wrappedReadQueue : Resource :=
  readQueue.mapOperations (.answering "GetQueue" "GetQueueResponse")

/-- What is taken over of a description in a response. -/
def descriptionTransfers : List Transfer :=
  let description := (Accessor.parse "resp").field "Queue"
  let status := Accessor.parse "ko.Status"
  [.handed (arnSlot status) (description.field "QueueArn") .resourceArn,
    .copied (status.field "CreatedAt") (description.field "createdAt") (.scalar .string)]

/-- A description is taken over from behind its wrapper. -/
theorem wrapped_description_taken_over :
    readingSchema.synthesizer.adoptResponse readQueue .get "resp.Queue" (.status "ko.Status") =
        .ok (readingSchema.synthesizer.program .inbound [] descriptionTransfers) ∧
      wrappedReadingSchema.synthesizer.adoptResponse wrappedReadQueue .get "resp"
          (.status "ko.Status") =
        .ok (readingSchema.synthesizer.program .inbound [] descriptionTransfers) := by
  have hschema : Schema.build readingModel.finish queueConfig .standard
      (.byConvention .standard) = .ok readingSchema := rfl
  have hschema' : Schema.build (readingModel.wrapOutput getQueue getQueueResponse).finish
      queueConfig .standard (.byConvention .standard) = .ok wrappedReadingSchema := rfl
  have hrs : readingSchema.resources = .ok [readQueue] :=
    Schema.resources_of_single (show readingSchema.resourceNames = ["Queue"] from rfl) rfl
  have hrs' : wrappedReadingSchema.resources = .ok [wrappedReadQueue] :=
    Schema.resources_of_single (show wrappedReadingSchema.resourceNames = ["Queue"] from rfl) rfl
  have hp : readingSchema.synthesizer.adoptResponse readQueue .get "resp.Queue"
      (.status "ko.Status") =
        .ok (readingSchema.synthesizer.program .inbound [] descriptionTransfers) := rfl
  obtain ⟨p', hp'⟩ : ∃ p', wrappedReadingSchema.synthesizer.adoptResponse wrappedReadQueue .get
      "resp" (.status "ko.Status") = .ok p' := ⟨_, rfl⟩
  obtain ⟨-, output, -, hprograms⟩ := Schema.wrapped_response_eq_iff keyed_readingModel
    wraps_getQueue hschema hschema' hrs hrs'
  have heq := (hprograms readQueue List.mem_cons_self .get rfl (.status "ko.Status") "resp"
    "resp.Queue" _ p' rfl hp hp').mpr (Or.inl (by decide))
  exact ⟨hp, heq ▸ hp'⟩

/-- The wrapper around a listing. -/
def envelope : Shape := wrapperOf "Envelope" "Result" "ListQueuesResponse"

theorem keyed_listingModel : listingModel.Keyed :=
  (((((keyed_queueModel.addShape _).addShape _).addShape _).addShape _).addOperation _).finish

/-- A listing can be wrapped. -/
theorem wraps_listQueues :
    listingModel.Wraps listQueues envelope { name := "Result", target := "ListQueuesResponse" }
      listQueuesResponse where
  operation := rfl
  output := rfl
  shape := rfl
  isStructure := rfl
  plain := fun g hg => by cases hg
  kind := rfl
  newShape := by decide
  newPayload := by decide

/-- The schema of the service whose listing is wrapped. -/
def wrappedListingSchema : Schema :=
  listingSchema.mapOperations (listingModel.wrapOutput listQueues envelope).finish
    (.answering "ListQueues" "Envelope")

/-- The resource of the service whose listing is wrapped. -/
def wrappedListedQueue : Resource :=
  listedQueue.mapOperations (.answering "ListQueues" "Envelope")

/-- **A wrapped listing is not taken over**: the lists in the output of a List operation are looked
for before its wrapper is taken off. -/
theorem wrapped_listing_not_taken_over :
    listingModel.Keyed ∧
      listingModel.Wraps listQueues envelope { name := "Result", target := "ListQueuesResponse" }
        listQueuesResponse ∧
      Schema.build listingModel.finish queueConfig .standard (.byConvention .standard) =
        .ok listingSchema ∧
      Schema.build (listingModel.wrapOutput listQueues envelope).finish queueConfig .standard
        (.byConvention .standard) = .ok wrappedListingSchema ∧
      listingSchema.resources = .ok [listedQueue] ∧
      wrappedListingSchema.resources = .ok [wrappedListedQueue] ∧
      listedQueue.operations.get? .list = some listQueues ∧
      Accessor.parse "resp.Result" = (Accessor.parse "resp").field "Result" ∧
      ∃ p p',
        listingSchema.synthesizer.adoptResponse listedQueue .list "resp.Result"
          (.status "ko.Status") = .ok p ∧
        wrappedListingSchema.synthesizer.adoptResponse wrappedListedQueue .list "resp"
          (.status "ko.Status") = .ok p' ∧
        p.statements.length = 1 ∧ p'.statements = [] ∧ p' ≠ p := by
  have hresources' : wrappedListingSchema.resources = .ok [wrappedListedQueue] :=
    Schema.resources_of_single (show wrappedListingSchema.resourceNames = ["Queue"] from rfl) rfl
  have hschema : Schema.build listingModel.finish queueConfig .standard
      (.byConvention .standard) = .ok listingSchema := by
    rw [show listingModel.finish = listingModel from ServiceModel.finish_finish _]
    exact build_listingSchema
  have hschema' : Schema.build (listingModel.wrapOutput listQueues envelope).finish queueConfig
      .standard (.byConvention .standard) = .ok wrappedListingSchema := rfl
  obtain ⟨p, hp, hlength⟩ : ∃ p, listingSchema.synthesizer.adoptResponse listedQueue .list
      "resp.Result" (.status "ko.Status") = .ok p ∧ p.statements.length = 1 := ⟨_, rfl, rfl⟩
  obtain ⟨p', hp', hnil⟩ : ∃ p', wrappedListingSchema.synthesizer.adoptResponse
      wrappedListedQueue .list "resp" (.status "ko.Status") = .ok p' ∧ p'.statements = [] :=
    ⟨_, rfl, rfl⟩
  refine ⟨keyed_listingModel, wraps_listQueues, hschema, hschema', resources_listingSchema,
    hresources', rfl, rfl, p, p', hp, hp', hlength, hnil, ?_⟩
  rintro rfl
  rw [hnil] at hlength
  cases hlength

end ResourceGen
