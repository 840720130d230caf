import ResourceGen.Proofs.UsedVariables

/-!
# Idle variables

The variables that the code of a program declares and never reads are the idle ones. Here the
programs without any are told by the model: a loop needs its variable as soon as the structures in
the list or map have a member to copy (`ServiceModel.FillsContainers`).

Results:
* `idleOf_bind`: copies of the shapes of such a model have no idle variables.
* `unused_variables`: the code of all four kinds of programs.
* `unused_marker`: loops over structures without members, and an element that says nothing of the
  resource.
-/

namespace ResourceGen

/-! ## Copies -/

/-- Every structure that a list or map of the model holds has a member that can be copied. -/
def ServiceModel.FillsContainers (m : ServiceModel) : Prop :=
  ∀ s ∈ m.shapes.values, ∀ t, m.Holds s t → t.isStructure = true → m.typedMembers t.members ≠ []

theorem Layout.isHollow_eq_false {m : ServiceModel} (hm : m.FillsContainers) {l : Layout}
    {s t : Shape} (hs : s ∈ m.shapes.values) (hst : m.Holds s t) (hl : l.Unfolds m t) :
    l.isHollow = false := by
  rcases l with _ | ⟨shape, _ | ⟨part, parts⟩⟩ | _ | _
  · rfl
  · rw [Unfolds] at hl
    obtain ⟨-, members, hkind, hmembers⟩ := hl
    have htyped := hm s hs t hst (ServiceModel.isStructure_iff.mpr ⟨members, hkind⟩)
    rw [ServiceModel.members_eq hkind] at htyped
    have hnames := Copier.map_fst_of_unfoldsMembers hmembers
    exact absurd (List.map_eq_nil_iff.mp hnames.symm) htyped
  · rfl
  · rfl
  · rfl

namespace Copier

open Statement (idleOf)

variable {c : Copier}

theorem idleOf_copy_of_bind {l : Layout}
    (hl : ∀ (t : Temporary) (source : Accessor) (n : Nat), idleOf (c.bind t.text source l n).1 = [])
    (dest source : Accessor) (n : Nat) : idleOf (c.copy dest source l n).1 = [] := by
  have hbind := hl ⟨n, []⟩ source (n + 1)
  rw [Temporary.text_numbered] at hbind
  cases l with
  | scalar t =>
    rw [copy_scalar]
    rfl
  | _ =>
    rw [copy_of_ne_scalar _ _ _ (by simp)]
    simp [idleOf, Statement.idle, Statement.idleOf_append, publish, hbind]

mutual

/-- Copies of the shapes of a model have no idle variables when all its containers can be filled. -/
theorem idleOf_bind (hm : c.types.model.FillsContainers) : ∀ (l : Layout) {s : Shape},
    s ∈ c.types.model.shapes.values → l.Unfolds c.types.model s →
      ∀ (t : Temporary) (source : Accessor) (n : Nat), idleOf (c.bind t.text source l n).1 = []
  | .scalar type, s, _, _, t, source, n => by
    rw [bind]
    rfl
  | .structure name parts, s, hs, hl, t, source, n => by
    rw [Layout.Unfolds] at hl
    obtain ⟨-, members, -, hparts⟩ := hl
    rw [bind, idleOf, Statement.idle, List.nil_append]
    refine idleOf_bindMembers hm parts (fun f hf => ?_) hparts t.text source n
    obtain ⟨g, -, -, hshape, -⟩ := ServiceModel.mem_typedMembers_iff.mp hf
    exact Dict.mem_values_of_get? hshape
  | .list type l, s, hs, hl, t, source, n => by
    rw [Layout.Unfolds] at hl
    obtain ⟨element, e, hkind, he, -, hl⟩ := hl
    have hhollow := Layout.isHollow_eq_false hm hs (.element hkind he) hl
    have hbody := idleOf_bind hm l (Dict.mem_values_of_get? he) hl (t.extend .elem)
      (.var (t.extend .iter).text) n
    simp [bind_list, idleOf, Statement.idle, makesEmpty_elementBody, hhollow, idleOf_elementBody,
      hbody]
  | .map type l, s, hs, hl, t, source, n => by
    rw [Layout.Unfolds] at hl
    obtain ⟨key, value, v, hkind, hv, -, hl⟩ := hl
    have hhollow := Layout.isHollow_eq_false hm hs (.value hkind hv) hl
    have hbody := idleOf_bind hm l (Dict.mem_values_of_get? hv) hl (t.extend .val)
      (.var (t.extend .valit).text) n
    simp [bind_map, idleOf, Statement.idle, makesEmpty_entryBody, hhollow, idleOf_entryBody, hbody]

theorem idleOf_bindMembers (hm : c.types.model.FillsContainers) :
    ∀ (parts : List (String × Layout)) {fs : List (String × Shape)},
      (∀ f ∈ fs, f.2 ∈ c.types.model.shapes.values) →
      Layout.UnfoldsMembers c.types.model parts fs →
      ∀ (var : String) (source : Accessor) (n : Nat),
        idleOf (c.bindMembers var source parts n).1 = []
  | [], [], _, _, var, source, n => by
    rw [bindMembers]
    rfl
  | (wire, l) :: parts, f :: _, hfs, h, var, source, n => by
    obtain ⟨-, hl, hparts⟩ := h
    rw [bindMembers_cons, Statement.idleOf_append,
      idleOf_copy_of_bind (idleOf_bind hm l (hfs f List.mem_cons_self) hl),
      idleOf_bindMembers hm parts (fun f hf => hfs f (List.mem_cons_of_mem _ hf)) hparts,
      List.append_nil]

end

theorem idleOf_transfers (hm : c.types.model.FillsContainers) {roots : List String}
    {ts : List Transfer} (hts : ∀ t ∈ ts, t.Within c.types.model roots) (n : Nat) :
    idleOf (c.transfers ts n) = [] := by
  induction ts generalizing n with
  | nil => rfl
  | cons t ts ih =>
    rw [transfers, Statement.idleOf_append, ih fun u hu => hts u (List.mem_cons_of_mem t hu),
      List.append_nil]
    cases t with
    | copied dest source l =>
      obtain ⟨-, -, shape, hshape, hl⟩ := hts _ List.mem_cons_self
      exact idleOf_copy_of_bind (idleOf_bind hm l hshape hl) dest source n
    | handed dest source kind => rfl

end Copier

namespace Synthesizer

open Code (unusedOf)
open Statement (idleOf)

variable {s : Synthesizer} {r : Resource} {roots : List String} {p : Program}

theorem idleOf_moves (hm : s.model.FillsContainers) {d : Direction} (h : s.Moves d roots p) :
    idleOf p.statements = [] := by
  obtain ⟨ts, hts, rfl⟩ := h
  exact Copier.idleOf_transfers (c := ⟨d, s.types⟩) hm hts 0

/-- Programs have no idle variables when all containers can be filled, but for an only element of
which nothing is taken over. -/
theorem idleOf_assembled (hm : s.model.FillsContainers) {d : Direction}
    (h : s.Assembled roots d p) :
    idleOf p.statements = [] ∨ ∃ list, p.statements = [.ifSingleElement list onlyElementVar []] := by
  cases h with
  | transfers h => exact Or.inl (idleOf_moves hm h)
  | @behindAttributes r member request spec ts hrequest hspec hts =>
    have hentries := idleOf_moves hm (s.moves_attributeEntries r.spec.values spec)
    have hmore := idleOf_moves hm (d := .outbound) ⟨ts, hts, rfl⟩
    simp only [program, List.nil_append] at hentries hmore
    refine Or.inl ?_
    simp [program, sendAttributes, idleOf, Statement.idle, Statement.idleOf_append, hentries, hmore,
      Copier.publish]
  | @onlyElement list p hlist h =>
    have hbody := idleOf_moves hm h
    cases hempty : p.statements with
    | nil => exact Or.inr ⟨list, rfl⟩
    | cons first rest =>
      rw [hempty] at hbody
      exact Or.inl (by simpa [idleOf, Statement.idle] using hbody)

/-- **The code of every program reads all that it declares but the idle variables**: the loop
variables of loops that only make empty structures, and the variable of an only element of which
nothing is taken over. When every structure in a list or map has members to copy, only the latter is
left. -/
theorem unused_variables (h : s.Gives r p) :
    unusedOf [] p.toCode = idleOf p.statements ∧
      (s.model.FillsContainers →
        unusedOf [] p.toCode = [] ∨
          ∃ list, p.statements = [.ifSingleElement list onlyElementVar []]) := by
  have hidle := unusedOf_of_gives h
  refine ⟨hidle, fun hm => ?_⟩
  rw [hidle]
  cases h with
  | fillRequest h => exact idleOf_assembled hm (fillRequest_assembled h)
  | fillAttributesQuery h => exact Or.inl (idleOf_moves hm (fillAttributesQuery_moves h))
  | adoptResponse h => exact idleOf_assembled hm (adoptResponse_assembled h).1
  | adoptAttributes h => exact Or.inl (idleOf_moves hm (adoptAttributes_moves h))

end Synthesizer

/-- The code that creates a queue reads all its variables. -/
theorem unused_queue :
    queueSchema.synthesizer.Gives queue queueRequest ∧ queueModel.FillsContainers ∧
      Code.unusedOf [] queueRequest.toCode = [] := by
  have hrequest : queueSchema.synthesizer.fillRequest queue .create "ko" "res" =
      .ok queueRequest := rfl
  have hgives := Synthesizer.Gives.fillRequest hrequest
  have hfills : queueModel.FillsContainers := by
    -- the only container is the map of texts
    have hkinds : ∀ s ∈ queueModel.shapes.values,
        s.target? .element = none ∧ (s.target? .value).all (· == "Text") = true := by decide
    intro s hs t hst hstructure
    have hkind := hkinds s hs
    cases hst with
    | element hk ht => simp [Shape.target?, hk] at hkind
    | value hk ht =>
      obtain rfl : _ = "Text" := by simpa [Shape.target?, hk] using hkind
      cases ht
      cases hstructure
  refine ⟨hgives, hfills, ?_⟩
  rcases (Synthesizer.unused_variables hgives).2 hfills with h | ⟨list, h⟩
  · exact h
  · cases h

/-- A service of queues with markers that say nothing. -/
def markedModel : ServiceModel :=
  ((([{ name := "Text", kind := .scalar .string },
    { name := "Marker", kind := .structure [] },
    { name := "Markers", kind := .list "Marker" },
    { name := "MarkerMap", kind := .map "Text" "Marker" },
    { name := "CreateQueueRequest", kind := .structure
        [{ name := "Name", target := "Text" }, { name := "Markers", target := "Markers" },
          { name := "Marks", target := "MarkerMap" }] },
    { name := "CreateQueueResponse", kind := .structure
        [{ name := "QueueArn", target := "Text" }] },
    { name := "Entry", kind := .structure [{ name := "Url", target := "Text" }] },
    { name := "Entries", kind := .list "Entry" },
    { name := "ListQueuesResponse", kind := .structure
        [{ name := "Entries", target := "Entries" }] }].foldl
      ServiceModel.addShape (.new "Queues")).addOperation createQueue).addOperation
        listQueues).finish

/-- The schema of the service. -/
def markedSchema : Schema where
  model := markedModel
  config := {}
  namer := .standard
  index := ⟨[⟨.create, "Queue", createQueue⟩, ⟨.list, "Queue", listQueues⟩]⟩

/-- The resource of the service. -/
def markedQueue : Resource where
  names := Naming.standardNames "Queue"
  plural := "Queues"
  operations := { create := some createQueue, readMany := some listQueues }
  spec := .ofList
    [("Markers", ⟨Naming.standardNames "Markers", .list (.structure "Marker"), some "Markers",
        .member "Markers"⟩),
      ("Marks", ⟨Naming.standardNames "Marks", .map .string (.structure "Marker"),
        some "MarkerMap", .member "Marks"⟩),
      ("Name", ⟨Naming.standardNames "Name", .string, some "Text", .member "Name"⟩)]
  primaryIdentifier := some (.member "CreateQueue" "QueueArn")

/-- The program that creates a queue with its markers. -/
def markedRequest : Program :=
  let res := Accessor.parse "res"
  let spec := (Accessor.parse "r.ko").field "Spec"
  markedSchema.synthesizer.program .outbound []
    [.copied (res.field "Markers") (spec.field "Markers")
        (.list (.structure "Marker") (.structure "Marker" [])),
      .copied (res.field "Marks") (spec.field "Marks")
        (.map (.structure "Marker") (.structure "Marker" [])),
      .copied (res.field "Name") (spec.field "Name") (.scalar .string)]

/-- The program that takes over the only entry of a listing. -/
def entryResponse : Program :=
  ⟨.inbound, [.ifSingleElement ((Accessor.parse "resp").field "Entries") onlyElementVar []]⟩

/-- **Idle variables do occur**: in the loops over the markers, and for the only entry of a listing,
which says nothing of the queue. -/
theorem unused_marker :
    Schema.build markedModel {} .standard (.byConvention .standard) = .ok markedSchema ∧
      markedSchema.resources = .ok [markedQueue] ∧
      markedSchema.synthesizer.fillRequest markedQueue .create "r.ko" "res" = .ok markedRequest ∧
      Code.unusedOf [] markedRequest.toCode = ["f0iter", "f1valit"] ∧
      markedSchema.synthesizer.adoptResponse markedQueue .list "resp" (.status "ko.Status") =
        .ok entryResponse ∧
      Code.unusedOf [] entryResponse.toCode = [onlyElementVar] := by
  refine ⟨rfl, Schema.resources_of_single (show markedSchema.resourceNames = ["Queue"] from rfl)
    rfl, rfl, ?_, rfl, rfl⟩
  have hvar : Copier.temporary 0 = "f0" ∧ Copier.temporary 1 = "f1" := ⟨rfl, rfl⟩
  refine (Copier.unusedOf_transfers ⟨.outbound, markedSchema.types⟩ _ 0 [] []).trans ?_
  simp [Copier.transfers, Copier.transfer, Copier.copy, Copier.bind, Copier.bindMembers,
    Copier.publish, Statement.idleOf, Statement.idle, Statement.makesEmpty, hvar]

end ResourceGen
