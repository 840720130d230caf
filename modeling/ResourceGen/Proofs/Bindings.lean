import ResourceGen.Proofs.Agreement
import ResourceGen.Proofs.Properties
import ResourceGen.Proofs.Recursion

/-!
# Operations bound to a service

The operations of a service are those that it lists and those that its resources bind, at any
depth. What is bound is told here from the JSON of a model, property by property, and nothing is
lost on the way: neither by decoding, nor by following resources only so far as there are shapes.

The operations on a whole collection of resources are read from the property
`collection_operations`. Models write them under `collectionOperations`, and then they are lost.

Results:
* `wellFounded_hasChild`, `resourceOperations_eq`: where no resource contains itself, the recursion
  over resources ends, and its bound is never met.
* `mem_resourceOperations`: all resources of a service are visited then.
* `mem_boundOperations`, `mem_resources_iff`: what the properties of a resource say is read.
* `keys_operations`: the operations of a service are those that it binds.
* `keys_operations_loses_collection`: operations of a collection are lost.
-/

namespace ResourceGen

open Json (Value Slot)
open Relation (TransGen ReflTransGen)

namespace SmithyDocument

/-! ## Resources of resources -/

/-- The resource with a given id. -/
def resource? (d : SmithyDocument) (id : String) : Option SmithyResource :=
  match d.shapes.get? id with
  | some (.resource r) => some r
  | _ => none

/-- A resource lists a child. -/
def HasChild (d : SmithyDocument) (parent child : String) : Prop :=
  ∃ r, d.resource? parent = some r ∧ child ∈ r.resources

variable {d : SmithyDocument} {id : String}

theorem resource?_eq_some_iff {r : SmithyResource} :
    d.resource? id = some r ↔ d.shapes.get? id = some (.resource r) := by
  unfold resource?
  constructor
  · intro h
    split at h
    · rename_i hget
      cases h
      exact hget
    · cases h
  · intro h
    rw [h]

/-- One level of the operations that resources bind, from those that their children bind. -/
def operationsStep (d : SmithyDocument) (operationsOf : List String → List String)
    (resources : List String) : List String :=
  resources.flatMap fun id =>
    match d.resource? id with
    | some r => boundOperations r ++ operationsOf r.resources
    | none => []

theorem resourceOperations_succ (depth : Nat) (roots : List String) :
    d.resourceOperations (depth + 1) roots =
      d.operationsStep (d.resourceOperations depth) roots := by
  rw [resourceOperations, operationsStep]
  refine List.flatMap_congr fun root _ => ?_
  split
  · rename_i r hget
    rw [resource?_eq_some_iff.mpr hget]
  · rename_i hnone
    cases hr : d.resource? root with
    | none => rfl
    | some r => exact absurd (resource?_eq_some_iff.mp hr) (hnone r)

theorem mem_operationsStep {operationsOf : List String → List String} {roots : List String} :
    id ∈ d.operationsStep operationsOf roots ↔ ∃ root ∈ roots, ∃ r, d.resource? root = some r ∧
      (id ∈ boundOperations r ∨ id ∈ operationsOf r.resources) := by
  rw [operationsStep, List.mem_flatMap]
  refine exists_congr fun root => and_congr_right fun _ => ?_
  cases d.resource? root <;> simp

/-- What is found lies below a root. -/
theorem below_of_mem_resourceOperations {depth : Nat} {roots : List String}
    (h : id ∈ d.resourceOperations depth roots) : ∃ root ∈ roots, ∃ key r,
      ReflTransGen d.HasChild root key ∧ d.resource? key = some r ∧ id ∈ boundOperations r := by
  induction depth generalizing roots with
  | zero => cases h
  | succ depth ih =>
    rw [resourceOperations_succ] at h
    obtain ⟨root, hroot, r, hr, h⟩ := mem_operationsStep.mp h
    rcases h with h | h
    · exact ⟨root, hroot, root, r, .refl, hr, h⟩
    · obtain ⟨child, hchild, key, r', hpath, hr', h⟩ := ih h
      exact ⟨root, hroot, key, r', hpath.head ⟨r, hr, hchild⟩, hr', h⟩

/-! ## Resources without a bound -/

open Classical in
/-- The number of shapes that are children of a resource, children of these and so on. -/
noncomputable def descendants (d : SmithyDocument) (id : String) : Nat :=
  (d.shapes.keys.filter fun child => TransGen d.HasChild id child).length

theorem descendants_le_size : d.descendants id ≤ d.shapes.size := by
  refine Nat.le_trans (List.length_filter_le _ _) ?_
  simp [Dict.keys, Dict.size]

theorem mem_keys_of_resource? {r : SmithyResource} (h : d.resource? id = some r) :
    id ∈ d.shapes.keys :=
  Dict.mem_keys_iff.mpr ⟨_, resource?_eq_some_iff.mp h⟩

/-- **A child that is a resource has fewer descendants.** -/
theorem descendants_lt (hacyclic : ∀ key, ¬ TransGen d.HasChild key key) {parent child : String}
    (h : d.HasChild parent child) {r : SmithyResource} (hr : d.resource? child = some r) :
    d.descendants child < d.descendants parent :=
  length_filter_transGen_lt (mem_keys_of_resource? hr) h (hacyclic child)

/-- **Going down resources ends.** -/
theorem wellFounded_hasChild (hacyclic : ∀ key, ¬ TransGen d.HasChild key key) :
    WellFounded fun child parent => d.HasChild parent child := by
  refine ⟨fun id => ?_⟩
  induction hn : d.descendants id using Nat.strongRecOn generalizing id with
  | _ n ih =>
    subst hn
    refine Acc.intro id fun child hchild => ?_
    cases hr : d.resource? child with
    | none =>
      -- what is no resource has no children
      refine Acc.intro child fun grandchild ⟨r, hr', _⟩ => ?_
      rw [hr] at hr'
      cases hr'
    | some r => exact ih _ (descendants_lt hacyclic hchild hr) child rfl

theorem resourceOperations_eq_flatMap (depth : Nat) (roots : List String) :
    d.resourceOperations depth roots =
      roots.flatMap fun root => d.resourceOperations depth [root] := by
  cases depth <;> simp [resourceOperations]

theorem resourceOperations_eq_nil (h : d.resource? id = none) (depth : Nat) :
    d.resourceOperations depth [id] = [] := by
  cases depth with
  | zero => rfl
  | succ depth => simp [resourceOperations_succ, operationsStep, h]

/-- More levels than a resource has descendants make no difference. -/
theorem resourceOperations_eq_of_descendants_lt (hacyclic : ∀ key, ¬ TransGen d.HasChild key key)
    {depth depth' : Nat} (hdepth : d.descendants id < depth) (hdepth' : d.descendants id < depth') :
    d.resourceOperations depth [id] = d.resourceOperations depth' [id] := by
  induction depth generalizing depth' id with
  | zero => omega
  | succ depth ih =>
    obtain ⟨depth', rfl⟩ : ∃ k, depth' = k + 1 := ⟨depth' - 1, by omega⟩
    cases hr : d.resource? id with
    | none => rw [resourceOperations_eq_nil hr, resourceOperations_eq_nil hr]
    | some r =>
      have hbelow : d.resourceOperations depth r.resources =
          d.resourceOperations depth' r.resources := by
        rw [resourceOperations_eq_flatMap depth, resourceOperations_eq_flatMap depth']
        refine List.flatMap_congr fun child hchild => ?_
        cases hr' : d.resource? child with
        | none => rw [resourceOperations_eq_nil hr', resourceOperations_eq_nil hr']
        | some r' =>
          have hlt := descendants_lt hacyclic ⟨r, hr, hchild⟩ hr'
          exact ih (by omega) (by omega)
      simp only [resourceOperations_succ, operationsStep, List.flatMap_singleton, hr, hbelow]

/-- **The recursion over resources, without a bound.** -/
theorem resourceOperations_eq (hacyclic : ∀ key, ¬ TransGen d.HasChild key key)
    (roots : List String) : d.resourceOperations (d.shapes.size + 1) roots =
      d.operationsStep (d.resourceOperations (d.shapes.size + 1)) roots := by
  rw [← resourceOperations_succ, resourceOperations_eq_flatMap (d.shapes.size + 1) roots,
    resourceOperations_eq_flatMap (d.shapes.size + 1 + 1) roots]
  refine List.flatMap_congr fun root _ => ?_
  have hle : d.descendants root ≤ d.shapes.size := descendants_le_size
  exact resourceOperations_eq_of_descendants_lt hacyclic (by omega) (by omega)

/-- **All resources below the roots are visited**, where none contains itself. -/
theorem mem_resourceOperations (hacyclic : ∀ key, ¬ TransGen d.HasChild key key)
    {roots : List String} : id ∈ d.resourceOperations (d.shapes.size + 1) roots ↔
      ∃ root ∈ roots, ∃ key r, ReflTransGen d.HasChild root key ∧ d.resource? key = some r ∧
        id ∈ boundOperations r := by
  constructor
  · exact below_of_mem_resourceOperations
  · rintro ⟨root, hroot, key, r, hpath, hr, hid⟩
    -- along the path from the root, by the recursion without a bound
    induction hpath using ReflTransGen.head_induction_on generalizing roots with
    | refl =>
      rw [resourceOperations_eq hacyclic]
      exact mem_operationsStep.mpr ⟨key, hroot, r, hr, Or.inl hid⟩
    | @head root child hchild _ ih =>
      obtain ⟨r', hr', hmem⟩ := hchild
      rw [resourceOperations_eq hacyclic]
      exact mem_operationsStep.mpr ⟨root, hroot, r', hr', Or.inr (ih hmem)⟩

/-- A size that decreases from a resource to its children shows that none contains itself. -/
theorem acyclic_of_size (size : String → Nat)
    (h : d.shapes.entries.all fun e =>
      match e.2 with
      | .resource r => r.resources.all fun child => size child < size e.1
      | _ => true) (id : String) : ¬ TransGen d.HasChild id id := by
  have hstep {parent child : String} (hc : d.HasChild parent child) : size child < size parent := by
    obtain ⟨r, hr, hchild⟩ := hc
    have hentry := List.all_eq_true.mp h _ (Dict.mem_entries_iff.mpr (resource?_eq_some_iff.mp hr))
    exact of_decide_eq_true (List.all_eq_true.mp hentry child hchild)
  have hlt {parent descendant : String} (hd : TransGen d.HasChild parent descendant) :
      size descendant < size parent := by
    induction hd with
    | single hc => exact hstep hc
    | tail _ hc ih => exact Nat.lt_trans (hstep hc) ih
  exact fun hcycle => Nat.lt_irrefl _ (hlt hcycle)

/-! ## What the JSON says -/

/-- The declared properties of a model. -/
def modelProperties : List String := ["smithy", "shapes", "metadata"]

/-- The declared properties of a service. -/
def serviceProperties : List String := ["type", "version", "operations", "resources", "traits"]

/-- The properties of a resource that refer to one operation. -/
def lifecycleProperties : List String := ["create", "put", "read", "update", "delete", "list"]

/-- The declared properties of a resource, with a given name for the operations on the whole
collection. -/
def resourceProperties (collection : String) : List String :=
  "type" :: (lifecycleProperties ++ ["operations", collection, "resources"])

/-- A value refers to a shape. -/
def RefersTo (v : Value) (id : String) : Prop := v.property? ["target"] "target" = some (.str id)

/-- A property refers to a shape. -/
def PropertyRefersTo (declared : List String) (name : String) (v : Value) (id : String) : Prop :=
  ∃ x, v.property? declared name = some x ∧ RefersTo x id

/-- A property lists a reference to a shape. -/
def PropertyLists (declared : List String) (name : String) (v : Value) (id : String) : Prop :=
  ∃ items, v.property? declared name = some (.arr items) ∧ ∃ x ∈ items, RefersTo x id

/-- The value of a shape has a given type. -/
def HasType (v : Value) (type : String) : Prop := v.property? ["type"] "type" = some (.str type)

/-- The value of a shape. -/
def shapeValue? (v : Value) (id : String) : Option Value :=
  (v.property? modelProperties "shapes").bind (·.lastField? id)

/-- A resource binds an operation, with a given name for the property of those on the whole
collection. -/
def Binds (collection : String) (v : Value) (resource id : String) : Prop :=
  ∃ w, shapeValue? v resource = some w ∧ HasType w "resource" ∧
    ((∃ name ∈ lifecycleProperties,
        PropertyRefersTo (resourceProperties collection) name w id) ∨
      ∃ name ∈ ["operations", collection],
        PropertyLists (resourceProperties collection) name w id)

/-- A resource contains another one directly. -/
def Nests (v : Value) (parent child : String) : Prop :=
  ∃ w, shapeValue? v parent = some w ∧ HasType w "resource" ∧
    PropertyLists (resourceProperties "collectionOperations") "resources" w child

/-- The first service in the order of ids. -/
def IsFirstService (v : Value) (service : String) (w : Value) : Prop :=
  shapeValue? v service = some w ∧ HasType w "service" ∧
    ∀ other w', shapeValue? v other = some w' → HasType w' "service" → service ≤ other

/-- An operation is bound to the service: listed by it, or bound by a resource below it. -/
def BoundToService (collection : String) (v : Value) (id : String) : Prop :=
  ∃ service w, IsFirstService v service w ∧
    (PropertyLists serviceProperties "operations" w id ∨
      ∃ root resource, PropertyLists serviceProperties "resources" w root ∧
        ReflTransGen (Nests v) root resource ∧ Binds collection v resource id)

/-! ## What is decoded -/

theorem not_refersTo_null (id : String) : ¬ RefersTo .null id := fun h => by cases h

theorem refersTo_iff_of_readReference (w : Value) (target : String)
    (h : SmithyShape.readReference w = some target) (id : String) :
    RefersTo w id ↔ target = id := by
  obtain ⟨slots, hslots, h⟩ := Option.bind_eq_some_iff.mp h
  rw [Json.slots_eq (by decide) hslots] at h
  obtain ⟨x, hx, htext⟩ := Option.bind_eq_some_iff.mp h
  have hx : w.property? ["target"] "target" = some x := hx
  unfold RefersTo
  rw [hx]
  unfold Value.text? at htext
  split at htext
  · cases htext
    simp
  · cases htext

/-- The type of a shape and its further content are read apart. -/
theorem untag?_eq_some {w content : Value} {tag : String}
    (h : SmithyShape.untag? w = some (tag, content)) : HasType w tag ∧
      ∀ declared name, name ≠ "type" →
        content.property? declared name = w.property? ("type" :: declared) name := by
  unfold SmithyShape.untag? at h
  split at h
  · split at h
    · rename_i entries _
      split at h
      · rename_i key tag' hfilter
        cases h
        refine ⟨?_, fun declared name hname => Entries.get?_filter_ne hname entries⟩
        show Entries.get? entries "type" = _
        rw [Entries.get?_eq_find?, ← List.head?_filter, hfilter]
        rfl
      · cases h
    · cases h
      refine ⟨rfl, fun declared name hname => ?_⟩
      show _ = (_ :: _)[("type" :: declared).idxOf name]?
      rw [List.idxOf_cons_ne _ hname.symm, List.getElem?_cons_succ]
      rfl
    · cases h
  · cases h

theorem HasType.eq {w : Value} {type type' : String} (h : HasType w type) (h' : HasType w type') :
    type = type' := by
  have heq := Option.some.inj (h.symm.trans h')
  injection heq

/-- Only what is tagged so is a service or a resource. -/
theorem tag_of_ofTagged? {tag : String} {content : Value} {s : SmithyShape}
    (h : SmithyShape.ofTagged? tag content = some s) :
    (isService s = true ↔ tag = "service") ∧ ((∃ r, s = .resource r) ↔ tag = "resource") := by
  unfold SmithyShape.ofTagged? at h
  split at h
  case h_3 =>
    obtain ⟨r, -, rfl⟩ := Option.map_eq_some_iff.mp h
    simp [isService]
  case h_9 =>
    -- a scalar type or one that is not known
    split at h
    · obtain ⟨slots, -, h⟩ := Option.bind_eq_some_iff.mp h
      split at h
      · obtain ⟨traits, -, h⟩ := Option.bind_eq_some_iff.mp h
        cases h
        simp_all [isService]
      · cases h
    · split at h
      · cases h
        simp_all [isService]
      · cases h
  all_goals
    obtain ⟨slots, -, h⟩ := Option.bind_eq_some_iff.mp h
    split at h
    · simp only [Option.bind_eq_bind, Option.bind_eq_some_iff, Option.pure_def,
        Option.some.injEq] at h
      grind [isService]
    · cases h

/-- A shape is read from its type and its further content. -/
theorem ofJson?_eq_some {w : Value} {s : SmithyShape} (h : SmithyShape.ofJson? w = some s) :
    ∃ tag content, HasType w tag ∧ SmithyShape.ofTagged? tag content = some s ∧
      ∀ declared name, name ≠ "type" →
        content.property? declared name = w.property? ("type" :: declared) name := by
  obtain ⟨⟨tag, content⟩, huntag, h⟩ := Option.bind_eq_some_iff.mp h
  obtain ⟨htype, hproperties⟩ := untag?_eq_some huntag
  exact ⟨tag, content, htype, h, hproperties⟩

theorem isService_iff {w : Value} {s : SmithyShape} (h : SmithyShape.ofJson? w = some s) :
    isService s = true ↔ HasType w "service" := by
  obtain ⟨tag, content, htype, h, -⟩ := ofJson?_eq_some h
  exact (tag_of_ofTagged? h).1.trans ⟨fun htag => htag ▸ htype, fun h' => htype.eq h'⟩

theorem isResource_iff {w : Value} {s : SmithyShape} (h : SmithyShape.ofJson? w = some s) :
    (∃ r, s = .resource r) ↔ HasType w "resource" := by
  obtain ⟨tag, content, htype, h, -⟩ := ofJson?_eq_some h
  exact (tag_of_ofTagged? h).2.trans ⟨fun htag => htag ▸ htype, fun h' => htype.eq h'⟩

/-! ## Services and resources -/

section Content

variable {w : Value} {declared : List String} {name : String}

/-- A list of references in a record. -/
theorem mem_iff_propertyLists {l : List String}
    (h : Slot.withDefault (w.property? declared name) (Value.toList? SmithyShape.readReference) [] =
      some l) : id ∈ l ↔ PropertyLists declared name w id :=
  Json.mem_iff_of_withDefault refersTo_iff_of_readReference h id

/-- A reference in a record that may be missing. -/
theorem eq_some_iff_propertyRefersTo {o : Option String}
    (h : Slot.optional (w.property? declared name) SmithyShape.readReference = some o) :
    o = some id ↔ PropertyRefersTo declared name w id :=
  Json.eq_some_iff_of_optional refersTo_iff_of_readReference not_refersTo_null h id

end Content

theorem mem_boundOperations {r : SmithyResource} : id ∈ boundOperations r ↔
    (∃ o ∈ [r.create, r.put, r.read, r.update, r.delete, r.list], o = some id) ∨
      ∃ l ∈ [r.operations, r.collectionOperations], id ∈ l := by
  simp [boundOperations, or_assoc]

/-- What is read from the properties of a resource. -/
theorem readResource_eq_some {content : Value} {r : SmithyResource}
    (h : SmithyShape.readResource content = some r) (id : String) :
    let declared := (resourceProperties "collection_operations").tail
    (id ∈ boundOperations r ↔
        (∃ name ∈ lifecycleProperties, PropertyRefersTo declared name content id) ∨
          ∃ name ∈ ["operations", "collection_operations"],
            PropertyLists declared name content id) ∧
      (id ∈ r.resources ↔ PropertyLists declared "resources" content id) := by
  intro declared
  obtain ⟨slots, hslots, h⟩ := Option.bind_eq_some_iff.mp h
  rw [Json.slots_eq (by decide) hslots] at h
  obtain ⟨create, hcreate, h⟩ := Option.bind_eq_some_iff.mp h
  obtain ⟨put, hput, h⟩ := Option.bind_eq_some_iff.mp h
  obtain ⟨read, hread, h⟩ := Option.bind_eq_some_iff.mp h
  obtain ⟨update, hupdate, h⟩ := Option.bind_eq_some_iff.mp h
  obtain ⟨delete, hdelete, h⟩ := Option.bind_eq_some_iff.mp h
  obtain ⟨list, hlist, h⟩ := Option.bind_eq_some_iff.mp h
  obtain ⟨operations, hoperations, h⟩ := Option.bind_eq_some_iff.mp h
  obtain ⟨collection, hcollection, h⟩ := Option.bind_eq_some_iff.mp h
  obtain ⟨resources, hresources, h⟩ := Option.bind_eq_some_iff.mp h
  cases h
  rw [mem_boundOperations]
  simp only [List.mem_cons, List.not_mem_nil, or_false, exists_eq_or_imp, exists_eq_left,
    lifecycleProperties, eq_some_iff_propertyRefersTo hcreate, eq_some_iff_propertyRefersTo hput,
    eq_some_iff_propertyRefersTo hread, eq_some_iff_propertyRefersTo hupdate,
    eq_some_iff_propertyRefersTo hdelete, eq_some_iff_propertyRefersTo hlist,
    mem_iff_propertyLists hoperations, mem_iff_propertyLists hcollection,
    mem_iff_propertyLists hresources]
  exact ⟨Iff.rfl, Iff.rfl⟩

theorem propertyRefersTo_congr {w w' : Value} {declared declared' : List String} {name : String}
    (h : w.property? declared name = w'.property? declared' name) :
    PropertyRefersTo declared name w id ↔ PropertyRefersTo declared' name w' id := by
  unfold PropertyRefersTo
  rw [h]

theorem propertyLists_congr {w w' : Value} {declared declared' : List String} {name : String}
    (h : w.property? declared name = w'.property? declared' name) :
    PropertyLists declared name w id ↔ PropertyLists declared' name w' id := by
  unfold PropertyLists
  rw [h]

/-- **A resource is read with all its properties.** -/
theorem resource_of_ofJson? {w : Value} {r : SmithyResource}
    (h : SmithyShape.ofJson? w = some (.resource r)) (id : String) :
    (id ∈ boundOperations r ↔
        (∃ name ∈ lifecycleProperties,
            PropertyRefersTo (resourceProperties "collection_operations") name w id) ∨
          ∃ name ∈ ["operations", "collection_operations"],
            PropertyLists (resourceProperties "collection_operations") name w id) ∧
      (id ∈ r.resources ↔
        PropertyLists (resourceProperties "collectionOperations") "resources" w id) := by
  obtain ⟨tag, content, -, h, hcontent⟩ := ofJson?_eq_some h
  obtain ⟨rfl, hr⟩ : tag = "resource" ∧ SmithyShape.readResource content = some r := by
    obtain rfl := (tag_of_ofTagged? h).2.mp ⟨r, rfl⟩
    obtain ⟨r', hr', heq⟩ := Option.map_eq_some_iff.mp h
    cases heq
    exact ⟨rfl, hr'⟩
  obtain ⟨hbound, hresources⟩ := readResource_eq_some hr id
  refine ⟨hbound.trans (or_congr ?_ ?_), hresources.trans (propertyLists_congr ?_)⟩
  · refine exists_congr fun name => and_congr_right fun hname => propertyRefersTo_congr ?_
    exact hcontent _ name (by rintro rfl; revert hname; decide)
  · refine exists_congr fun name => and_congr_right fun hname => propertyLists_congr ?_
    exact hcontent _ name (by rintro rfl; revert hname; decide)
  · rw [hcontent _ _ (by decide)]
    cases w <;> rfl

/-- **A service is read with its operations and resources.** -/
theorem service_of_ofJson? {w : Value} {version : Option String} {operations resources : List String}
    {traits : Traits}
    (h : SmithyShape.ofJson? w = some (.service version operations resources traits))
    (id : String) : (id ∈ operations ↔ PropertyLists serviceProperties "operations" w id) ∧
      (id ∈ resources ↔ PropertyLists serviceProperties "resources" w id) := by
  obtain ⟨tag, content, -, h, hcontent⟩ := ofJson?_eq_some h
  obtain rfl := (tag_of_ofTagged? h).1.mp rfl
  obtain ⟨slots, hslots, h⟩ := Option.bind_eq_some_iff.mp h
  rw [Json.slots_eq (by decide) hslots] at h
  obtain ⟨version', -, h⟩ := Option.bind_eq_some_iff.mp h
  obtain ⟨operations', hoperations, h⟩ := Option.bind_eq_some_iff.mp h
  obtain ⟨resources', hresources, h⟩ := Option.bind_eq_some_iff.mp h
  obtain ⟨traits', -, h⟩ := Option.bind_eq_some_iff.mp h
  cases h
  refine ⟨(mem_iff_propertyLists hoperations).trans (propertyLists_congr ?_),
    (mem_iff_propertyLists hresources).trans (propertyLists_congr ?_)⟩
  · exact hcontent _ _ (by decide)
  · exact hcontent _ _ (by decide)

/-! ## The whole model -/

variable {v : Value}

/-- All shapes are read. -/
theorem get?_shapes_of_ofJson? (hread : SmithyDocument.ofJson? v = some d) (id : String) :
    (shapeValue? v id).map SmithyShape.ofJson? = (d.shapes.get? id).map some := by
  obtain ⟨slots, hslots, h⟩ := Option.bind_eq_some_iff.mp hread
  rw [Json.slots_eq (by decide) hslots] at h
  obtain ⟨smithy, -, h⟩ := Option.bind_eq_some_iff.mp h
  obtain ⟨shapes, hshapes, h⟩ := Option.bind_eq_some_iff.mp h
  obtain ⟨metadata, -, h⟩ := Option.bind_eq_some_iff.mp h
  cases h
  unfold shapeValue?
  have hshapes : Slot.withDefault (v.property? modelProperties "shapes")
      (Value.toDict? SmithyShape.ofJson?) .empty = some shapes := hshapes
  cases hx : v.property? modelProperties "shapes" with
  | none =>
    rw [hx] at hshapes
    cases hshapes
    rfl
  | some x =>
    rw [hx] at hshapes
    exact Json.get?_of_toDict? hshapes id

theorem exists_shape_of_shapeValue? (hread : SmithyDocument.ofJson? v = some d) {w : Value}
    (h : shapeValue? v id = some w) :
    ∃ s, d.shapes.get? id = some s ∧ SmithyShape.ofJson? w = some s := by
  have hget := get?_shapes_of_ofJson? hread id
  rw [h, Option.map_some, eq_comm, Option.map_eq_some_iff] at hget
  obtain ⟨s, hs, heq⟩ := hget
  exact ⟨s, hs, heq.symm⟩

theorem exists_shapeValue?_of_shape (hread : SmithyDocument.ofJson? v = some d) {s : SmithyShape}
    (h : d.shapes.get? id = some s) :
    ∃ w, shapeValue? v id = some w ∧ SmithyShape.ofJson? w = some s := by
  have hget := get?_shapes_of_ofJson? hread id
  rw [h, Option.map_some, Option.map_eq_some_iff] at hget
  exact hget

/-- A resource of the JSON is one of the model. -/
theorem exists_resource_iff (hread : SmithyDocument.ofJson? v = some d)
    {p : Value → Prop} {q : SmithyResource → Prop}
    (hpq : ∀ w r, SmithyShape.ofJson? w = some (.resource r) → (p w ↔ q r)) (id : String) :
    (∃ w, shapeValue? v id = some w ∧ HasType w "resource" ∧ p w) ↔
      ∃ r, d.resource? id = some r ∧ q r := by
  constructor
  · rintro ⟨w, hw, htype, hp⟩
    obtain ⟨s, hs, hsw⟩ := exists_shape_of_shapeValue? hread hw
    obtain ⟨r, rfl⟩ := (isResource_iff hsw).mpr htype
    exact ⟨r, resource?_eq_some_iff.mpr hs, (hpq w r hsw).mp hp⟩
  · rintro ⟨r, hr, hq⟩
    obtain ⟨w, hw, hsw⟩ := exists_shapeValue?_of_shape hread (resource?_eq_some_iff.mp hr)
    exact ⟨w, hw, (isResource_iff hsw).mp ⟨r, rfl⟩, (hpq w r hsw).mpr hq⟩

theorem nests_iff (hread : SmithyDocument.ofJson? v = some d) (parent child : String) :
    Nests v parent child ↔ d.HasChild parent child :=
  exists_resource_iff hread (fun _ _ hw => (resource_of_ofJson? hw child).2.symm) parent

theorem binds_iff (hread : SmithyDocument.ofJson? v = some d) (resource id : String) :
    Binds "collection_operations" v resource id ↔
      ∃ r, d.resource? resource = some r ∧ id ∈ boundOperations r :=
  exists_resource_iff hread (fun _ _ hw => (resource_of_ofJson? hw id).1.symm) resource

theorem IsFirstService.eq {service service' : String} {w w' : Value}
    (h : IsFirstService v service w) (h' : IsFirstService v service' w') :
    service = service' ∧ w = w' := by
  obtain rfl := String.le_antisymm (h.2.2 service' w' h'.1 h'.2.1) (h'.2.2 service w h.1 h.2.1)
  exact ⟨rfl, Option.some.inj (h.1.symm.trans h'.1)⟩

/-- The service that is found is the first one. -/
theorem isFirstService_of_service? (hread : SmithyDocument.ofJson? v = some d) {service : String}
    {s : SmithyShape} (h : d.service? = some (service, s)) :
    ∃ w, IsFirstService v service w ∧ SmithyShape.ofJson? w = some s := by
  have hservice : isService s = true :=
    List.find?_some (p := fun e : String × SmithyShape => isService e.2) h
  obtain ⟨w, hw, hsw⟩ :=
    exists_shapeValue?_of_shape hread (Dict.mem_entries_iff.mp (List.mem_of_find?_eq_some h))
  refine ⟨w, ⟨hw, (isService_iff hsw).mp hservice, fun other w' hw' htype => ?_⟩, hsw⟩
  obtain ⟨s', hs', hsw'⟩ := exists_shape_of_shapeValue? hread hw'
  have hmem := Dict.mem_entries_iff.mpr hs'
  have hservice' := (isService_iff hsw').mpr htype
  -- what comes before the first service is none, and ids ascend
  obtain ⟨-, before, after, hentries, hbefore⟩ := List.find?_eq_some_iff_append.mp h
  have hascending := d.shapes.ascending
  rw [hentries] at hmem
  unfold Entries.Ascending at hascending
  rw [hentries] at hascending
  rcases List.mem_append.mp hmem with hmem | hmem
  · have hnot := hbefore _ hmem
    rw [hservice'] at hnot
    cases hnot
  · rcases List.mem_cons.mp hmem with heq | hmem
    · cases heq
      exact String.le_refl _
    · have hlt := (List.pairwise_cons.mp (List.pairwise_append.mp hascending).2.1).1 _ hmem
      exact String.not_lt.mp fun hgt => String.lt_irrefl _ (String.lt_trans hlt hgt)

theorem boundToService_iff (hread : SmithyDocument.ofJson? v = some d) {service : String}
    {version : Option String} {operations resources : List String} {traits : Traits}
    (hservice : d.service? = some (service, .service version operations resources traits)) :
    BoundToService "collection_operations" v id ↔
      id ∈ operations ∨ ∃ root ∈ resources, ∃ key r, ReflTransGen d.HasChild root key ∧
        d.resource? key = some r ∧ id ∈ boundOperations r := by
  obtain ⟨w, hfirst, hsw⟩ := isFirstService_of_service? hread hservice
  have hnests : Nests v = d.HasChild := by
    funext parent child
    exact propext (nests_iff hread parent child)
  have hparts := service_of_ofJson? hsw
  unfold BoundToService
  rw [hnests]
  simp only [binds_iff hread]
  constructor
  · rintro ⟨service', w', hfirst', h⟩
    obtain ⟨rfl, rfl⟩ := hfirst.eq hfirst'
    refine h.imp (hparts id).1.mpr ?_
    rintro ⟨root, key, hroot, hpath, r, hr, hid⟩
    exact ⟨root, (hparts root).2.mpr hroot, key, r, hpath, hr, hid⟩
  · intro h
    refine ⟨service, w, hfirst, h.imp (hparts id).1.mp ?_⟩
    rintro ⟨root, hroot, key, r, hpath, hr, hid⟩
    exact ⟨root, key, (hparts root).2.mp hroot, hpath, r, hr, hid⟩

/-! ## Operations of the service -/

theorem operations_foldl_addPrelude (names : List String) (m : ServiceModel) :
    (names.foldl addPrelude m).operations = m.operations := by
  have hone (m : ServiceModel) (name : String) :
      (addPrelude m name).operations = m.operations := by
    unfold addPrelude
    split
    · rfl
    · split <;> rfl
  induction names generalizing m with
  | nil => rfl
  | cons name names ih => exact (ih _).trans (hone m name)

theorem name_of_operation {b : Operation × List String} (h : d.operation id = .ok b) :
    b.1.name = localName id := by
  unfold operation at h
  split at h
  · cases h
    rfl
  · cases h

/-- The operations of the service that is read have the local names of the ids that it binds. -/
theorem mem_keys_operations {m : ServiceModel} (h : d.toService = .ok m) :
    ∃ service version operations resources traits,
      d.service? = some (service, .service version operations resources traits) ∧
      ∀ name, name ∈ m.operations.keys ↔
        ∃ id ∈ d.operationIds operations resources, localName id = name := by
  obtain ⟨service, version, operations, resources, traits, bound, base, hservice, hbound,
    hoperations, -, rfl⟩ := ServiceModel.toService_eq_ok h
  refine ⟨service, version, operations, resources, traits, hservice, fun name => ?_⟩
  show name ∈ Dict.keys (ServiceModel.operations (d.preludeNames.foldl addPrelude _)) ↔ _
  rw [operations_foldl_addPrelude, ServiceModel.foldl_addShape, hoperations,
    Dict.mem_keys_foldl_insert (fun o : Operation => o.name) fun o => o]
  constructor
  · rintro (⟨o, ho, rfl⟩ | hempty)
    · obtain ⟨b, hb, rfl⟩ := List.mem_map.mp ho
      obtain ⟨id, hid, hop⟩ := Result.exists_of_mem_mapM hbound hb
      exact ⟨id, hid, (name_of_operation hop).symm⟩
    · cases hempty
  · rintro ⟨id, hid, rfl⟩
    obtain ⟨b, hb, hop⟩ := Result.exists_of_mem_of_mapM hbound hid
    exact Or.inl ⟨b.1, List.mem_map_of_mem hb, name_of_operation hop⟩

/-- The operations on the whole collection, by either name of their property, are the same. -/
def CollectionsAgree (v : Value) : Prop :=
  ∀ id w, shapeValue? v id = some w → HasType w "resource" →
    w.property? (resourceProperties "collectionOperations") "collectionOperations" =
      w.property? (resourceProperties "collection_operations") "collection_operations"

theorem property?_lifecycle {name : String} (hname : name ∈ lifecycleProperties)
    (collection collection' : String) (w : Value) :
    w.property? (resourceProperties collection) name =
      w.property? (resourceProperties collection') name := by
  have hidx (collection : String) : (resourceProperties collection).idxOf name =
      ("type" :: lifecycleProperties).idxOf name :=
    List.idxOf_append_of_mem (List.mem_cons_of_mem _ hname)
  cases w with
  | arr items =>
    show items[_]? = items[_]?
    rw [hidx, hidx]
  | _ => rfl

theorem binds_congr (hcollections : CollectionsAgree v) (resource id : String) :
    Binds "collectionOperations" v resource id ↔ Binds "collection_operations" v resource id := by
  refine exists_congr fun w => and_congr_right fun hw => and_congr_right fun htype =>
    or_congr ?_ ?_
  · exact exists_congr fun name => and_congr_right fun hname =>
      propertyRefersTo_congr (property?_lifecycle hname _ _ w)
  · simp only [List.mem_cons, List.not_mem_nil, or_false, exists_eq_or_imp, exists_eq_left]
    refine or_congr (propertyLists_congr ?_) ?_
    · cases w <;> rfl
    · unfold PropertyLists
      rw [hcollections resource w hw htype]

end SmithyDocument

open SmithyDocument

/-- **No bound operation is lost.** The operations of a model that is read as a service are the
local names of the ids that its JSON binds to the first service: the ids that the service lists, and
those that its resources bind, at any depth, as long as no resource contains itself. The operations
on whole collections are found where the model names their property `collection_operations`; under
`collectionOperations` they count only where both say the same. -/
theorem SmithyDocument.keys_operations {v : Value} {d : SmithyDocument} {m : ServiceModel}
    (hread : SmithyDocument.ofJson? v = some d) (hservice : d.toService = .ok m)
    (hacyclic : ∀ id, ¬ TransGen (Nests v) id id) :
    (∀ name, name ∈ m.operations.keys ↔
      ∃ id, BoundToService "collection_operations" v id ∧ localName id = name) ∧
    (CollectionsAgree v → ∀ name, name ∈ m.operations.keys ↔
      ∃ id, BoundToService "collectionOperations" v id ∧ localName id = name) := by
  have hnests : Nests v = d.HasChild := by
    funext parent child
    exact propext (nests_iff hread parent child)
  rw [hnests] at hacyclic
  obtain ⟨service, version, operations, resources, traits, hfirst, hkeys⟩ :=
    mem_keys_operations hservice
  have hread' : ∀ name, name ∈ m.operations.keys ↔
      ∃ id, BoundToService "collection_operations" v id ∧ localName id = name := by
    intro name
    rw [hkeys]
    refine exists_congr fun id => and_congr_left fun _ => ?_
    rw [boundToService_iff hread hfirst, operationIds, Dict.mem_sortedKeys, List.mem_append,
      mem_resourceOperations hacyclic]
  refine ⟨hread', fun hcollections name => ?_⟩
  rw [hread']
  unfold BoundToService
  simp only [binds_congr hcollections]

/-- A reference as it stands in JSON. -/
def referenceJson (id : String) : Value := .obj [("target", .str id)]

/-- The JSON of a service of queues, whose messages are resources inside; `more` is what else the
resource of the queues says. -/
def queuesJson (more : List (String × Value)) : Value :=
  .obj
    [("smithy", .str "2.0"),
      ("shapes", .obj
        [("example.queues#Queues", .obj
            [("type", .str "service"),
              ("operations", .arr [referenceJson "example.queues#Ping"]),
              ("resources", .arr [referenceJson "example.queues#Queue"])]),
          ("example.queues#Queue", .obj
            ([("type", .str "resource"), ("create", referenceJson "example.queues#CreateQueue"),
              ("resources", .arr [referenceJson "example.queues#Message"])] ++ more)),
          ("example.queues#Message", .obj
            [("type", .str "resource"),
              ("delete", referenceJson "example.queues#DeleteMessage")]),
          ("example.queues#CreateQueue", .obj [("type", .str "operation")]),
          ("example.queues#DeleteMessage", .obj [("type", .str "operation")]),
          ("example.queues#PurgeQueues", .obj [("type", .str "operation")]),
          ("example.queues#Ping", .obj [("type", .str "operation")])])]

theorem mem_of_shapeValue?_queuesJson {more : List (String × Value)} {id : String} {w : Value}
    (h : shapeValue? (queuesJson more) id = some w) :
    id = "example.queues#Queue" ∨ ∃ entries, w = .obj entries ∧
      Entries.get? entries "collectionOperations" = none ∧
      Entries.get? entries "collection_operations" = none := by
  have hmem := Entries.mem_of_get? h
  rw [List.mem_reverse] at hmem
  simp only [List.mem_cons, List.not_mem_nil, or_false, Prod.mk.injEq] at hmem
  rcases hmem with ⟨-, rfl⟩ | ⟨rfl, -⟩ | ⟨-, rfl⟩ | ⟨-, rfl⟩ | ⟨-, rfl⟩ | ⟨-, rfl⟩ | ⟨-, rfl⟩
  case inr.inl => exact Or.inl rfl
  all_goals exact Or.inr ⟨_, rfl, rfl, rfl⟩

theorem nests_queuesJson {more : List (String × Value)} {d : SmithyDocument}
    (hread : SmithyDocument.ofJson? (queuesJson more) = some d)
    (hsize : d.shapes.entries.all fun e =>
      match e.2 with
      | .resource r => r.resources.all fun child =>
          (if child = "example.queues#Queue" then 1 else 0) <
            if e.1 = "example.queues#Queue" then 1 else 0
      | _ => true) (id : String) : ¬ TransGen (Nests (queuesJson more)) id id := by
  have hnests : Nests (queuesJson more) = d.HasChild := by
    funext parent child
    exact propext (nests_iff hread parent child)
  rw [hnests]
  exact acyclic_of_size (fun id => if id = "example.queues#Queue" then 1 else 0) hsize id

/-- The operations on queues and on their messages are found. -/
theorem keys_operations_queues : ∃ d m, SmithyDocument.ofJson? (queuesJson []) = some d ∧
    d.toService = .ok m ∧ (∀ id, ¬ TransGen (Nests (queuesJson [])) id id) ∧
    CollectionsAgree (queuesJson []) ∧
    m.operations.keys = ["CreateQueue", "DeleteMessage", "Ping"] ∧
    ∃ id, BoundToService "collectionOperations" (queuesJson []) id ∧
      localName id = "DeleteMessage" := by
  obtain ⟨d, hd⟩ : ∃ d, SmithyDocument.ofJson? (queuesJson []) = some d := ⟨_, rfl⟩
  obtain ⟨m, hm⟩ : ∃ m, d.toService = .ok m := by
    cases hd
    exact ⟨_, rfl⟩
  have hacyclic : ∀ id, ¬ TransGen (Nests (queuesJson [])) id id :=
    nests_queuesJson hd (by cases hd; decide)
  have hagree : CollectionsAgree (queuesJson []) := by
    intro id w hw _
    rcases mem_of_shapeValue?_queuesJson hw with rfl | ⟨entries, rfl, hnone, hnone'⟩
    · cases hw
      rfl
    · exact hnone.trans hnone'.symm
  have hkeys : m.operations.keys = ["CreateQueue", "DeleteMessage", "Ping"] := by
    cases hd
    cases hm
    rfl
  refine ⟨d, m, hd, hm, hacyclic, hagree, hkeys, ?_⟩
  exact ((SmithyDocument.keys_operations hd hm hacyclic).2 hagree "DeleteMessage").mp
    (by rw [hkeys]; decide)

/-- The operation that purges all queues is written under `collectionOperations`, and is lost. -/
theorem keys_operations_loses_collection : ∃ v d m, SmithyDocument.ofJson? v = some d ∧
    d.toService = .ok m ∧ (∀ id, ¬ TransGen (Nests v) id id) ∧
    (d.shapes.keys.map localName).Nodup ∧
    ¬ ∀ name, name ∈ m.operations.keys ↔
      ∃ id, BoundToService "collectionOperations" v id ∧ localName id = name := by
  have hd : ∃ d, SmithyDocument.ofJson? (queuesJson
      [("collectionOperations", .arr [referenceJson "example.queues#PurgeQueues"])]) = some d :=
    ⟨_, rfl⟩
  obtain ⟨d, hd⟩ := hd
  obtain ⟨m, hm⟩ : ∃ m, d.toService = .ok m := by
    cases hd
    exact ⟨_, rfl⟩
  have hservice : d.service? = some ("example.queues#Queues", .service none
      ["example.queues#Ping"] ["example.queues#Queue"] .empty) := by
    cases hd
    rfl
  refine ⟨_, d, m, hd, hm, nests_queuesJson hd (by cases hd; decide), by cases hd; decide,
    fun hall => ?_⟩
  have hlost : "PurgeQueues" ∉ m.operations.keys := by
    cases hd
    cases hm
    decide
  obtain ⟨w, hfirst, -⟩ := isFirstService_of_service? hd hservice
  obtain rfl := Option.some.inj hfirst.1
  refine hlost ((hall "PurgeQueues").mpr ⟨"example.queues#PurgeQueues", ⟨_, _, hfirst, Or.inr
    ⟨"example.queues#Queue", "example.queues#Queue", ?_, .refl, ?_⟩⟩, rfl⟩)
  · exact ⟨_, rfl, _, List.mem_singleton_self _, rfl⟩
  · exact ⟨_, rfl, rfl, Or.inr ⟨"collectionOperations", by decide, _, rfl, _,
      List.mem_singleton_self _, rfl⟩⟩

end ResourceGen
