import Mathlib.Logic.Function.Basic
import ResourceGen.Proofs.Containment
import ResourceGen.Proofs.Copying

/-!
# Structures that a program builds

A program builds a structure in a variable, fills it in member by member, and hands it over. A
`Build` says of one such structure which type the program names for it, which place it copies, and
which members it writes. Builds are read off a program as it stands: inside a guard the value at the
source of the guard is copied, inside a loop the element.

A place is a variable with the steps from it. Loop variables are not places of their own but stand
for the elements they go through, so places can be followed through the shapes of a model
(`ServiceModel.PathTo`).

What carries the proofs is that the statements of a copy give each of their variables one value:
the writes to the variable of a structure are those of its own members (`membersOf_bindMembers`),
since all temporaries inside have numbers that were still free.

Results:
* `writesOf_bind`, `writesOf_bindMembers`: what a copy writes, by variables.
* `builds_bind`, `builds_copy`: every structure that a copy builds is a structure shape at the place
  that is copied, named and filled in for that shape.
* `builds_transfers`: so it is for a sequence of transfers.
-/

namespace ResourceGen

/-! ## Places -/

/-- A variable and the steps from it. -/
structure Place where
  root : String
  steps : List Step
  deriving DecidableEq, Repr

namespace Place

/-- Some steps further. -/
def extend (p : Place) (steps : List Step) : Place := { p with steps := p.steps ++ steps }

@[simp]
theorem extend_nil (p : Place) : p.extend [] = p := by simp [extend]

@[simp]
theorem extend_extend (p : Place) (steps steps' : List Step) :
    (p.extend steps).extend steps' = p.extend (steps ++ steps') := by
  simp [extend]

end Place

/-- What a step of a path is in the shape. -/
def Segment.step : Segment → Step
  | field name => .member name
  | key _ => .value

/-- Which place each variable stands for. -/
abbrev Scope := String → Place

/-- Every variable stands for itself. -/
def Scope.initial : Scope := fun x => ⟨x, []⟩

namespace Accessor

/-- The place to which a path leads. -/
def placeIn (scope : Scope) (a : Accessor) : Place :=
  (scope a.root).extend (a.segments.map Segment.step)

/-- The place to which a path leads from its own variable. -/
def place (a : Accessor) : Place := a.placeIn .initial

/-- The member of a variable that a path names first, if it begins there. -/
def memberOf (var : String) (a : Accessor) : List String :=
  if a.root = var then a.names.head?.toList else []

theorem placeIn_field (scope : Scope) (a : Accessor) (name : String) :
    (a.field name).placeIn scope = (a.placeIn scope).extend [.member name] := by
  simp [placeIn, field, Segment.step]

theorem placeIn_var (scope : Scope) (x : String) : (var x).placeIn scope = scope x := by
  simp [placeIn, var]

end Accessor

namespace ServiceModel

/-- One step leads from a shape to another one. -/
inductive StepTo (m : ServiceModel) : Shape → Step → Shape → Prop where
  | member {s t : Shape} {f : Member} {name : String} (hf : f ∈ s.members) (hname : f.name = name)
      (ht : m.shape? f.target = some t) : StepTo m s (.member name) t
  | element {s t : Shape} {element : String} (hkind : s.kind = .list element)
      (ht : m.shape? element = some t) : StepTo m s .element t
  | key {s t : Shape} {key value : String} (hkind : s.kind = .map key value)
      (ht : m.shape? key = some t) : StepTo m s .key t
  | value {s t : Shape} {key value : String} (hkind : s.kind = .map key value)
      (ht : m.shape? value = some t) : StepTo m s .value t

/-- Some steps lead from a shape to another one. -/
inductive PathTo (m : ServiceModel) : Shape → List Step → Shape → Prop where
  | here (s : Shape) : PathTo m s [] s
  | cons {s t u : Shape} {step : Step} {steps : List Step} (h : m.StepTo s step t)
      (rest : PathTo m t steps u) : PathTo m s (step :: steps) u

variable {m : ServiceModel} {s t u : Shape} {steps steps' : List Step}

theorem PathTo.append (h : m.PathTo s steps t) (h' : m.PathTo t steps' u) :
    m.PathTo s (steps ++ steps') u := by
  induction h with
  | here _ => exact h'
  | cons hstep _ ih => exact .cons hstep (ih h')

theorem mem_values_of_stepTo {step : Step} (h : m.StepTo s step t) : t ∈ m.shapes.values := by
  cases h with
  | member _ _ ht | element _ ht | key _ ht | value _ ht => exact Dict.mem_values_of_get? ht

/-- A path stays in the model. -/
theorem PathTo.mem_values (h : m.PathTo s steps t) (hs : s ∈ m.shapes.values) :
    t ∈ m.shapes.values := by
  induction h with
  | here _ => exact hs
  | cons hstep _ ih => exact ih (mem_values_of_stepTo hstep)

end ServiceModel

/-! ## Builds of a program -/

/-- A structure that a program builds. -/
structure Build where
  var : String
  typeName : String
  /-- What is copied; none outside of all guards and loops. -/
  place : Option Place
  /-- The members that are written. -/
  members : List String
  deriving DecidableEq, Repr

namespace Statement

mutual

/-- The members of a variable that a statement assigns, in order. -/
def writes (var : String) : Statement → List String
  | assign dest _ _ => dest.memberOf var
  | ifPresent _ body | forEachElement _ _ body | forEachEntry _ _ _ body
  | ifSingleElement _ _ body => writesOf var body
  | newStruct _ _ | newList _ _ | newMap _ _ | letScalar _ _ _ | append _ _ | insert _ _ _ => []

/-- The members of a variable that statements assign, in order. -/
def writesOf (var : String) : List Statement → List String
  | [] => []
  | s :: rest => writes var s ++ writesOf var rest

end

/-- The members of a variable that a statement assigns if there is a value. -/
def guardedWrites (var : String) : Statement → List String
  | ifPresent _ body => writesOf var body
  | _ => []

/-- The members that the statements behind a new structure fill in: each of them is guarded on its
value. What hands the structure over is not guarded. -/
def membersOf (var : String) (behind : List Statement) : List String :=
  behind.flatMap (guardedWrites var)

mutual

/-- The structures that a statement builds: `here` is what is copied, `behind` are the statements
that follow in the same block. -/
def builds (scope : Scope) (here : Option Place) (behind : List Statement) :
    Statement → List Build
  | newStruct var typeName => [⟨var, typeName, here, membersOf var behind⟩]
  | ifPresent source body => buildsOf scope (some (source.placeIn scope)) body
  | forEachElement source x body | ifSingleElement source x body =>
    buildsOf (Function.update scope x ((source.placeIn scope).extend [.element]))
      (some ((source.placeIn scope).extend [.element])) body
  | forEachEntry source key x body =>
    buildsOf (Function.update (Function.update scope key ((source.placeIn scope).extend [.key])) x
      ((source.placeIn scope).extend [.value])) (some ((source.placeIn scope).extend [.value])) body
  | newList _ _ | newMap _ _ | letScalar _ _ _ | append _ _ | insert _ _ _ | assign _ _ _ => []

/-- The structures that the statements of a block build, in order. -/
def buildsOf (scope : Scope) (here : Option Place) : List Statement → List Build
  | [] => []
  | s :: rest => builds scope here rest s ++ buildsOf scope here rest

end

end Statement

/-- The structures that a program builds, in order. -/
def Program.builds (p : Program) : List Build := Statement.buildsOf .initial none p.statements

namespace Statement

variable {scope : Scope} {here : Option Place}

theorem writesOf_append (var : String) (xs ys : List Statement) :
    writesOf var (xs ++ ys) = writesOf var xs ++ writesOf var ys := by
  induction xs with
  | nil => simp [writesOf]
  | cons s rest ih => simp [writesOf, ih]

theorem writesOf_singleton (var : String) (s : Statement) : writesOf var [s] = writes var s := by
  simp [writesOf]

theorem buildsOf_singleton (s : Statement) : buildsOf scope here [s] = builds scope here [] s := by
  simp [buildsOf]

theorem membersOf_append (var : String) (xs ys : List Statement) :
    membersOf var (xs ++ ys) = membersOf var xs ++ membersOf var ys :=
  List.flatMap_append

/-- What a guard builds does not depend on what follows. -/
theorem buildsOf_guard_append (source : Accessor) (body block : List Statement) :
    buildsOf scope here ([.ifPresent source body] ++ block) =
      buildsOf scope here [.ifPresent source body] ++ buildsOf scope here block := by
  simp [buildsOf, builds]

/-- A statement that is no guard and builds nothing does not matter at the end of a block. -/
theorem buildsOf_concat {last : Statement} (hwrites : ∀ var, guardedWrites var last = [])
    (hbuilds : builds scope here [] last = []) (block : List Statement) :
    buildsOf scope here (block ++ [last]) = buildsOf scope here block := by
  induction block with
  | nil => simp [buildsOf, hbuilds]
  | cons s rest ih =>
    have hone : builds scope here (rest ++ [last]) s = builds scope here rest s := by
      cases s with
      | newStruct var type => simp [builds, membersOf, hwrites]
      | _ => simp only [builds]
    rw [List.cons_append, buildsOf, buildsOf, ih, hone]

end Statement

/-! ## Writes of a copy -/

namespace Copier

open Statement (writesOf membersOf buildsOf writes)

variable (c : Copier)

/-- A copy is one guard. -/
theorem copy_eq_guard (dest source : Accessor) (l : Layout) (n : Nat) :
    ∃ body, (c.copy dest source l n).1 = [.ifPresent source body] := by
  cases l with
  | scalar t => exact ⟨_, by rw [copy_scalar]⟩
  | _ => exact ⟨_, by rw [copy_of_ne_scalar _ _ _ (by simp)]⟩

theorem membersOf_copy (var : String) (dest source : Accessor) (l : Layout) (n : Nat) :
    membersOf var (c.copy dest source l n).1 = writesOf var (c.copy dest source l n).1 := by
  obtain ⟨body, h⟩ := c.copy_eq_guard dest source l n
  rw [h]
  simp [membersOf, Statement.guardedWrites, writesOf, writes]

variable {c}

theorem writesOf_copy_of_bind {l : Layout} {var : String} {n : Nat}
    (hvar : ¬ Temporary.NumberedFrom n var)
    (hbind : ∀ (t : Temporary) (source : Accessor) (n : Nat), ¬ t.Reach n var →
      writesOf var (c.bind t.text source l n).1 = []) (dest source : Accessor) :
    writesOf var (c.copy dest source l n).1 = dest.memberOf var := by
  cases l with
  | scalar t => simp [copy_scalar, writesOf, writes]
  | _ =>
    -- the temporary that is bound is numbered `n` itself
    have hreach : ¬ Temporary.Reach ⟨n, []⟩ (n + 1) var := by
      rintro (h | h)
      · exact hvar (Temporary.numberedFrom_of_owns h)
      · exact hvar (Temporary.numberedFrom_mono (Nat.le_succ n) h)
    have hbody := hbind ⟨n, []⟩ source (n + 1) hreach
    rw [Temporary.text_numbered] at hbody
    rw [copy_of_ne_scalar _ _ _ (by simp), Statement.writesOf_singleton, writes,
      Statement.writesOf_append, hbody]
    simp [writesOf, writes, publish]

variable (c)

mutual

/-- **Binding a temporary writes to no variable out of its reach.** -/
theorem writesOf_bind {var : String} : ∀ (l : Layout) (t : Temporary) (source : Accessor) (n : Nat),
    ¬ t.Reach n var → writesOf var (c.bind t.text source l n).1 = []
  | .scalar type, t, source, n, _ => by rw [bind, Statement.writesOf_singleton, writes]
  | .structure shape parts, t, source, n, hvar => by
    have hne : ¬ t.text = var := fun h => hvar (Or.inl (h ▸ t.owns_self))
    have hmembers := writesOf_bindMembers parts t.text source n fun h => hvar (Or.inr h)
    rw [if_neg hne] at hmembers
    rw [bind, writesOf, hmembers, writes, List.nil_append]
  | .list type l, t, source, n, hvar => by
    have hbody := writesOf_bind l (t.extend .elem) (.var (t.extend .iter).text) n
      fun h => hvar (Temporary.reach_extend h)
    rw [bind_list, elementBody]
    simp [writesOf, writes, Statement.writesOf_append, hbody]
  | .map type l, t, source, n, hvar => by
    have hbody := writesOf_bind l (t.extend .val) (.var (t.extend .valit).text) n
      fun h => hvar (Temporary.reach_extend h)
    rw [bind_map, entryBody]
    simp [writesOf, writes, Statement.writesOf_append, hbody]

/-- Filling a structure writes its members, and to no other variable but those with numbers that
are still free. -/
theorem writesOf_bindMembers {var : String} : ∀ (parts : List (String × Layout)) (x : String)
    (source : Accessor) (n : Nat), ¬ Temporary.NumberedFrom n var →
    writesOf var (c.bindMembers x source parts n).1 =
      if x = var then parts.map (fun p => c.destName p.1) else []
  | [], x, source, n, _ => by simp [bindMembers, writesOf]
  | (wire, l) :: parts, x, source, n, hvar => by
    have hle := c.le_copy l ((Accessor.var x).field (c.destName wire))
      (source.field (c.sourceName wire)) n
    rw [bindMembers, Statement.writesOf_append,
      writesOf_copy_of_bind hvar fun t source n h => writesOf_bind l t source n h,
      writesOf_bindMembers parts x source _
        fun h => hvar (Temporary.numberedFrom_mono hle h)]
    split <;> simp_all [Accessor.memberOf, Accessor.var, Accessor.field, Accessor.names, Segment.name]

end

theorem buildsOf_copy_append (scope : Scope) (here : Option Place) (dest source : Accessor)
    (l : Layout) (n : Nat) (block : List Statement) :
    buildsOf scope here ((c.copy dest source l n).1 ++ block) =
      buildsOf scope here (c.copy dest source l n).1 ++ buildsOf scope here block := by
  obtain ⟨body, h⟩ := c.copy_eq_guard dest source l n
  rw [h, Statement.buildsOf_guard_append]

/-- All statements that fill a structure are guards. -/
theorem membersOf_bindMembers (var : String) (parts : List (String × Layout)) (x : String)
    (source : Accessor) (n : Nat) :
    membersOf var (c.bindMembers x source parts n).1 =
      writesOf var (c.bindMembers x source parts n).1 := by
  induction parts generalizing n with
  | nil => simp [bindMembers, writesOf, membersOf]
  | cons p parts ih =>
    obtain ⟨wire, l⟩ := p
    rw [bindMembers, Statement.writesOf_append, Statement.membersOf_append, membersOf_copy, ih]

/-! ## Builds of a copy -/

/-- A structure is built for a shape: under the name of the shape's type, with members of the shape
that can be copied. -/
structure BuildsFor (s : Shape) (b : Build) : Prop where
  isStructure : s.isStructure = true
  typeName : b.typeName = c.types.typeName c.side s.name
  members : ∀ name ∈ b.members, ∃ f ∈ s.members, ∃ t, c.types.model.shape? f.target = some t ∧
    c.types.model.isTyped t = true ∧ name = c.destName f.name

/-- A structure is built for a part of the shape at a place, and copies that part. -/
def BuildsPart (s : Shape) (p : Place) (b : Build) : Prop :=
  ∃ steps t, b.place = some (p.extend steps) ∧ c.types.model.PathTo s steps t ∧ c.BuildsFor t b

variable {c}

theorem BuildsPart.of_path {s t : Shape} {p : Place} {steps : List Step} {b : Build}
    (hpath : c.types.model.PathTo s steps t) (h : c.BuildsPart t (p.extend steps) b) :
    c.BuildsPart s p b := by
  obtain ⟨steps', u, hplace, hpath', hb⟩ := h
  exact ⟨steps ++ steps', u, by rw [hplace, Place.extend_extend], hpath.append hpath', hb⟩

theorem map_fst_of_unfoldsMembers {m : ServiceModel} : ∀ {parts : List (String × Layout)}
    {fs : List (String × Shape)}, Layout.UnfoldsMembers m parts fs →
    parts.map Prod.fst = fs.map Prod.fst
  | [], [], _ => rfl
  | (_, _) :: _, (_, _) :: _, h => by
    obtain ⟨rfl, -, h⟩ := h
    simp [map_fst_of_unfoldsMembers h]

/-- The structure itself. -/
theorem buildsFor_structure {name : String} {parts : List (String × Layout)} {s : Shape}
    (hu : (Layout.structure name parts).Unfolds c.types.model s) {t : Temporary} {n : Nat}
    (ht : t.number < n) (source : Accessor) (place : Option Place) :
    c.BuildsFor s ⟨t.text, c.types.typeName c.side name, place,
      membersOf t.text (c.bindMembers t.text source parts n).1⟩ := by
  obtain ⟨rfl, members, hkind, hparts⟩ := hu
  refine ⟨ServiceModel.isStructure_iff.mpr ⟨members, hkind⟩, rfl, fun name hname => ?_⟩
  have hname : name ∈ parts.map fun p => c.destName p.1 := by
    have hwrites := c.writesOf_bindMembers parts t.text source n (Temporary.not_numberedFrom ht)
    rw [if_pos rfl] at hwrites
    rw [← hwrites, ← membersOf_bindMembers]
    exact hname
  have hparts : parts.map (fun p => c.destName p.1) =
      (c.types.model.typedMembers members).map fun p => c.destName p.1 := by
    have hnames := congrArg (List.map c.destName) (map_fst_of_unfoldsMembers hparts)
    rwa [List.map_map, List.map_map] at hnames
  rw [hparts] at hname
  obtain ⟨p, hp, rfl⟩ := List.mem_map.mp hname
  obtain ⟨f, hf, hwire, htarget, htyped⟩ := ServiceModel.mem_typedMembers_iff.mp hp
  rw [ServiceModel.members_eq hkind]
  exact ⟨f, hf, p.2, htarget, htyped, by rw [hwire]⟩

theorem builds_copy_of_bind {l : Layout} {s : Shape} {scope : Scope}
    (hbind : ∀ (t : Temporary) (source : Accessor) (n : Nat), t.number < n →
      ∀ b ∈ buildsOf scope (some (source.placeIn scope)) (c.bind t.text source l n).1,
        c.BuildsPart s (source.placeIn scope) b)
    (dest source : Accessor) (n : Nat) (here : Option Place) :
    ∀ b ∈ buildsOf scope here (c.copy dest source l n).1,
      c.BuildsPart s (source.placeIn scope) b := by
  intro b hb
  cases l with
  | scalar t => simp [copy_scalar, buildsOf, Statement.builds] at hb
  | _ =>
    rw [copy_of_ne_scalar _ _ _ (by simp), Statement.buildsOf_singleton, Statement.builds,
      Statement.buildsOf_concat (fun _ => rfl) (by simp [publish, Statement.builds]),
      ← Temporary.text_numbered] at hb
    exact hbind ⟨n, []⟩ source (n + 1) (Nat.lt_succ_self n) b hb

mutual

/-- **Binding a temporary builds structures for the parts of the shape**, each of them at the place
that it copies. -/
theorem builds_bind (hin : c.direction = .inbound) : ∀ (l : Layout) {s : Shape},
    l.Unfolds c.types.model s → ∀ (scope : Scope) (t : Temporary) (source : Accessor) (n : Nat),
      t.number < n →
      ∀ b ∈ buildsOf scope (some (source.placeIn scope)) (c.bind t.text source l n).1,
        c.BuildsPart s (source.placeIn scope) b
  | .scalar type, s, _, scope, t, source, n, _, b, hb => by
    simp [bind, buildsOf, Statement.builds] at hb
  | .structure name parts, s, hu, scope, t, source, n, ht, b, hb => by
    rw [bind, buildsOf, Statement.builds, List.singleton_append, List.mem_cons] at hb
    rcases hb with rfl | hb
    · exact ⟨[], s, by rw [Place.extend_nil], .here s, buildsFor_structure hu ht source _⟩
    · obtain ⟨-, members, hkind, hparts⟩ := hu
      obtain ⟨f, hf, hpart⟩ := builds_bindMembers hin parts hparts scope t.text source n _ b hb
      obtain ⟨g, hg, hname, htarget, -⟩ := ServiceModel.mem_typedMembers_iff.mp hf
      rw [Accessor.placeIn_field] at hpart
      rw [← ServiceModel.members_eq hkind] at hg
      exact hpart.of_path (.cons (.member hg hname htarget) (.here _))
  | .list type l, s, hu, scope, t, source, n, ht, b, hb => by
    obtain ⟨element, e, hkind, he, -, hl⟩ := hu
    -- the loop variable stands for the element, one step below the list
    have hpart := builds_bind hin l hl (Function.update scope (t.extend .iter).text
      ((source.placeIn scope).extend [.element])) (t.extend .elem) (.var (t.extend .iter).text) n
      ht b
    rw [Accessor.placeIn_var, Function.update_self] at hpart
    simp only [bind_list, elementBody, buildsOf, Statement.builds, List.nil_append,
      List.append_nil] at hb
    rw [Statement.buildsOf_concat (fun _ => rfl) (by simp [Statement.builds])] at hb
    exact (hpart hb).of_path (.cons (.element hkind he) (.here _))
  | .map type l, s, hu, scope, t, source, n, ht, b, hb => by
    obtain ⟨key, value, v, hkind, hv, -, hl⟩ := hu
    have hpart := builds_bind hin l hl (Function.update (Function.update scope (t.extend .key).text
      ((source.placeIn scope).extend [.key])) (t.extend .valit).text
      ((source.placeIn scope).extend [.value])) (t.extend .val) (.var (t.extend .valit).text) n
      ht b
    rw [Accessor.placeIn_var, Function.update_self] at hpart
    simp only [bind_map, entryBody, buildsOf, Statement.builds, List.nil_append,
      List.append_nil] at hb
    rw [Statement.buildsOf_concat (fun _ => rfl) (by simp [Statement.builds])] at hb
    exact (hpart hb).of_path (.cons (.value hkind hv) (.here _))

/-- Filling a structure builds structures for the parts of its members. -/
theorem builds_bindMembers (hin : c.direction = .inbound) : ∀ (parts : List (String × Layout))
    {fs : List (String × Shape)}, Layout.UnfoldsMembers c.types.model parts fs →
    ∀ (scope : Scope) (x : String) (source : Accessor) (n : Nat) (here : Option Place),
      ∀ b ∈ buildsOf scope here (c.bindMembers x source parts n).1,
        ∃ f ∈ fs, c.BuildsPart f.2 ((source.field f.1).placeIn scope) b
  | [], [], _, scope, x, source, n, here, b, hb => by simp [bindMembers, buildsOf] at hb
  | (wire, l) :: parts, f :: fs, hu, scope, x, source, n, here, b, hb => by
    obtain ⟨rfl, hl, hparts⟩ := hu
    have hsource : c.sourceName f.1 = f.1 := by rw [sourceName, hin]
    rw [bindMembers, buildsOf_copy_append, List.mem_append] at hb
    rcases hb with hb | hb
    · refine ⟨f, List.mem_cons_self, ?_⟩
      rw [← hsource]
      exact builds_copy_of_bind (fun t source n ht => builds_bind hin l hl scope t source n ht) _ _
        n here b hb
    · obtain ⟨g, hg, hpart⟩ := builds_bindMembers hin parts hparts scope x source _ here b hb
      exact ⟨g, List.mem_cons_of_mem _ hg, hpart⟩

end

/-- **A copy builds structures for the parts of the shape.** -/
theorem builds_copy (hin : c.direction = .inbound) {l : Layout} {s : Shape}
    (hu : l.Unfolds c.types.model s) (scope : Scope) (dest source : Accessor) (n : Nat)
    (here : Option Place) {b : Build} (hb : b ∈ buildsOf scope here (c.copy dest source l n).1) :
    c.BuildsPart s (source.placeIn scope) b :=
  builds_copy_of_bind (fun t source n ht => builds_bind hin l hu scope t source n ht) dest source n
    here b hb

/-- **Transfers build structures where they copy values.** -/
theorem builds_transfers {scope : Scope} {here : Option Place} {b : Build} {ts : List Transfer}
    {n : Nat} (hb : b ∈ buildsOf scope here (c.transfers ts n)) :
    ∃ dest source l k, .copied dest source l ∈ ts ∧
      b ∈ buildsOf scope here (c.copy dest source l k).1 := by
  induction ts generalizing n with
  | nil => simp [transfers, buildsOf] at hb
  | cons t rest ih =>
    have hrest {k : Nat} (hb : b ∈ buildsOf scope here (c.transfers rest k)) :
        ∃ dest source l k, .copied dest source l ∈ t :: rest ∧
          b ∈ buildsOf scope here (c.copy dest source l k).1 := by
      obtain ⟨dest, source, l, k, hmem, hb⟩ := ih hb
      exact ⟨dest, source, l, k, List.mem_cons_of_mem t hmem, hb⟩
    cases t with
    | copied dest source l =>
      rw [transfers, transfer, buildsOf_copy_append, List.mem_append] at hb
      rcases hb with hb | hb
      · exact ⟨dest, source, l, n, List.mem_cons_self, hb⟩
      · exact hrest hb
    | handed dest source kind =>
      rw [transfers, transfer, guarded, Statement.buildsOf_guard_append, List.mem_append] at hb
      rcases hb with hb | hb
      · simp [Statement.builds, buildsOf] at hb
      · exact hrest hb

end Copier

end ResourceGen
