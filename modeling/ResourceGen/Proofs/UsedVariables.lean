import ResourceGen.Proofs.Adoption
import ResourceGen.Proofs.ContainerTypes

/-!
# Variables that the code of a program reads

Every variable that the code declares has to be read by what follows in its block
(`Code.unusedOf`). A variable that is only assigned as a whole is not read by that, and a variable
of the same name that an inner block declares is another one.

What is built is always read, since it is handed on behind its statements. What is not always read
is a variable that only gives access to members: the element of a list or the value of a map, when
it is a structure that no member is copied of, and the only element of a List response, when none of
its members goes anywhere. `Statement.idleOf` lists these from the statements alone.

Results:
* `unusedOf_bind`, `unusedOf_transfers`: in the code of copies the idle variables are not read, and
  all others are.
* `unusedOf_of_gives`: so it is in the code of all four kinds of programs.
-/

namespace ResourceGen

namespace Code

/-! ## Reading variables -/

/-- The variables in an expression. -/
def Expr.vars : Expr → List String
  | path a => [a.root]
  | nil | empty _ | number _ => []
  | deref e | address e | withMember _ _ e | convert _ e | length e => e.vars
  | append a b | index a b | equal a b | unequal a b | both a b => a.vars ++ b.vars

/-- The variables that are read to reach a place that is assigned: none for a variable itself. -/
def Expr.placeVars : Expr → List String
  | path a => if a.segments.isEmpty then [] else [a.root]
  | e => e.vars

/-- The variables that a statement declares for what follows in its block. -/
def Stmt.declares : Stmt → List String
  | .define x _ | .declare x _ => [x]
  | .assign _ _ | .callSetter _ _ _ | .when _ _ | .range _ _ _ _ => []

mutual

/-- The variables from around a statement that it reads. -/
def Stmt.reads : Stmt → List String
  | .define _ value => value.vars
  | .declare _ _ => []
  | .assign dest value => dest.placeVars ++ value.vars
  | .callSetter object _ value => object.vars ++ value.vars
  | .when condition body => condition.vars ++ readsOf [] body
  | .range key value source body =>
    source.vars ++ (readsOf [] body).filter (fun x => x ≠ key ∧ x ≠ value)

/-- The variables from around statements that they read, or that are read `later` in their block. -/
def readsOf (later : List String) : List Stmt → List String
  | [] => later
  | s :: rest => s.reads ++ (readsOf later rest).filter (· ∉ s.declares)

end

mutual

/-- The variables declared inside a statement that nothing reads; `_` stands for none. -/
def Stmt.unused : Stmt → List String
  | .when _ body => unusedOf [] body
  | .range key value _ body =>
    [key, value].filter (fun x => x ≠ "_" ∧ x ∉ readsOf [] body) ++ unusedOf [] body
  | .define _ _ | .declare _ _ | .assign _ _ | .callSetter _ _ _ => []

/-- The variables declared by statements and inside of them that nothing behind reads in the block
of their declaration, when `later` is read behind the statements. -/
def unusedOf (later : List String) : List Stmt → List String
  | [] => []
  | s :: rest => s.declares.filter (· ∉ readsOf later rest) ++ s.unused ++ unusedOf later rest

end

/-- The variables that a block declares for what follows it. -/
def declaresOf (block : List Stmt) : List String := block.flatMap Stmt.declares

variable {d : Direction} {scalars later : List String}

theorem filter_unread (x : String) (reads : List String) :
    [x].filter (fun y => y ∉ reads) = if x ∈ reads then [] else [x] := by
  by_cases hx : x ∈ reads <;> simp [hx]

theorem readsOf_append (xs ys : List Stmt) :
    readsOf later (xs ++ ys) = readsOf (readsOf later ys) xs := by
  induction xs with
  | nil => rfl
  | cons s rest ih => rw [List.cons_append, readsOf, readsOf, ih]

theorem unusedOf_append (xs ys : List Stmt) :
    unusedOf later (xs ++ ys) = unusedOf (readsOf later ys) xs ++ unusedOf later ys := by
  induction xs with
  | nil => simp [unusedOf]
  | cons s rest ih => simp [unusedOf, ih, readsOf_append]

theorem declaresOf_append (xs ys : List Stmt) :
    declaresOf (xs ++ ys) = declaresOf xs ++ declaresOf ys := List.flatMap_append

theorem mem_readsOf_cons {x : String} {s : Stmt} {rest : List Stmt} :
    x ∈ readsOf later (s :: rest) ↔
      x ∈ s.reads ∨ x ∈ readsOf later rest ∧ x ∉ s.declares := by
  simp [readsOf]

/-- What is read later is read behind a block that does not declare it. -/
theorem mem_readsOf_of_mem_later {x : String} {block : List Stmt} (hx : x ∈ later)
    (hblock : x ∉ declaresOf block) : x ∈ readsOf later block := by
  induction block with
  | nil => exact hx
  | cons s rest ih =>
    rw [declaresOf, List.flatMap_cons, List.mem_append, not_or] at hblock
    exact mem_readsOf_cons.mpr (Or.inr ⟨ih hblock.2, hblock.1⟩)

theorem root_mem_vars_presence (source : Accessor) : source.root ∈ (presence source).vars := by
  unfold presence Expr.isSet
  split <;> simp [Expr.vars]

theorem root_mem_vars_scalarValue (source : Accessor) (t : ScalarType) :
    source.root ∈ (scalarValue d source t).vars := by
  cases t <;> cases d <;> simp [scalarValue, wrappedTime, Expr.vars, Accessor.field]

/-- A guard reads the variable of its source, whatever is behind it. -/
theorem root_mem_readsOf_guard (source : Accessor) (body : List Statement) (rest : List Statement) :
    source.root ∈ readsOf later (statements d scalars (.ifPresent source body :: rest)).1 := by
  rw [statements_cons, statement]
  exact mem_readsOf_cons.mpr
    (Or.inl (List.mem_append_left _ (root_mem_vars_presence source)))

/-! ## Assignments -/

/-- The code of an assignment reads all that it declares. -/
theorem unusedOf_assignment (dest source : Accessor) (kind : AssignKind) :
    unusedOf later (assignment d dest source kind) = [] := by
  have hrequest (value : Expr) : unusedOf later [setRequest dest value] = [] := by
    unfold setRequest
    split <;> simp [unusedOf, Stmt.declares, Stmt.unused]
  have hmetadata (var type : String) : unusedOf later (setMetadata dest source var type) = [] := by
    unfold setMetadata makeMetadata
    cases dest.parent? <;>
      simp [unusedOf, readsOf, Stmt.declares, Stmt.unused, Stmt.reads, Expr.vars, Expr.var,
        Accessor.var]
  cases d with
  | outbound => exact hrequest _
  | inbound =>
    cases kind with
    | scalar t => cases t <;> simp [assignment, unusedOf, Stmt.declares, Stmt.unused]
    | value => simp [assignment, unusedOf, Stmt.declares, Stmt.unused]
    | resourceArn | ownerAccountId => exact hmetadata _ _

/-- A temporary that is published is read. -/
theorem mem_readsOf_publish (dest : Accessor) (x : String) :
    x ∈ readsOf later (statements d scalars [Copier.publish dest x]).1 := by
  rw [Copier.publish, statements_cons, statement, statements, List.append_nil]
  cases d with
  | outbound =>
    rw [assignment, requestValue, setRequest]
    split <;> simp [readsOf, Stmt.reads, Stmt.declares, Expr.vars, Accessor.var]
  | inbound => simp [assignment, readsOf, Stmt.reads, Stmt.declares, Expr.vars, Accessor.var]

theorem unusedOf_publish (dest : Accessor) (x : String) :
    unusedOf later (statements d scalars [Copier.publish dest x]).1 = [] := by
  rw [Copier.publish, statements_cons, statement, statements, List.append_nil]
  exact unusedOf_assignment dest (.var x) .value

theorem mem_readsOf_append_element (list x : String) :
    ∀ y, y ∈ readsOf [] (statements d scalars [.append list x]).1 ↔ y = list ∨ y = x := by
  intro y
  rw [statements_cons, statement, statements, element]
  split <;>
    simp [readsOf, Stmt.reads, Expr.placeVars, Expr.vars, Expr.var, Accessor.var]

theorem mem_readsOf_insert_entry (map key x : String) :
    ∀ y, y ∈ readsOf [] (statements d scalars [.insert map key x]).1 ↔
      y = map ∨ y = key ∨ y = x := by
  intro y
  rw [statements_cons, statement, statements, element]
  split <;>
    simp [readsOf, Stmt.reads, Expr.placeVars, Expr.vars, Expr.var, Accessor.var]

/-- A list or map that is filled in a loop and read later. -/
theorem unusedOf_loop {x key value : String} {type : TypeExpr} {source : Accessor}
    {body : List Stmt} (hx : x ∈ later) :
    unusedOf later [.define x (.empty type), .range key value (.path source) body] =
      [key, value].filter (fun y => y ≠ "_" ∧ y ∉ readsOf [] body) ++ unusedOf [] body := by
  simp [unusedOf, readsOf, Stmt.declares, Stmt.unused, hx]

theorem unusedOf_single {s : Stmt} (hdeclares : s.declares = []) (hunused : s.unused = []) :
    unusedOf later [s] = [] := by
  simp [unusedOf, hdeclares, hunused]

end Code

/-! ## Idle variables -/

namespace Statement

/-- Whether the body of a loop puts an empty structure into a list or map. -/
def makesEmpty : List Statement → Bool
  | [newStruct _ _, append _ _] | [newStruct _ _, insert _ _ _] => true
  | _ => false

mutual

/-- The variables of loops in a statement that make an empty structure for each element or value,
and of blocks without statements for an only element. -/
def idle : Statement → List String
  | ifPresent _ body => idleOf body
  | forEachElement _ x body | forEachEntry _ _ x body =>
    (if makesEmpty body then [x] else []) ++ idleOf body
  | ifSingleElement _ x body => (if body.isEmpty then [x] else []) ++ idleOf body
  | newStruct _ _ | newList _ _ | newMap _ _ | letScalar _ _ _ | append _ _ | insert _ _ _
  | assign _ _ _ => []

/-- Such variables in statements. -/
def idleOf : List Statement → List String
  | [] => []
  | s :: rest => s.idle ++ idleOf rest

end

theorem idleOf_append (xs ys : List Statement) : idleOf (xs ++ ys) = idleOf xs ++ idleOf ys := by
  induction xs with
  | nil => rfl
  | cons s rest ih => simp [idleOf, ih]

end Statement

/-- Whether the layout is that of a structure without members. -/
def Layout.isHollow : Layout → Bool
  | .structure _ [] => true
  | .structure _ (_ :: _) | .scalar _ | .list _ _ | .map _ _ => false

theorem Temporary.text_extend_inj {t : Temporary} {e e' : Ending} :
    (t.extend e).text = (t.extend e').text ↔ e = e' := by
  refine ⟨fun h => ?_, fun h => h ▸ rfl⟩
  by_contra he
  exact not_owns_extend he (h ▸ (t.extend e).owns_self)

/-! ## Copies -/

namespace Copier

open Code (statements readsOf unusedOf declaresOf)
open Statement (idleOf makesEmpty)

variable (c : Copier)

/-- A loop makes empty structures when its parts are such. -/
theorem makesEmpty_bind_append (l : Layout) (var : String) (source : Accessor) (n : Nat)
    {p : Statement} (hp : ∀ x type, makesEmpty [.newStruct x type, p] = true) :
    makesEmpty ((c.bind var source l n).1 ++ [p]) = l.isHollow := by
  rcases l with type | ⟨shape, _ | ⟨⟨wire, l⟩, parts⟩⟩ | ⟨type, l⟩ | ⟨type, l⟩
  · rw [bind]
    rfl
  · rw [bind, bindMembers]
    exact hp _ _
  · obtain ⟨body, hbody⟩ := c.copy_eq_guard ((Accessor.var var).field (c.destName wire))
      (source.field (c.sourceName wire)) l n
    rw [bind, bindMembers_cons, hbody]
    rfl
  · rw [bind]
    rfl
  · rw [bind]
    rfl

theorem makesEmpty_elementBody (l : Layout) (t : Temporary) (n : Nat) :
    makesEmpty (c.elementBody l t n) = l.isHollow :=
  c.makesEmpty_bind_append l _ _ n fun _ _ => rfl

theorem makesEmpty_entryBody (l : Layout) (t : Temporary) (n : Nat) :
    makesEmpty (c.entryBody l t n) = l.isHollow :=
  c.makesEmpty_bind_append l _ _ n fun _ _ => rfl

theorem idleOf_elementBody (l : Layout) (t : Temporary) (n : Nat) :
    idleOf (c.elementBody l t n) =
      idleOf (c.bind (t.extend .elem).text (.var (t.extend .iter).text) l n).1 := by
  simp [elementBody, Statement.idleOf_append, idleOf, Statement.idle]

theorem idleOf_entryBody (l : Layout) (t : Temporary) (n : Nat) :
    idleOf (c.entryBody l t n) =
      idleOf (c.bind (t.extend .val).text (.var (t.extend .valit).text) l n).1 := by
  simp [entryBody, Statement.idleOf_append, idleOf, Statement.idle]

variable {c} {scalars later : List String}

/-- Guards declare nothing for what follows. -/
theorem declaresOf_copy (dest source : Accessor) (l : Layout) (n : Nat) :
    declaresOf (statements c.direction scalars (c.copy dest source l n).1).1 = [] := by
  obtain ⟨body, hbody⟩ := c.copy_eq_guard dest source l n
  rw [hbody]
  simp [statements, Code.statement, declaresOf, Code.Stmt.declares]

theorem declaresOf_bindMembers (parts : List (String × Layout)) (var : String) (source : Accessor)
    (n : Nat) :
    declaresOf (statements c.direction scalars (c.bindMembers var source parts n).1).1 = [] := by
  induction parts generalizing n scalars with
  | nil =>
    rw [bindMembers]
    rfl
  | cons part parts ih =>
    obtain ⟨wire, l⟩ := part
    rw [bindMembers_cons, Code.statements_append, Code.declaresOf_append, declaresOf_copy, ih]
    rfl

theorem declaresOf_bind (l : Layout) (var : String) (source : Accessor) (n : Nat) :
    declaresOf (statements c.direction scalars (c.bind var source l n).1).1 = [var] := by
  rcases l with type | ⟨shape, parts⟩ | ⟨type, l⟩ | ⟨type, l⟩
  · simp [bind, statements, Code.statement, declaresOf, Code.Stmt.declares]
  · rw [bind, Code.statements_cons, Code.statement, Code.declaresOf_append,
      declaresOf_bindMembers]
    rfl
  · simp [bind, statements, Code.statement, declaresOf, Code.Stmt.declares]
  · simp [bind, statements, Code.statement, declaresOf, Code.Stmt.declares]

/-- A binding reads the variable of its source, unless it makes an empty structure. -/
theorem mem_readsOf_bind {l : Layout} {t : Temporary} (source : Accessor) {n : Nat}
    (hsource : source.root ≠ t.text) (hlater : source.root ∉ later) :
    source.root ∈ readsOf later (statements c.direction scalars (c.bind t.text source l n).1).1 ↔
      l.isHollow = false := by
  rcases l with type | ⟨shape, _ | ⟨⟨wire, l⟩, parts⟩⟩ | ⟨type, l⟩ | ⟨type, l⟩
  · refine iff_of_true ?_ rfl
    have hvalue := Code.root_mem_vars_scalarValue (d := c.direction) source type
    simp [bind, statements, Code.statement, readsOf, Code.Stmt.reads, Code.Stmt.declares, hvalue,
      hsource]
  · refine iff_of_false (fun h => hlater ?_) (by simp [Layout.isHollow])
    rw [bind, bindMembers] at h
    simpa [statements, Code.statement, readsOf, Code.Stmt.reads, Code.Stmt.declares,
      Code.Expr.vars, hsource] using h
  · refine iff_of_true ?_ rfl
    obtain ⟨body, hbody⟩ := c.copy_eq_guard ((Accessor.var t.text).field (c.destName wire))
      (source.field (c.sourceName wire)) l n
    rw [bind, bindMembers_cons, hbody, Code.statements_cons, Code.statement, List.singleton_append,
      Code.mem_readsOf_cons]
    exact Or.inr ⟨Code.root_mem_readsOf_guard (source.field (c.sourceName wire)) _ _,
      by simp [Code.Stmt.declares, hsource]⟩
  · refine iff_of_true ?_ rfl
    simp [bind_list, statements, Code.statement, readsOf, Code.Stmt.reads, Code.Stmt.declares,
      Code.Expr.vars, hsource]
  · refine iff_of_true ?_ rfl
    simp [bind_map, statements, Code.statement, readsOf, Code.Stmt.reads, Code.Stmt.declares,
      Code.Expr.vars, hsource]

variable (c)

/-- In the code that binds a temporary the unused variables are the idle ones, when the temporary is
read behind it. -/
def BindUnused (l : Layout) : Prop :=
  ∀ (t : Temporary) (source : Accessor) (n : Nat) (scalars later : List String), t.text ∈ later →
    unusedOf later (statements c.direction scalars (c.bind t.text source l n).1).1 =
      idleOf (c.bind t.text source l n).1

/-- So they are in the code of a copy. -/
def CopyUnused (l : Layout) : Prop :=
  ∀ (dest source : Accessor) (n : Nat) (scalars later : List String),
    unusedOf later (statements c.direction scalars (c.copy dest source l n).1).1 =
      idleOf (c.copy dest source l n).1

/-- And in the code that fills a structure. -/
def MembersUnused (parts : List (String × Layout)) : Prop :=
  ∀ (var : String) (source : Accessor) (n : Nat) (scalars later : List String),
    unusedOf later (statements c.direction scalars (c.bindMembers var source parts n).1).1 =
      idleOf (c.bindMembers var source parts n).1

variable {c}

theorem unusedOf_guard (source : Accessor) (body : List Statement) :
    unusedOf later (statements c.direction scalars [.ifPresent source body]).1 =
      unusedOf [] (statements c.direction scalars body).1 := by
  simp [statements, Code.statement, unusedOf, Code.Stmt.declares, Code.Stmt.unused]

theorem copyUnused_of_bindUnused {l : Layout} (h : BindUnused c l) : CopyUnused c l := by
  intro dest source n scalars later
  have hbind := h ⟨n, []⟩ source (n + 1)
  rw [Temporary.text_numbered] at hbind
  cases l with
  | scalar t =>
    rw [copy_scalar, unusedOf_guard, Code.statements_cons, Code.statement, statements,
      List.append_nil, Code.unusedOf_assignment]
    rfl
  | _ =>
    rw [copy_of_ne_scalar _ _ _ (by simp), unusedOf_guard, Code.statements_append,
      Code.unusedOf_append, hbind _ _ (Code.mem_readsOf_publish _ _), Code.unusedOf_publish]
    simp [idleOf, Statement.idle, Statement.idleOf_append, publish]

theorem bindUnused_scalar (type : ScalarType) : BindUnused c (.scalar type) := by
  intro t source n scalars later ht
  simp [bind, statements, Code.statement, unusedOf, readsOf, Code.Stmt.declares, Code.Stmt.unused,
    Code.Stmt.reads, idleOf, Statement.idle, ht]

theorem bindUnused_structure {shape : String} {parts : List (String × Layout)}
    (hparts : MembersUnused c parts) : BindUnused c (.structure shape parts) := by
  intro t source n scalars later ht
  have hread : t.text ∈ readsOf later
      (statements c.direction scalars (c.bindMembers t.text source parts n).1).1 :=
    Code.mem_readsOf_of_mem_later ht (by simp [declaresOf_bindMembers])
  rw [bind, Code.statements_cons, Code.statement, List.singleton_append, unusedOf, hparts]
  simp [Code.Stmt.declares, Code.Stmt.unused, idleOf, Statement.idle, hread]

/-- Inside the loop over the parts of a value: the variable of the loop is read unless the parts are
empty structures, and what hands the part on is read too. -/
theorem unusedOf_part (t : Temporary) (n : Nat) (scalars used : List String) (p : Statement)
    {l : Layout} {e e' : Ending} (hl : BindUnused c l) (he : e ≠ e')
    (hreads : ∀ known x, x ∈ readsOf [] (statements c.direction known [p]).1 ↔ x ∈ used)
    (hunused : ∀ known, unusedOf [] (statements c.direction known [p]).1 = [])
    (hpart : (t.extend e).text ∈ used) (hloop : (t.extend e').text ∉ used) :
    unusedOf [] (statements c.direction scalars
        ((c.bind (t.extend e).text (.var (t.extend e').text) l n).1 ++ [p])).1 =
      idleOf (c.bind (t.extend e).text (.var (t.extend e').text) l n).1 ∧
    ((t.extend e').text ∈ readsOf [] (statements c.direction scalars
        ((c.bind (t.extend e).text (.var (t.extend e').text) l n).1 ++ [p])).1 ↔
      l.isHollow = false) ∧
    ∀ x ∈ used, x ≠ (t.extend e).text → x ∈ readsOf [] (statements c.direction scalars
        ((c.bind (t.extend e).text (.var (t.extend e').text) l n).1 ++ [p])).1 := by
  have hne : (t.extend e').text ≠ (t.extend e).text :=
    fun h => he (Temporary.text_extend_inj.mp h).symm
  rw [Code.statements_append, Code.unusedOf_append, Code.readsOf_append, hunused, List.append_nil]
  refine ⟨hl _ _ n _ _ ((hreads _ _).mpr hpart), ?_, fun x hx hxne => ?_⟩
  · exact mem_readsOf_bind (.var (t.extend e').text) hne (by rwa [hreads])
  · exact Code.mem_readsOf_of_mem_later ((hreads _ _).mpr hx)
      (by simpa [declaresOf_bind] using hxne)

theorem bindUnused_list {type : FieldType} {l : Layout} (hl : BindUnused c l) :
    BindUnused c (.list type l) := by
  intro t source n scalars later ht
  obtain ⟨hbody, hread, -⟩ := unusedOf_part t n scalars [t.text, (t.extend .elem).text]
    (.append t.text (t.extend .elem).text) hl (show Ending.elem ≠ .iter by simp)
    (fun known x => by rw [Code.mem_readsOf_append_element]; simp)
    (fun known => Code.unusedOf_single rfl rfl) (by simp)
    (by simp [Temporary.text_extend_ne, Temporary.text_extend_inj])
  rw [← elementBody] at hbody hread
  have hcode : (statements c.direction scalars (c.bind t.text source (.list type l) n).1).1 =
      [.define t.text (.empty (Code.fieldType c.direction (.list (c.typeOf type)))),
        .range "_" (t.extend .iter).text (.path source)
          (statements c.direction scalars (c.elementBody l t n)).1] := by
    simp [bind_list, statements, Code.statement]
  have hloop : ["_", (t.extend .iter).text].filter (fun y => y ≠ "_" ∧
      y ∉ readsOf [] (statements c.direction scalars (c.elementBody l t n)).1) =
        if l.isHollow then [(t.extend .iter).text] else [] := by
    simp [List.filter_cons, text_ne_blank, hread]
  rw [hcode, Code.unusedOf_loop ht, hloop, hbody, bind_list]
  simp [idleOf, Statement.idle, makesEmpty_elementBody, idleOf_elementBody]

theorem bindUnused_map {type : FieldType} {l : Layout} (hl : BindUnused c l) :
    BindUnused c (.map type l) := by
  intro t source n scalars later ht
  obtain ⟨hbody, hread, hused⟩ := unusedOf_part t n scalars
    [t.text, (t.extend .key).text, (t.extend .val).text]
    (.insert t.text (t.extend .key).text (t.extend .val).text) hl
    (show Ending.val ≠ .valit by simp)
    (fun known x => by rw [Code.mem_readsOf_insert_entry]; simp)
    (fun known => Code.unusedOf_single rfl rfl) (by simp)
    (by simp [Temporary.text_extend_ne, Temporary.text_extend_inj])
  have hkey := hused (t.extend .key).text (by simp) (by simp [Temporary.text_extend_inj])
  rw [← entryBody] at hbody hread hkey
  have hcode : (statements c.direction scalars (c.bind t.text source (.map type l) n).1).1 =
      [.define t.text (.empty (Code.fieldType c.direction (.map .string (c.typeOf type)))),
        .range (t.extend .key).text (t.extend .valit).text (.path source)
          (statements c.direction scalars (c.entryBody l t n)).1] := by
    simp [bind_map, statements, Code.statement]
  have hloop : [(t.extend .key).text, (t.extend .valit).text].filter (fun y => y ≠ "_" ∧
      y ∉ readsOf [] (statements c.direction scalars (c.entryBody l t n)).1) =
        if l.isHollow then [(t.extend .valit).text] else [] := by
    simp [List.filter_cons, text_ne_blank, hread, hkey]
  rw [hcode, Code.unusedOf_loop ht, hloop, hbody, bind_map]
  simp [idleOf, Statement.idle, makesEmpty_entryBody, idleOf_entryBody]

theorem membersUnused_nil : MembersUnused c [] := by
  intro var source n scalars later
  rw [bindMembers]
  rfl

theorem membersUnused_cons {wire : String} {l : Layout} {parts : List (String × Layout)}
    (hl : CopyUnused c l) (hparts : MembersUnused c parts) :
    MembersUnused c ((wire, l) :: parts) := by
  intro var source n scalars later
  rw [bindMembers_cons, Code.statements_append, Code.unusedOf_append, Statement.idleOf_append, hl,
    hparts]

mutual

/-- **The code that binds a temporary leaves idle variables unused**, whatever the layout. -/
theorem unusedOf_bind (c : Copier) : ∀ l : Layout, BindUnused c l
  | .scalar type => bindUnused_scalar type
  | .structure _ parts => bindUnused_structure (unusedOf_bindMembers c parts)
  | .list _ l => bindUnused_list (unusedOf_bind c l)
  | .map _ l => bindUnused_map (unusedOf_bind c l)

theorem unusedOf_bindMembers (c : Copier) : ∀ parts : List (String × Layout), MembersUnused c parts
  | [] => membersUnused_nil
  | (_, l) :: parts =>
    membersUnused_cons (copyUnused_of_bindUnused (unusedOf_bind c l)) (unusedOf_bindMembers c parts)

end

/-! ## Transfers -/

theorem transfer_eq_guard (c : Copier) (t : Transfer) (n : Nat) :
    ∃ body, (c.transfer t n).1 = [.ifPresent t.source body] := by
  cases t with
  | copied dest source l => exact c.copy_eq_guard dest source l n
  | handed dest source kind => exact ⟨_, rfl⟩

theorem unusedOf_transfer (c : Copier) (t : Transfer) (n : Nat) :
    unusedOf later (statements c.direction scalars (c.transfer t n).1).1 =
      idleOf (c.transfer t n).1 := by
  cases t with
  | copied dest source l => exact copyUnused_of_bindUnused (unusedOf_bind c l) dest source n _ _
  | handed dest source kind =>
    rw [transfer, guarded, unusedOf_guard, Code.statements_cons, Code.statement, statements,
      List.append_nil, Code.unusedOf_assignment]
    rfl

/-- **The code of transfers leaves idle variables unused.** -/
theorem unusedOf_transfers (c : Copier) (ts : List Transfer) (n : Nat)
    (scalars later : List String) :
    unusedOf later (statements c.direction scalars (c.transfers ts n)).1 =
      idleOf (c.transfers ts n) := by
  induction ts generalizing n scalars with
  | nil => rfl
  | cons t ts ih =>
    rw [transfers, Code.statements_append, Code.unusedOf_append, Statement.idleOf_append, ih,
      unusedOf_transfer]

theorem declaresOf_transfers (c : Copier) (ts : List Transfer) (n : Nat) (scalars : List String) :
    declaresOf (statements c.direction scalars (c.transfers ts n)).1 = [] := by
  induction ts generalizing n scalars with
  | nil => rfl
  | cons t ts ih =>
    obtain ⟨body, hbody⟩ := c.transfer_eq_guard t n
    rw [transfers, Code.statements_append, Code.declaresOf_append, ih, hbody]
    simp [statements, Code.statement, declaresOf, Code.Stmt.declares]

/-- A variable that the sources of transfers start with is read if there are any. -/
theorem mem_readsOf_transfers (c : Copier) {ts : List Transfer} {x : String}
    (hts : ∀ t ∈ ts, t.source.root = x) (n : Nat) (scalars : List String) :
    x ∈ readsOf [] (statements c.direction scalars (c.transfers ts n)).1 ↔
      (c.transfers ts n).isEmpty = false := by
  cases ts with
  | nil => simp [transfers, statements, readsOf]
  | cons t ts =>
    obtain ⟨body, hguard⟩ := c.transfer_eq_guard t n
    have htransfers : c.transfers (t :: ts) n =
        .ifPresent t.source body :: c.transfers ts (c.transfer t n).2 := by
      rw [transfers, ← List.singleton_append, ← hguard]
    rw [htransfers, ← hts t List.mem_cons_self]
    exact iff_of_true (Code.root_mem_readsOf_guard _ _ _) rfl

/-- A map that is filled by transfers and published behind them is read. -/
theorem unusedOf_filledMap (c : Copier) (x : String) (type : FieldType) (dest : Accessor)
    (entries rest : List Transfer) :
    unusedOf [] (statements c.direction [] (.newMap x type ::
        (c.transfers entries 0 ++ ([publish dest x] ++ c.transfers rest 0)))).1 =
      idleOf (.newMap x type ::
        (c.transfers entries 0 ++ ([publish dest x] ++ c.transfers rest 0))) := by
  have hread : x ∈ readsOf [] (statements c.direction []
      (c.transfers entries 0 ++ ([publish dest x] ++ c.transfers rest 0))).1 := by
    rw [Code.statements_append, Code.readsOf_append]
    refine Code.mem_readsOf_of_mem_later ?_ (by simp [declaresOf_transfers])
    rw [Code.statements_append, Code.readsOf_append]
    exact Code.mem_readsOf_publish dest x
  have hidle : idleOf (c.transfers entries 0 ++ ([publish dest x] ++ c.transfers rest 0)) =
      idleOf (c.transfers entries 0) ++ idleOf (c.transfers rest 0) := by
    rw [Statement.idleOf_append, Statement.idleOf_append]
    rfl
  have hunused : unusedOf [] (statements c.direction []
      (c.transfers entries 0 ++ ([publish dest x] ++ c.transfers rest 0))).1 =
        idleOf (c.transfers entries 0) ++ idleOf (c.transfers rest 0) := by
    simp only [Code.statements_append, Code.unusedOf_append, unusedOf_transfers,
      Code.unusedOf_publish, List.nil_append]
  rw [Code.statements_cons, Code.statement, List.singleton_append, unusedOf, hunused, idleOf, hidle,
    Code.Stmt.declares, Code.filter_unread, if_pos hread]
  rfl

end Copier

/-! ## Programs -/

namespace Synthesizer

open Code (statements readsOf unusedOf)
open Statement (idleOf)

variable {s : Synthesizer} {r : Resource} {p : Program}

/-- The programs that a synthesizer gives for a resource. -/
inductive Gives (s : Synthesizer) (r : Resource) : Program → Prop where
  | fillRequest {role : Role} {object request : String} {p : Program}
      (h : s.fillRequest r role object request = .ok p) : Gives s r p
  | fillAttributesQuery {object request : String} {p : Program}
      (h : s.fillAttributesQuery r object request = .ok p) : Gives s r p
  | adoptResponse {role : Role} {response : String} {target : InboundTarget} {p : Program}
      (h : s.adoptResponse r role response target = .ok p) : Gives s r p
  | adoptAttributes {response status : String} {p : Program}
      (h : s.adoptAttributes r response status = .ok p) : Gives s r p

theorem unusedOf_moves {d : Direction} {roots : List String} (h : s.Moves d roots p) :
    unusedOf [] p.toCode = idleOf p.statements := by
  obtain ⟨ts, -, rfl⟩ := h
  exact Copier.unusedOf_transfers ⟨d, s.types⟩ ts 0 [] []

theorem unusedOf_assembled {roots : List String} (h : s.Assembled roots .outbound p) :
    unusedOf [] p.toCode = idleOf p.statements := by
  cases h with
  | transfers h => exact unusedOf_moves h
  | behindAttributes r member _ _ _ =>
    have hfilled := Copier.unusedOf_filledMap ⟨.outbound, s.types⟩ attributeMapVar .string
    simpa only [Program.toCode, program, sendAttributes, List.cons_append, List.append_assoc]
      using hfilled _ _ _

theorem unusedOf_adopts {role : Role} {response : Accessor} {target : InboundTarget}
    (h : s.Adopts r role response target p) : unusedOf [] p.toCode = idleOf p.statements := by
  cases h with
  | nothing => rfl
  | members _ _ _ _ => exact Copier.unusedOf_transfers ⟨.inbound, s.types⟩ _ 0 [] []
  | @element o output l path ts _ _ _ hts =>
    have hroots : ∀ t ∈ ts, t.source.root = onlyElementVar := by
      intro t ht
      obtain ⟨m, -, hsource⟩ := source_of_memberTransfers hts t ht
      rw [hsource]
      rfl
    have hread := Copier.mem_readsOf_transfers ⟨.inbound, s.types⟩ hroots 0 []
    have hunused := Copier.unusedOf_transfers ⟨.inbound, s.types⟩ ts 0 [] []
    simp only [Program.toCode, program, List.nil_append, statements, Code.statement, unusedOf,
      Code.Stmt.unused, Code.Stmt.declares, idleOf, Statement.idle, List.append_nil,
      List.filter_nil, Code.filter_unread]
    rw [hunused, if_congr hread rfl rfl]
    by_cases hempty : ((Copier.mk .inbound s.types).transfers ts 0).isEmpty = true <;>
      simp [hempty]

/-- **In the code of every program the variables that nothing reads are the idle ones.** -/
theorem unusedOf_of_gives (h : s.Gives r p) : unusedOf [] p.toCode = idleOf p.statements := by
  cases h with
  | fillRequest h => exact unusedOf_assembled (fillRequest_assembled h)
  | fillAttributesQuery h => exact unusedOf_moves (fillAttributesQuery_moves h)
  | adoptResponse h => exact unusedOf_adopts (adopts_of_adoptResponse h)
  | adoptAttributes h => exact unusedOf_moves (adoptAttributes_moves h)

end Synthesizer

end ResourceGen
