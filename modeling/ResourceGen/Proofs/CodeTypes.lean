import Mathlib.Tactic.Tauto
import ResourceGen.Code.Rendering

/-!
# Types in the code of a program

Elements of lists and maps are pointers, slices or maps, while a scalar is first copied to a
variable that holds it as it is. So the code has to take an address of some variables and not of
others, and it goes by names: those of the scalars that have been bound so far (`Code.element`).

`Code.Stmt.Fits` says that what a statement puts into a list or map has the type that the container
is declared with. Types are read off the declarations in scope (`Code.Expr.type?`); the variables
that are given to a program have none there.

Results:
* `mem_statements_snd`: which scalars are known behind a rendered block.
* `itemsOf_statements_of_elementsOf_eq_nil`: only appending and inserting puts something into lists
  and maps.
* `type?_element`: the type of a variable as an element.
-/

namespace ResourceGen

namespace Code

/-! ## Types of expressions -/

/-- What the variables in scope are declared as, the innermost one first; nothing where the
declaration does not say. -/
abbrev TypeScope := List (String × Option TypeExpr)

namespace TypeScope

/-- The type of a variable, if it is known. -/
def type? (scope : TypeScope) (x : String) : Option TypeExpr := (scope.lookup x).join

@[simp]
theorem type?_self (scope : TypeScope) (x : String) (type : Option TypeExpr) :
    type? ((x, type) :: scope) x = type := by
  simp [type?]

theorem type?_of_ne (scope : TypeScope) {x y : String} (type : Option TypeExpr) (h : x ≠ y) :
    type? ((y, type) :: scope) x = scope.type? x := by
  have hne : (x == y) = false := beq_eq_false_iff_ne.mpr h
  simp [type?, List.lookup_cons, hne]

end TypeScope

/-- The type of an expression, as far as it is told by the declarations in scope. -/
def Expr.type? (scope : TypeScope) : Expr → Option TypeExpr
  | path a => if a.segments.isEmpty then scope.type? a.root else none
  | address e => (e.type? scope).map .pointer
  | deref e =>
    match e.type? scope with
    | some (.pointer t) => some t
    | _ => none
  | index e _ =>
    match e.type? scope with
    | some (.slice t) | some (.map t) => some t
    | _ => none
  | empty type | withMember type _ _ | convert type _ => some type
  | append list _ => list.type? scope
  | nil | length _ | number _ | equal _ _ | unequal _ _ | both _ _ => none

theorem Expr.type?_var (scope : TypeScope) (x : String) :
    (Expr.var x).type? scope = scope.type? x := by
  simp [Expr.var, Expr.type?, Accessor.var]

/-- The variables that a statement declares for what follows in its block. -/
def Stmt.declared (scope : TypeScope) : Stmt → TypeScope
  | .define x value => [(x, value.type? scope)]
  | .declare x type => [(x, some type)]
  | .assign _ _ | .callSetter _ _ _ | .when _ _ | .range _ _ _ _ => []

/-- The variables in scope behind a block. -/
def scopeAfter (scope : TypeScope) : List Stmt → TypeScope
  | [] => scope
  | s :: rest => scopeAfter (s.declared scope ++ scope) rest

/-! ## Elements of containers -/

/-- What an assignment puts into a list or map. -/
def assignedItems : (dest value : Expr) → List Expr
  | _, .append _ item => [item]
  | .index _ _, item => [item]
  | _, _ => []

/-- What an assignment puts into a list or map has the type that the container is declared with for
its elements, a type of the side that is written in the given direction. -/
def AssignmentFits (d : Direction) (scope : TypeScope) : (dest value : Expr) → Prop
  | dest, .append list item =>
    dest = list ∧ ∃ type, list.type? scope = some (fieldType d (.list type)) ∧
      item.type? scope = some (fieldType d type)
  | .index map _, item =>
    ∃ type, map.type? scope = some (fieldType d (.map .string type)) ∧
      item.type? scope = some (fieldType d type)
  | _, _ => True

mutual

/-- What a statement puts into lists and maps, in order. -/
def Stmt.items : Stmt → List Expr
  | .assign dest value => assignedItems dest value
  | .when _ body | .range _ _ _ body => itemsOf body
  | .define _ _ | .declare _ _ | .callSetter _ _ _ => []

/-- What statements put into lists and maps, in order. -/
def itemsOf : List Stmt → List Expr
  | [] => []
  | s :: rest => s.items ++ itemsOf rest

end

mutual

/-- What the statement puts into lists and maps fits there. -/
def Stmt.Fits (d : Direction) (scope : TypeScope) : Stmt → Prop
  | .assign dest value => AssignmentFits d scope dest value
  | .when _ body => FitsAll d scope body
  | .range key value _ body => FitsAll d ((value, none) :: (key, none) :: scope) body
  | .define _ _ | .declare _ _ | .callSetter _ _ _ => True

/-- So does what the statements of a block put there. -/
def FitsAll (d : Direction) (scope : TypeScope) : List Stmt → Prop
  | [] => True
  | s :: rest => s.Fits d scope ∧ FitsAll d (s.declared scope ++ scope) rest

end

end Code

namespace Statement

mutual

/-- The values that a statement appends or inserts, in order. -/
def elements : Statement → List String
  | append _ x | insert _ _ x => [x]
  | ifPresent _ body | forEachElement _ _ body | forEachEntry _ _ _ body
  | ifSingleElement _ _ body => elementsOf body
  | newStruct _ _ | newList _ _ | newMap _ _ | letScalar _ _ _ | assign _ _ _ => []

/-- The values that statements append or insert, in order. -/
def elementsOf : List Statement → List String
  | [] => []
  | s :: rest => elements s ++ elementsOf rest

end

mutual

/-- The variables that a statement binds to scalars other than blobs, in order. -/
def scalarLets : Statement → List String
  | letScalar x _ t => if t = .blob then [] else [x]
  | ifPresent _ body | forEachElement _ _ body | forEachEntry _ _ _ body
  | ifSingleElement _ _ body => scalarLetsOf body
  | newStruct _ _ | newList _ _ | newMap _ _ | append _ _ | insert _ _ _ | assign _ _ _ => []

/-- The variables that statements bind to scalars other than blobs, in order. -/
def scalarLetsOf : List Statement → List String
  | [] => []
  | s :: rest => scalarLets s ++ scalarLetsOf rest

end

theorem elementsOf_append (xs ys : List Statement) :
    elementsOf (xs ++ ys) = elementsOf xs ++ elementsOf ys := by
  induction xs with
  | nil => simp [elementsOf]
  | cons s rest ih => simp [elementsOf, ih]

theorem scalarLetsOf_append (xs ys : List Statement) :
    scalarLetsOf (xs ++ ys) = scalarLetsOf xs ++ scalarLetsOf ys := by
  induction xs with
  | nil => simp [scalarLetsOf]
  | cons s rest ih => simp [scalarLetsOf, ih]

end Statement

/-- In the code of the program every element of a list or map has the type that the container is
declared with, and an address is taken exactly for the scalars other than blobs. -/
structure Program.ContainersTyped (p : Program) : Prop where
  fits : Code.FitsAll p.direction [] p.toCode
  items : Code.itemsOf p.toCode =
    (Statement.elementsOf p.statements).map (Code.element (Statement.scalarLetsOf p.statements))

namespace Code

open Statement (elementsOf scalarLetsOf)

variable {d : Direction} {scope : TypeScope} {scalars : List String}

/-! ## Blocks -/

theorem scopeAfter_append (xs ys : List Stmt) :
    scopeAfter scope (xs ++ ys) = scopeAfter (scopeAfter scope xs) ys := by
  induction xs generalizing scope with
  | nil => rfl
  | cons s rest ih => exact ih

theorem itemsOf_append (xs ys : List Stmt) : itemsOf (xs ++ ys) = itemsOf xs ++ itemsOf ys := by
  induction xs with
  | nil => simp [itemsOf]
  | cons s rest ih => simp [itemsOf, ih]

theorem fitsAll_append {xs ys : List Stmt} :
    FitsAll d scope (xs ++ ys) ↔ FitsAll d scope xs ∧ FitsAll d (scopeAfter scope xs) ys := by
  induction xs generalizing scope with
  | nil => simp [FitsAll, scopeAfter]
  | cons s rest ih => simp [FitsAll, scopeAfter, ih, and_assoc]

theorem assignmentFits_of_assignedItems_eq_nil {dest value : Expr}
    (h : assignedItems dest value = []) : AssignmentFits d scope dest value := by
  unfold assignedItems at h
  unfold AssignmentFits
  split at h <;> simp_all

mutual

theorem fits_of_items_eq_nil {scope : TypeScope} : ∀ {s : Stmt}, s.items = [] → s.Fits d scope
  | .when _ body, h => by
    rw [Stmt.items] at h
    rw [Stmt.Fits]
    exact fitsAll_of_itemsOf_eq_nil h
  | .range _ _ _ body, h => by
    rw [Stmt.items] at h
    rw [Stmt.Fits]
    exact fitsAll_of_itemsOf_eq_nil h
  | .define _ _, _ | .declare _ _, _ | .callSetter _ _ _, _ => by
    simp [Stmt.Fits]
  | .assign dest value, h => by
    rw [Stmt.items] at h
    rw [Stmt.Fits]
    exact assignmentFits_of_assignedItems_eq_nil h

theorem fitsAll_of_itemsOf_eq_nil {scope : TypeScope} :
    ∀ {block : List Stmt}, itemsOf block = [] → FitsAll d scope block
  | [], _ => by
    rw [FitsAll]
    trivial
  | s :: rest, h => by
    rw [itemsOf, List.append_eq_nil_iff] at h
    rw [FitsAll]
    exact ⟨fits_of_items_eq_nil h.1, fitsAll_of_itemsOf_eq_nil h.2⟩

end

/-! ## Rendered blocks -/

theorem statements_cons (s : Statement) (rest : List Statement) :
    statements d scalars (s :: rest) =
      ((statement d scalars s).1 ++ (statements d (statement d scalars s).2 rest).1,
        (statements d (statement d scalars s).2 rest).2) := by
  rw [statements]

theorem statements_append (xs ys : List Statement) :
    statements d scalars (xs ++ ys) =
      ((statements d scalars xs).1 ++ (statements d (statements d scalars xs).2 ys).1,
        (statements d (statements d scalars xs).2 ys).2) := by
  induction xs generalizing scalars with
  | nil => simp [statements]
  | cons s rest ih => simp [statements, ih]

mutual

theorem mem_statement_snd {scalars : List String} {x : String} : ∀ s : Statement,
    x ∈ (statement d scalars s).2 ↔ x ∈ Statement.scalarLets s ∨ x ∈ scalars
  | .letScalar y source t => by
    rw [statement, Statement.scalarLets]
    split <;> simp
  | .ifPresent _ body | .forEachElement _ _ body | .forEachEntry _ _ _ body
  | .ifSingleElement _ _ body => by
    rw [statement, Statement.scalarLets]
    exact mem_statements_snd body
  | .newStruct _ _ | .newList _ _ | .newMap _ _ | .append _ _ | .insert _ _ _
  | .assign _ _ _ => by simp [statement, Statement.scalarLets]

/-- The scalars known behind a block are those before it and those bound in it. -/
theorem mem_statements_snd {scalars : List String} {x : String} : ∀ block : List Statement,
    x ∈ (statements d scalars block).2 ↔ x ∈ scalarLetsOf block ∨ x ∈ scalars
  | [] => by simp [statements, scalarLetsOf]
  | s :: rest => by
    rw [statements, scalarLetsOf, List.mem_append]
    simp only [mem_statements_snd rest, mem_statement_snd s]
    tauto

end

/-- Assignments put nothing into lists and maps. -/
theorem itemsOf_assignment (dest source : Accessor) (kind : AssignKind) :
    itemsOf (assignment d dest source kind) = [] := by
  have hmetadata (var type : String) : itemsOf (setMetadata dest source var type) = [] := by
    unfold setMetadata makeMetadata
    cases dest.parent? <;> rfl
  cases d with
  | outbound =>
    have hvalue (a : Accessor) : assignedItems (.path a) (requestValue source kind) = [] := by
      cases kind with
      | scalar t => cases t <;> rfl
      | _ => rfl
    rw [assignment, itemsOf, setRequest]
    split
    · rfl
    · rw [Stmt.items, hvalue]
      rfl
  | inbound =>
    cases kind with
    | scalar t => cases t <;> rfl
    | value => rfl
    | resourceArn | ownerAccountId => exact hmetadata _ _

theorem assignedItems_scalarValue (x : String) (source : Accessor) (t : ScalarType) :
    assignedItems (.var x) (scalarValue d source t) = [] := by
  cases t <;> cases d <;> rfl

theorem itemsOf_let (x : String) (source : Accessor) (t : ScalarType) :
    itemsOf [.declare x (scalarType d t), .assign (.var x) (scalarValue d source t)] = [] := by
  simp [itemsOf, Stmt.items, assignedItems_scalarValue]

mutual

theorem items_statement_of_elements_eq_nil {scalars : List String} : ∀ {s : Statement},
    Statement.elements s = [] → itemsOf (statement d scalars s).1 = []
  | .newStruct _ _, _ | .newList _ _, _ | .newMap _ _, _ => by
    simp [statement, itemsOf, Stmt.items]
  | .letScalar _ source t, _ => by
    rw [statement]
    exact itemsOf_let _ source t
  | .ifPresent _ body, h | .forEachElement _ _ body, h | .forEachEntry _ _ _ body, h
  | .ifSingleElement _ _ body, h => by
    rw [Statement.elements] at h
    have hbody : itemsOf (statements d scalars body).1 = [] :=
      itemsOf_statements_of_elementsOf_eq_nil h
    simp [statement, itemsOf, Stmt.items, hbody]
  | .append _ _, h | .insert _ _ _, h => by
    rw [Statement.elements] at h
    cases h
  | .assign dest source kind, _ => by
    rw [statement]
    exact itemsOf_assignment dest source kind

/-- Statements that append and insert nothing are rendered to such. -/
theorem itemsOf_statements_of_elementsOf_eq_nil {scalars : List String} :
    ∀ {block : List Statement}, elementsOf block = [] → itemsOf (statements d scalars block).1 = []
  | [], _ => by simp [statements, itemsOf]
  | s :: rest, h => by
    rw [elementsOf, List.append_eq_nil_iff] at h
    rw [statements, itemsOf_append, items_statement_of_elements_eq_nil h.1,
      itemsOf_statements_of_elementsOf_eq_nil h.2]
    rfl

end

theorem fitsAll_of_elementsOf_eq_nil {block : List Statement} (h : elementsOf block = []) :
    FitsAll d scope (statements d scalars block).1 :=
  fitsAll_of_itemsOf_eq_nil (itemsOf_statements_of_elementsOf_eq_nil h)

/-- A guard declares nothing for what follows it. -/
theorem scopeAfter_guard (source : Accessor) (body : List Statement) :
    scopeAfter scope (statements d scalars [.ifPresent source body]).1 = scope := by
  simp [statements, statement, scopeAfter, Stmt.declared]

theorem fitsAll_guard {source : Accessor} {body : List Statement} :
    FitsAll d scope (statements d scalars [.ifPresent source body]).1 ↔
      FitsAll d scope (statements d scalars body).1 := by
  simp [statements, statement, FitsAll, Stmt.Fits]

theorem itemsOf_guard {source : Accessor} {body : List Statement} :
    itemsOf (statements d scalars [.ifPresent source body]).1 =
      itemsOf (statements d scalars body).1 := by
  simp [statements, statement, itemsOf, Stmt.items]

/-- The type of a variable as an element. -/
theorem type?_element {x : String} {type : TypeExpr} {byAddress : Bool}
    (htype : scope.type? x = some type) (hscalar : x ∈ scalars ↔ byAddress = true) :
    (element scalars x).type? scope = some (if byAddress then .pointer type else type) := by
  have hcontains : scalars.contains x = byAddress := by
    rw [Bool.eq_iff_iff, List.contains_iff_mem, hscalar]
  rw [element, hcontains]
  cases byAddress with
  | true => simp [Expr.type?, Expr.type?_var, htype]
  | false => simp [Expr.type?_var, htype]

/-- Whether an element is taken by its address depends on the variable alone. -/
theorem element_congr {scalars' : List String} {x : String} (h : x ∈ scalars ↔ x ∈ scalars') :
    element scalars x = element scalars' x := by
  have hcontains : scalars.contains x = scalars'.contains x := by
    rw [Bool.eq_iff_iff, List.contains_iff_mem, List.contains_iff_mem, h]
  rw [element, element, hcontains]

/-- An element is no list itself. -/
theorem assignedItems_index (map key : Expr) (x : String) :
    assignedItems (.index map key) (element scalars x) = [element scalars x] := by
  unfold element
  split <;> rfl

theorem assignmentFits_index {map key : Expr} {x : String} {type : FieldType}
    (hmap : map.type? scope = some (fieldType d (.map .string type)))
    (hitem : (element scalars x).type? scope = some (fieldType d type)) :
    AssignmentFits d scope (.index map key) (element scalars x) := by
  rw [element] at hitem ⊢
  cases hx : scalars.contains x with
  | true =>
    rw [hx] at hitem
    exact ⟨type, hmap, hitem⟩
  | false =>
    rw [hx] at hitem
    exact ⟨type, hmap, hitem⟩

end Code

end ResourceGen
