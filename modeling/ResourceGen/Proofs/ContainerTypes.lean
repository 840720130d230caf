import ResourceGen.Proofs.CodeTypes
import ResourceGen.Proofs.Discipline

/-!
# Lists and maps in the code of programs

In the code of every program the elements of lists and maps have the types that these are declared
with. A declared element type is resolved from the shape, while the value is built along the layout;
they meet because a layout unfolds its shape (`elementType_eq`).

The code takes an address by the name of a variable alone. That no other variable of that name is
known as a scalar follows from the numbers and endings of temporaries (`scalarLetsOf_bind`), as long
as the scalars known before have none of the names of the binding. The variables that are given to
a program do not matter.

Results:
* `bindFits`, `transfersFit`: the elements of containers fit.
* `bindItems`, `transfersItems`: addresses are taken exactly of scalars other than blobs.
* `containers_typed`: both for all four kinds of programs.
-/

namespace ResourceGen

/-! ## Copies -/

/-- Whether values of the layout are handed to containers by their address. -/
def Layout.isByAddress : Layout → Bool
  | .scalar t => t != .blob
  | .structure _ _ | .list _ _ | .map _ _ => false

namespace Copier

open Code (TypeExpr TypeScope FitsAll scopeAfter statements statement fieldType itemsOf)
open Statement (elementsOf scalarLetsOf)

variable (c : Copier)

/-- The type that the variable of a layout is declared with. -/
def varType : Layout → TypeExpr
  | .scalar t => Code.scalarType c.direction t
  | .structure shape _ =>
    .pointer (.named (Code.structsAlias c.direction ++ "." ++ c.types.typeName c.side shape))
  | .list type _ => fieldType c.direction (.list (c.typeOf type))
  | .map type _ => fieldType c.direction (.map .string (c.typeOf type))

/-- The type of a value of a layout as an element. -/
def elementType (l : Layout) : TypeExpr :=
  if l.isByAddress then .pointer (c.varType l) else c.varType l

variable {c}

/-- **A value of a shape has the field type of the shape as an element**: what is declared for the
temporary and what is resolved for the shape are the same. -/
theorem elementType_eq {l : Layout} {s : Shape} {type : FieldType}
    (hl : l.Unfolds c.types.model s) (htype : c.types.model.shapeType s = .ok (some type)) :
    c.elementType l = fieldType c.direction (c.typeOf type) := by
  have hmono {t : Shape} {u v : FieldType}
      (hu : c.types.model.typeWithin (c.types.model.shapes.size + 1) t = .ok (some u))
      (hv : c.types.model.shapeType t = .ok (some v)) : u = v := by
    have := ServiceModel.typeWithin_mono (Nat.le_succ _) hu
    rw [ServiceModel.shapeType, this] at hv
    cases hv
    rfl
  rcases l with t | ⟨name, parts⟩ | ⟨elementType, l⟩ | ⟨valueType, l⟩
  · rw [Layout.Unfolds] at hl
    rw [ServiceModel.shapeType, ServiceModel.typeWithin, hl] at htype
    cases htype
    cases t <;> rfl
  · rw [Layout.Unfolds] at hl
    obtain ⟨rfl, members, hkind, -⟩ := hl
    rw [ServiceModel.shapeType, ServiceModel.typeWithin, hkind] at htype
    cases htype
    rfl
  · rw [Layout.Unfolds] at hl
    obtain ⟨element, e, hkind, he, helement, -⟩ := hl
    obtain ⟨e', u, he', hu, rfl⟩ := (ServiceModel.typeWithin_list_iff hkind).mp htype
    rw [he] at he'
    cases he'
    rw [hmono hu helement]
    rfl
  · rw [Layout.Unfolds] at hl
    obtain ⟨key, value, v, hkind, hv, hvalue, -⟩ := hl
    obtain ⟨ks, vs, k, u, -, hvs, -, hu, rfl⟩ := (ServiceModel.typeWithin_map_iff hkind).mp htype
    rw [hv] at hvs
    cases hvs
    rw [hmono hu hvalue]
    rfl

/-! ## Scalars of a copy -/

theorem scalarLetsOf_copy_of_bind {l : Layout}
    (hl : ∀ (t : Temporary) (source : Accessor) (n : Nat),
      ∀ x ∈ scalarLetsOf (c.bind t.text source l n).1,
        t.Span n (c.bind t.text source l n).2 x)
    (dest source : Accessor) (n : Nat) :
    ∀ x ∈ scalarLetsOf (c.copy dest source l n).1,
      Temporary.NumberedIn n (c.copy dest source l n).2 x := by
  intro x hx
  have hle := c.le_bind l (temporary n) source (n + 1)
  have hbind := hl ⟨n, []⟩ source (n + 1) x
  rw [Temporary.text_numbered] at hbind
  cases l with
  | scalar t =>
    rw [copy_scalar] at hx
    simp [scalarLetsOf, Statement.scalarLets] at hx
  | _ =>
    rw [copy_of_ne_scalar _ _ _ (by simp)] at hx ⊢
    simp only [scalarLetsOf, Statement.scalarLets, Statement.scalarLetsOf_append, publish,
      List.append_nil] at hx
    exact Temporary.numberedIn_of_span hle (hbind hx)

variable (c)

mutual

/-- Binding a temporary binds scalars to temporaries of its own. -/
theorem scalarLetsOf_bind : ∀ (l : Layout) (t : Temporary) (source : Accessor) (n : Nat),
    ∀ x ∈ scalarLetsOf (c.bind t.text source l n).1, t.Span n (c.bind t.text source l n).2 x
  | .scalar type, t, source, n, x, hx => by
    rw [bind, scalarLetsOf, Statement.scalarLets, scalarLetsOf, List.append_nil] at hx
    split at hx
    · cases hx
    · obtain rfl := List.mem_singleton.mp hx
      exact t.span_self _ _
  | .structure shape parts, t, source, n, x, hx => by
    rw [bind] at hx ⊢
    exact Or.inr (scalarLetsOf_bindMembers parts t.text source n x hx)
  | .list type l, t, source, n, x, hx => by
    rw [bind_list_snd]
    rw [bind_list, elementBody] at hx
    simp only [scalarLetsOf, Statement.scalarLets, Statement.scalarLetsOf_append, List.append_nil,
      List.nil_append] at hx
    exact Temporary.span_extend (scalarLetsOf_bind l _ _ n x hx)
  | .map type l, t, source, n, x, hx => by
    rw [bind_map_snd]
    rw [bind_map, entryBody] at hx
    simp only [scalarLetsOf, Statement.scalarLets, Statement.scalarLetsOf_append, List.append_nil,
      List.nil_append] at hx
    exact Temporary.span_extend (scalarLetsOf_bind l _ _ n x hx)

theorem scalarLetsOf_bindMembers : ∀ (parts : List (String × Layout)) (var : String)
    (source : Accessor) (n : Nat), ∀ x ∈ scalarLetsOf (c.bindMembers var source parts n).1,
      Temporary.NumberedIn n (c.bindMembers var source parts n).2 x
  | [], var, source, n, x, hx => by
    rw [bindMembers, scalarLetsOf] at hx
    cases hx
  | (wire, l) :: parts, var, source, n, x, hx => by
    rw [bindMembers_cons] at hx ⊢
    rw [Statement.scalarLetsOf_append, List.mem_append] at hx
    rcases hx with hx | hx
    · exact Temporary.numberedIn_mono (Nat.le_refl n) (c.le_bindMembers parts var source _)
        (scalarLetsOf_copy_of_bind (scalarLetsOf_bind l) _ _ n x hx)
    · exact Temporary.numberedIn_mono (c.le_copy l _ _ n) (Nat.le_refl _)
        (scalarLetsOf_bindMembers parts var source _ x hx)

end

variable {c}

/-- The temporary itself is bound to a scalar if the layout is one. -/
theorem mem_scalarLetsOf_bind_self {l : Layout} {t : Temporary} {source : Accessor} {n : Nat}
    (ht : t.number < n) :
    t.text ∈ scalarLetsOf (c.bind t.text source l n).1 ↔ l.isByAddress = true := by
  rcases l with type | ⟨shape, parts⟩ | ⟨type, l⟩ | ⟨type, l⟩
  · rw [bind, scalarLetsOf, Statement.scalarLets, scalarLetsOf, Layout.isByAddress]
    split <;> simp_all
  · refine iff_of_false (fun hx => ?_) (by simp [Layout.isByAddress])
    rw [bind] at hx
    exact Temporary.not_numberedIn ht (c.scalarLetsOf_bindMembers parts t.text source n _ hx)
  · refine iff_of_false (fun hx => ?_) (by simp [Layout.isByAddress])
    rw [bind_list, elementBody] at hx
    simp only [scalarLetsOf, Statement.scalarLets, Statement.scalarLetsOf_append, List.append_nil,
      List.nil_append] at hx
    exact Temporary.not_span_parent ht .elem (c.scalarLetsOf_bind l _ _ n _ hx)
  · refine iff_of_false (fun hx => ?_) (by simp [Layout.isByAddress])
    rw [bind_map, entryBody] at hx
    simp only [scalarLetsOf, Statement.scalarLets, Statement.scalarLetsOf_append, List.append_nil,
      List.nil_append] at hx
    exact Temporary.not_span_parent ht .val (c.scalarLetsOf_bind l _ _ n _ hx)

/-! ## Containers of a copy -/

variable (c)

/-- In the code that binds a temporary the elements of containers fit, and the temporary is declared
with its type. -/
def BindFits (l : Layout) : Prop :=
  ∀ (t : Temporary) (source : Accessor) (n : Nat) (scalars : List String) (scope : TypeScope),
    t.number < n → (∀ x ∈ scalars, ¬ t.Span n (c.bind t.text source l n).2 x) →
    FitsAll c.direction scope (statements c.direction scalars (c.bind t.text source l n).1).1 ∧
      scopeAfter scope (statements c.direction scalars (c.bind t.text source l n).1).1 =
        (t.text, some (c.varType l)) :: scope

/-- In the code of a copy the elements of containers fit. -/
def CopyFits (l : Layout) : Prop :=
  ∀ (dest source : Accessor) (n : Nat) (scalars : List String) (scope : TypeScope),
    (∀ x ∈ scalars, ¬ Temporary.NumberedIn n (c.copy dest source l n).2 x) →
    FitsAll c.direction scope (statements c.direction scalars (c.copy dest source l n).1).1

/-- In the code that fills a structure the elements of containers fit, and nothing is declared for
what follows. -/
def MembersFit (parts : List (String × Layout)) : Prop :=
  ∀ (var : String) (source : Accessor) (n : Nat) (scalars : List String) (scope : TypeScope),
    (∀ x ∈ scalars, ¬ Temporary.NumberedIn n (c.bindMembers var source parts n).2 x) →
    FitsAll c.direction scope
        (statements c.direction scalars (c.bindMembers var source parts n).1).1 ∧
      scopeAfter scope (statements c.direction scalars (c.bindMembers var source parts n).1).1 =
        scope

variable {c}

theorem copyFits_of_bindFits {l : Layout} (h : BindFits c l) : CopyFits c l := by
  intro dest source n scalars scope hscalars
  have hle := c.le_bind l (temporary n) source (n + 1)
  have hbind := h ⟨n, []⟩ source (n + 1) scalars scope (Nat.lt_succ_self n)
  rw [Temporary.text_numbered] at hbind
  cases l with
  | scalar t =>
    rw [copy_scalar]
    exact Code.fitsAll_of_elementsOf_eq_nil rfl
  | _ =>
    rw [copy_of_ne_scalar _ _ _ (by simp)] at hscalars ⊢
    rw [Code.fitsAll_guard, Code.statements_append, Code.fitsAll_append]
    exact ⟨(hbind fun x hx hspan => hscalars x hx (Temporary.numberedIn_of_span hle hspan)).1,
      Code.fitsAll_of_elementsOf_eq_nil rfl⟩

theorem bindFits_scalar (type : ScalarType) : BindFits c (.scalar type) := by
  intro t source n scalars scope _ _
  rw [bind]
  exact ⟨Code.fitsAll_of_elementsOf_eq_nil rfl, rfl⟩

theorem bindFits_structure {shape : String} {parts : List (String × Layout)}
    (hparts : MembersFit c parts) : BindFits c (.structure shape parts) := by
  intro t source n scalars scope ht hscalars
  rw [bind] at hscalars ⊢
  obtain ⟨hfits, hscope⟩ := hparts t.text source n scalars
    ((t.text, some (c.varType (.structure shape parts))) :: scope)
    fun x hx h => hscalars x hx (Or.inr h)
  rw [Code.statements_cons, statement, List.singleton_append]
  exact ⟨⟨trivial, hfits⟩, hscope⟩

/-- The part of a container that is bound last has its type as an element. -/
theorem type?_part {l : Layout} {t : Temporary} {source : Accessor} {n : Nat}
    {scalars : List String} {scope : TypeScope} (ht : t.number < n)
    (hscalars : ∀ x ∈ scalars, ¬ t.Span n (c.bind t.text source l n).2 x) :
    (Code.element (statements c.direction scalars (c.bind t.text source l n).1).2 t.text).type?
      ((t.text, some (c.varType l)) :: scope) = some (c.elementType l) := by
  refine Code.type?_element (TypeScope.type?_self _ _ _) ?_
  rw [Code.mem_statements_snd, mem_scalarLetsOf_bind_self ht]
  exact or_iff_left fun h => hscalars _ h (t.span_self _ _)

theorem text_ne_blank (t : Temporary) : t.text ≠ "_" := fun h =>
  Temporary.not_isTemporary_of_head (by decide) ⟨t, h.symm⟩

/-- Inside the loop over the parts of a value the code that binds a part fits, and the part has its
type as an element afterwards. -/
theorem fits_part {t : Temporary} {e e' : Ending} {n : Nat} {l : Layout} {type : FieldType}
    {scalars : List String} (hl : BindFits c l)
    (htype : c.elementType l = fieldType c.direction (c.typeOf type)) (ht : t.number < n)
    (hscalars : ∀ x ∈ scalars,
      ¬ t.Span n (c.bind (t.extend e).text (.var (t.extend e').text) l n).2 x)
    (inside : TypeScope) :
    FitsAll c.direction inside (statements c.direction scalars
        (c.bind (t.extend e).text (.var (t.extend e').text) l n).1).1 ∧
      scopeAfter inside (statements c.direction scalars
          (c.bind (t.extend e).text (.var (t.extend e').text) l n).1).1 =
        ((t.extend e).text, some (c.varType l)) :: inside ∧
      (Code.element (statements c.direction scalars
          (c.bind (t.extend e).text (.var (t.extend e').text) l n).1).2
            (t.extend e).text).type? (((t.extend e).text, some (c.varType l)) :: inside) =
        some (fieldType c.direction (c.typeOf type)) := by
  have hpart : ∀ x ∈ scalars, ¬ (t.extend e).Span n
      (c.bind (t.extend e).text (.var (t.extend e').text) l n).2 x :=
    fun x hx h => hscalars x hx (Temporary.span_extend h)
  obtain ⟨hfits, hscope⟩ := hl (t.extend e) (.var (t.extend e').text) n scalars inside ht hpart
  exact ⟨hfits, hscope, by rw [type?_part (t := t.extend e) ht hpart, htype]⟩

theorem bindFits_list {type : FieldType} {l : Layout} (hl : BindFits c l)
    (htype : c.elementType l = fieldType c.direction (c.typeOf type)) :
    BindFits c (.list type l) := by
  intro t source n scalars scope ht hscalars
  rw [bind_list_snd] at hscalars
  obtain ⟨hfits, hscope, hitem⟩ := fits_part hl htype ht hscalars
    (((t.extend .iter).text, none) :: ("_", none) ::
      (t.text, some (c.varType (.list type l))) :: scope)
  rw [bind_list]
  suffices hbody : FitsAll c.direction
      (((t.extend .iter).text, none) :: ("_", none) ::
        (t.text, some (c.varType (.list type l))) :: scope)
      (statements c.direction scalars (c.elementBody l t n)).1 from
    ⟨⟨trivial, hbody, trivial⟩, rfl⟩
  rw [elementBody, Code.statements_append, Code.fitsAll_append, hscope]
  refine ⟨hfits, ⟨rfl, c.typeOf type, ?_, hitem⟩, trivial⟩
  rw [Code.Expr.type?_var, TypeScope.type?_of_ne _ _ (Temporary.text_extend_ne t .elem).symm,
    TypeScope.type?_of_ne _ _ (Temporary.text_extend_ne t .iter).symm,
    TypeScope.type?_of_ne _ _ (text_ne_blank t), TypeScope.type?_self]
  rfl

theorem bindFits_map {type : FieldType} {l : Layout} (hl : BindFits c l)
    (htype : c.elementType l = fieldType c.direction (c.typeOf type)) :
    BindFits c (.map type l) := by
  intro t source n scalars scope ht hscalars
  rw [bind_map_snd] at hscalars
  obtain ⟨hfits, hscope, hitem⟩ := fits_part hl htype ht hscalars
    (((t.extend .valit).text, none) :: ((t.extend .key).text, none) ::
      (t.text, some (c.varType (.map type l))) :: scope)
  rw [bind_map]
  suffices hbody : FitsAll c.direction
      (((t.extend .valit).text, none) :: ((t.extend .key).text, none) ::
        (t.text, some (c.varType (.map type l))) :: scope)
      (statements c.direction scalars (c.entryBody l t n)).1 from
    ⟨⟨trivial, hbody, trivial⟩, rfl⟩
  rw [entryBody, Code.statements_append, Code.fitsAll_append, hscope]
  refine ⟨hfits, Code.assignmentFits_index ?_ hitem, trivial⟩
  rw [Code.Expr.type?_var, TypeScope.type?_of_ne _ _ (Temporary.text_extend_ne t .val).symm,
    TypeScope.type?_of_ne _ _ (Temporary.text_extend_ne t .valit).symm,
    TypeScope.type?_of_ne _ _ (Temporary.text_extend_ne t .key).symm, TypeScope.type?_self]
  rfl

theorem membersFit_nil : MembersFit c [] := by
  intro var source n scalars scope _
  rw [bindMembers]
  exact ⟨trivial, rfl⟩

/-- The code of a copy declares nothing for what follows. -/
theorem scopeAfter_copy (dest source : Accessor) (l : Layout) (n : Nat) (scalars : List String)
    (scope : TypeScope) :
    scopeAfter scope (statements c.direction scalars (c.copy dest source l n).1).1 = scope := by
  obtain ⟨body, h⟩ := c.copy_eq_guard dest source l n
  rw [h, Code.scopeAfter_guard]

/-- The scalars known behind a copy have none of the numbers that are taken after it. -/
theorem not_numberedIn_of_mem_scalars {dest source : Accessor} {l : Layout} {n m : Nat}
    {scalars : List String} (hscalars : ∀ x ∈ scalars, ¬ Temporary.NumberedIn n m x) :
    ∀ x ∈ (statements c.direction scalars (c.copy dest source l n).1).2,
      ¬ Temporary.NumberedIn (c.copy dest source l n).2 m x := by
  intro x hx hnumbered
  rcases (Code.mem_statements_snd _).mp hx with hx | hx
  · exact Temporary.not_numberedIn_of_numberedIn
      (scalarLetsOf_copy_of_bind (c.scalarLetsOf_bind l) dest source n x hx) hnumbered
  · exact hscalars x hx (Temporary.numberedIn_mono (c.le_copy l dest source n) (Nat.le_refl m)
      hnumbered)

theorem membersFit_cons {wire : String} {l : Layout} {parts : List (String × Layout)}
    (hl : CopyFits c l) (hparts : MembersFit c parts) : MembersFit c ((wire, l) :: parts) := by
  intro var source n scalars scope hscalars
  rw [bindMembers_cons] at hscalars ⊢
  have hle := c.le_bindMembers parts var source (c.copy ((Accessor.var var).field (c.destName wire))
    (source.field (c.sourceName wire)) l n).2
  have hone := hl ((Accessor.var var).field (c.destName wire)) (source.field (c.sourceName wire)) n
    scalars scope fun x hx h => hscalars x hx (Temporary.numberedIn_mono (Nat.le_refl n) hle h)
  obtain ⟨hmore, hscope⟩ := hparts var source _ _ scope (not_numberedIn_of_mem_scalars hscalars)
  rw [Code.statements_append, Code.fitsAll_append, Code.scopeAfter_append, scopeAfter_copy]
  exact ⟨⟨hone, hmore⟩, hscope⟩

mutual

/-- **In the code that binds a temporary the elements of containers fit**, whatever the layout. -/
theorem bindFits : ∀ (l : Layout) {s : Shape}, l.Unfolds c.types.model s → BindFits c l
  | .scalar type, _, _ => bindFits_scalar type
  | .structure _ parts, _, hu => by
    obtain ⟨-, members, -, hparts⟩ := hu
    exact bindFits_structure (membersFit parts hparts)
  | .list _ l, _, hu => by
    obtain ⟨element, e, -, -, htype, hl⟩ := hu
    exact bindFits_list (bindFits l hl) (elementType_eq hl htype)
  | .map _ l, _, hu => by
    obtain ⟨key, value, v, -, -, htype, hl⟩ := hu
    exact bindFits_map (bindFits l hl) (elementType_eq hl htype)

theorem membersFit : ∀ (parts : List (String × Layout)) {fs : List (String × Shape)},
    Layout.UnfoldsMembers c.types.model parts fs → MembersFit c parts
  | [], [], _ => membersFit_nil
  | (_, l) :: parts, _ :: _, hu => by
    obtain ⟨-, hl, hparts⟩ := hu
    exact membersFit_cons (copyFits_of_bindFits (bindFits l hl)) (membersFit parts hparts)

end

/-! ## Addresses in a copy -/

variable (c)

/-- In the code that binds a temporary the elements are those of the statements, by address when
`known` tells that they are scalars. -/
def BindItems (l : Layout) : Prop :=
  ∀ (t : Temporary) (source : Accessor) (n : Nat) (scalars known : List String),
    (∀ x ∈ scalars, ¬ t.Span n (c.bind t.text source l n).2 x) →
    (∀ x, t.Span n (c.bind t.text source l n).2 x →
      (x ∈ known ↔ x ∈ scalarLetsOf (c.bind t.text source l n).1)) →
    itemsOf (statements c.direction scalars (c.bind t.text source l n).1).1 =
      (elementsOf (c.bind t.text source l n).1).map (Code.element known)

/-- So it is in the code of a copy. -/
def CopyItems (l : Layout) : Prop :=
  ∀ (dest source : Accessor) (n : Nat) (scalars known : List String),
    (∀ x ∈ scalars, ¬ Temporary.NumberedIn n (c.copy dest source l n).2 x) →
    (∀ x, Temporary.NumberedIn n (c.copy dest source l n).2 x →
      (x ∈ known ↔ x ∈ scalarLetsOf (c.copy dest source l n).1)) →
    itemsOf (statements c.direction scalars (c.copy dest source l n).1).1 =
      (elementsOf (c.copy dest source l n).1).map (Code.element known)

/-- So it is in the code that fills a structure. -/
def MembersItems (parts : List (String × Layout)) : Prop :=
  ∀ (var : String) (source : Accessor) (n : Nat) (scalars known : List String),
    (∀ x ∈ scalars, ¬ Temporary.NumberedIn n (c.bindMembers var source parts n).2 x) →
    (∀ x, Temporary.NumberedIn n (c.bindMembers var source parts n).2 x →
      (x ∈ known ↔ x ∈ scalarLetsOf (c.bindMembers var source parts n).1)) →
    itemsOf (statements c.direction scalars (c.bindMembers var source parts n).1).1 =
      (elementsOf (c.bindMembers var source parts n).1).map (Code.element known)

variable {c}

theorem copyItems_of_bindItems {l : Layout} (h : BindItems c l) : CopyItems c l := by
  intro dest source n scalars known hscalars hknown
  have hle := c.le_bind l (temporary n) source (n + 1)
  have hbind := h ⟨n, []⟩ source (n + 1) scalars known
  rw [Temporary.text_numbered] at hbind
  cases l with
  | scalar t =>
    rw [copy_scalar, Code.itemsOf_statements_of_elementsOf_eq_nil rfl]
    rfl
  | _ =>
    rw [copy_of_ne_scalar _ _ _ (by simp)] at hscalars hknown ⊢
    simp only [scalarLetsOf, Statement.scalarLets, Statement.scalarLetsOf_append, publish,
      List.append_nil] at hknown
    rw [Code.itemsOf_guard, Code.statements_append, Code.itemsOf_append,
      hbind (fun x hx h => hscalars x hx (Temporary.numberedIn_of_span hle h))
        (fun x hx => hknown x (Temporary.numberedIn_of_span hle hx)),
      Code.itemsOf_statements_of_elementsOf_eq_nil rfl]
    simp [elementsOf, Statement.elements, Statement.elementsOf_append, publish]

theorem bindItems_scalar (type : ScalarType) : BindItems c (.scalar type) := by
  intro t source n scalars known _ _
  rw [bind, Code.itemsOf_statements_of_elementsOf_eq_nil rfl]
  rfl

theorem bindItems_structure {shape : String} {parts : List (String × Layout)}
    (hparts : MembersItems c parts) : BindItems c (.structure shape parts) := by
  intro t source n scalars known hscalars hknown
  rw [bind] at hscalars hknown ⊢
  rw [Code.statements_cons, statement, List.singleton_append]
  exact hparts t.text source n scalars known (fun x hx h => hscalars x hx (Or.inr h))
    fun x hx => hknown x (Or.inr hx)

/-- The part of a container that is bound last is an element by address if it is known as a
scalar. -/
theorem element_part {l : Layout} {t : Temporary} {source : Accessor} {n : Nat}
    {scalars known : List String}
    (hscalars : ∀ x ∈ scalars, ¬ t.Span n (c.bind t.text source l n).2 x)
    (hknown : ∀ x, t.Span n (c.bind t.text source l n).2 x →
      (x ∈ known ↔ x ∈ scalarLetsOf (c.bind t.text source l n).1)) :
    Code.element (statements c.direction scalars (c.bind t.text source l n).1).2 t.text =
      Code.element known t.text := by
  refine Code.element_congr ?_
  rw [hknown _ (t.span_self _ _), Code.mem_statements_snd]
  exact or_iff_left fun h => hscalars _ h (t.span_self _ _)

/-- Inside the loop over the parts of a value the elements are those of the statements that bind a
part and hand it over, by address when `known` tells that they are scalars. -/
theorem items_part {t : Temporary} {e e' : Ending} {n : Nat} {l : Layout}
    {scalars known : List String} (hl : BindItems c l) (p : Statement)
    (hp : ∀ scalars,
      itemsOf (statements c.direction scalars [p]).1 = [Code.element scalars (t.extend e).text])
    (helements : elementsOf [p] = [(t.extend e).text])
    (hscalars : ∀ x ∈ scalars,
      ¬ t.Span n (c.bind (t.extend e).text (.var (t.extend e').text) l n).2 x)
    (hknown : ∀ x, t.Span n (c.bind (t.extend e).text (.var (t.extend e').text) l n).2 x →
      (x ∈ known ↔
        x ∈ scalarLetsOf (c.bind (t.extend e).text (.var (t.extend e').text) l n).1)) :
    itemsOf (statements c.direction scalars
        ((c.bind (t.extend e).text (.var (t.extend e').text) l n).1 ++ [p])).1 =
      (elementsOf ((c.bind (t.extend e).text (.var (t.extend e').text) l n).1 ++ [p])).map
        (Code.element known) := by
  have hscalars' : ∀ x ∈ scalars, ¬ (t.extend e).Span n
      (c.bind (t.extend e).text (.var (t.extend e').text) l n).2 x :=
    fun x hx h => hscalars x hx (Temporary.span_extend h)
  have hknown' := fun x hx => hknown x (Temporary.span_extend (t := t) (e := e) hx)
  rw [Code.statements_append, Code.itemsOf_append, Statement.elementsOf_append, List.map_append,
    hl (t.extend e) _ n scalars known hscalars' hknown', hp, element_part hscalars' hknown',
    helements]
  rfl

theorem bindItems_list {type : FieldType} {l : Layout} (hl : BindItems c l) :
    BindItems c (.list type l) := by
  intro t source n scalars known hscalars hknown
  rw [bind_list_snd] at hscalars hknown
  rw [bind_list, elementBody] at hknown ⊢
  simp only [scalarLetsOf, Statement.scalarLets, Statement.scalarLetsOf_append, List.append_nil,
    List.nil_append] at hknown
  have hbody := items_part hl (.append t.text (t.extend .elem).text)
    (fun _ => by simp [statements, statement, itemsOf, Code.Stmt.items, Code.assignedItems])
    rfl hscalars hknown
  simpa [statements, statement, itemsOf, Code.Stmt.items, elementsOf, Statement.elements]
    using hbody

theorem bindItems_map {type : FieldType} {l : Layout} (hl : BindItems c l) :
    BindItems c (.map type l) := by
  intro t source n scalars known hscalars hknown
  rw [bind_map_snd] at hscalars hknown
  rw [bind_map, entryBody] at hknown ⊢
  simp only [scalarLetsOf, Statement.scalarLets, Statement.scalarLetsOf_append, List.append_nil,
    List.nil_append] at hknown
  have hbody := items_part hl (.insert t.text (t.extend .key).text (t.extend .val).text)
    (fun _ => by simp [statements, statement, itemsOf, Code.Stmt.items, Code.assignedItems_index])
    rfl hscalars hknown
  simpa [statements, statement, itemsOf, Code.Stmt.items, elementsOf, Statement.elements]
    using hbody

theorem membersItems_nil : MembersItems c [] := by
  intro var source n scalars known _ _
  rw [bindMembers]
  rfl

theorem membersItems_cons {wire : String} {l : Layout} {parts : List (String × Layout)}
    (hl : CopyItems c l) (hparts : MembersItems c parts) :
    MembersItems c ((wire, l) :: parts) := by
  intro var source n scalars known hscalars hknown
  rw [bindMembers_cons] at hscalars hknown ⊢
  have hle := c.le_copy l ((Accessor.var var).field (c.destName wire))
    (source.field (c.sourceName wire)) n
  have hle' := c.le_bindMembers parts var source
    (c.copy ((Accessor.var var).field (c.destName wire)) (source.field (c.sourceName wire)) l n).2
  have hone := scalarLetsOf_copy_of_bind (c.scalarLetsOf_bind l)
    ((Accessor.var var).field (c.destName wire)) (source.field (c.sourceName wire)) n
  have hmore := c.scalarLetsOf_bindMembers parts var source
    (c.copy ((Accessor.var var).field (c.destName wire)) (source.field (c.sourceName wire)) l n).2
  simp only [Statement.scalarLetsOf_append, List.mem_append] at hknown
  rw [Code.statements_append, Code.itemsOf_append, Statement.elementsOf_append, List.map_append]
  congr 1
  · refine hl _ _ n scalars known (fun x hx h => hscalars x hx ?_) fun x hx => ?_
    · exact Temporary.numberedIn_mono (Nat.le_refl n) hle' h
    · rw [hknown x (Temporary.numberedIn_mono (Nat.le_refl n) hle' hx)]
      exact or_iff_left fun h => Temporary.not_numberedIn_of_numberedIn hx (hmore x h)
  · refine hparts var source _ _ known (not_numberedIn_of_mem_scalars hscalars) fun x hx => ?_
    rw [hknown x (Temporary.numberedIn_mono hle (Nat.le_refl _) hx)]
    exact or_iff_right fun h => Temporary.not_numberedIn_of_numberedIn (hone x h) hx

mutual

/-- **In the code that binds a temporary addresses are taken of scalars**, whatever the layout. -/
theorem bindItems (c : Copier) : ∀ l : Layout, BindItems c l
  | .scalar type => bindItems_scalar type
  | .structure _ parts => bindItems_structure (membersItems c parts)
  | .list _ l => bindItems_list (bindItems c l)
  | .map _ l => bindItems_map (bindItems c l)

theorem membersItems (c : Copier) : ∀ parts : List (String × Layout), MembersItems c parts
  | [] => membersItems_nil
  | (_, l) :: parts =>
    membersItems_cons (copyItems_of_bindItems (bindItems c l)) (membersItems c parts)

end

/-! ## Transfers -/

variable {c : Copier}

theorem scalarLetsOf_transfer {t : Transfer} {n : Nat} {x : String}
    (hx : x ∈ scalarLetsOf (c.transfer t n).1) :
    Temporary.NumberedIn n (c.transfer t n).2 x := by
  cases t with
  | copied dest source l =>
    exact scalarLetsOf_copy_of_bind (c.scalarLetsOf_bind l) dest source n x hx
  | handed dest source kind => cases hx

theorem scalarLetsOf_transfers {ts : List Transfer} {n : Nat} {x : String}
    (hx : x ∈ scalarLetsOf (c.transfers ts n)) : Temporary.NumberedFrom n x := by
  induction ts generalizing n with
  | nil => cases hx
  | cons t ts ih =>
    rw [transfers, Statement.scalarLetsOf_append, List.mem_append] at hx
    rcases hx with hx | hx
    · exact Temporary.numberedFrom_of_numberedIn (scalarLetsOf_transfer hx)
    · exact Temporary.numberedFrom_mono (c.le_transfer t n) (ih hx)

/-- The scalars known behind a transfer have none of the numbers that are still free. -/
theorem not_numberedFrom_of_mem_scalars {t : Transfer} {n : Nat} {scalars : List String}
    (hscalars : ∀ x ∈ scalars, ¬ Temporary.NumberedFrom n x) :
    ∀ x ∈ (statements c.direction scalars (c.transfer t n).1).2,
      ¬ Temporary.NumberedFrom (c.transfer t n).2 x := by
  intro x hx hfree
  rcases (Code.mem_statements_snd _).mp hx with hx | hx
  · exact Temporary.not_numberedFrom_of_numberedIn (scalarLetsOf_transfer hx) hfree
  · exact hscalars x hx (Temporary.numberedFrom_mono (c.le_transfer t n) hfree)

theorem scopeAfter_transfer (t : Transfer) (n : Nat) (scalars : List String) (scope : TypeScope) :
    scopeAfter scope (statements c.direction scalars (c.transfer t n).1).1 = scope := by
  cases t with
  | copied dest source l => exact scopeAfter_copy dest source l n scalars scope
  | handed dest source kind => exact Code.scopeAfter_guard _ _

/-- **In the code of transfers the elements of containers fit.** -/
theorem transfersFit {roots : List String} {ts : List Transfer} {n : Nat} {scalars : List String}
    {scope : TypeScope} (hts : ∀ t ∈ ts, t.Within c.types.model roots)
    (hscalars : ∀ x ∈ scalars, ¬ Temporary.NumberedFrom n x) :
    FitsAll c.direction scope (statements c.direction scalars (c.transfers ts n)).1 := by
  induction ts generalizing n scalars with
  | nil => trivial
  | cons t ts ih =>
    rw [transfers, Code.statements_append, Code.fitsAll_append, scopeAfter_transfer]
    refine ⟨?_, ih (fun u hu => hts u (List.mem_cons_of_mem t hu))
      (not_numberedFrom_of_mem_scalars hscalars)⟩
    cases t with
    | copied dest source l =>
      obtain ⟨-, -, shape, -, hl⟩ := hts _ List.mem_cons_self
      exact copyFits_of_bindFits (bindFits l hl) dest source n scalars scope
        fun x hx h => hscalars x hx (Temporary.numberedFrom_of_numberedIn h)
    | handed dest source kind => exact Code.fitsAll_of_elementsOf_eq_nil rfl

/-- **In the code of transfers addresses are taken of scalars.** -/
theorem transfersItems {ts : List Transfer} {n : Nat} {scalars known : List String}
    (hscalars : ∀ x ∈ scalars, ¬ Temporary.NumberedFrom n x)
    (hknown : ∀ x, Temporary.NumberedFrom n x → (x ∈ known ↔ x ∈ scalarLetsOf (c.transfers ts n))) :
    itemsOf (statements c.direction scalars (c.transfers ts n)).1 =
      (elementsOf (c.transfers ts n)).map (Code.element known) := by
  induction ts generalizing n scalars with
  | nil => rfl
  | cons t ts ih =>
    rw [transfers] at hknown ⊢
    simp only [Statement.scalarLetsOf_append, List.mem_append] at hknown
    have hmore := ih (not_numberedFrom_of_mem_scalars (t := t) hscalars) fun x hx => by
      rw [hknown x (Temporary.numberedFrom_mono (c.le_transfer t n) hx)]
      exact or_iff_right fun h =>
        Temporary.not_numberedFrom_of_numberedIn (scalarLetsOf_transfer h) hx
    rw [Code.statements_append, Code.itemsOf_append, Statement.elementsOf_append, List.map_append,
      hmore]
    congr 1
    cases t with
    | copied dest source l =>
      refine copyItems_of_bindItems (bindItems c l) dest source n scalars known
        (fun x hx h => hscalars x hx (Temporary.numberedFrom_of_numberedIn h)) fun x hx => ?_
      rw [hknown x (Temporary.numberedFrom_of_numberedIn hx)]
      exact or_iff_left fun h =>
        Temporary.not_numberedFrom_of_numberedIn hx (scalarLetsOf_transfers h)
    | handed dest source kind => exact Code.itemsOf_statements_of_elementsOf_eq_nil rfl

end Copier

/-! ## Programs -/

namespace Synthesizer

open Code (TypeScope FitsAll statements itemsOf)
open Statement (elementsOf scalarLetsOf)

variable {s : Synthesizer} {r : Resource} {roots : List String} {p : Program}

/-- The code of a program fits in every scope, if what stands before its transfers has nothing to do
with elements. -/
theorem code_of_program {d : Direction} {first : List Statement} {ts : List Transfer}
    (hts : ∀ t ∈ ts, t.Within s.model roots) (helements : elementsOf first = [])
    (hscalars : scalarLetsOf first = []) (scope : TypeScope) :
    FitsAll d scope (statements d [] (s.program d first ts).statements).1 ∧
      itemsOf (statements d [] (s.program d first ts).statements).1 =
        (elementsOf (s.program d first ts).statements).map
          (Code.element (scalarLetsOf (s.program d first ts).statements)) := by
  have hbefore : ∀ x ∈ (statements d [] first).2, ¬ Temporary.NumberedFrom 0 x := by
    intro x hx
    rw [Code.mem_statements_snd, hscalars] at hx
    simp at hx
  rw [program, Code.statements_append, Code.fitsAll_append, Code.itemsOf_append,
    Code.itemsOf_statements_of_elementsOf_eq_nil helements, Statement.elementsOf_append, helements,
    Statement.scalarLetsOf_append, hscalars]
  exact ⟨⟨Code.fitsAll_of_elementsOf_eq_nil helements,
    Copier.transfersFit (c := ⟨d, s.types⟩) hts hbefore⟩,
    Copier.transfersItems (c := ⟨d, s.types⟩) hbefore fun x _ => Iff.rfl⟩

theorem code_of_moves {d : Direction} (h : s.Moves d roots p) (scope : TypeScope) :
    FitsAll d scope (statements d [] p.statements).1 ∧
      itemsOf (statements d [] p.statements).1 =
        (elementsOf p.statements).map (Code.element (scalarLetsOf p.statements)) := by
  obtain ⟨ts, hts, rfl⟩ := h
  exact code_of_program hts rfl rfl scope

/-- The attribute map has its entries by assignment. -/
theorem sendAttributes_quiet (request spec : Accessor) (member : String) (c : Copier) :
    elementsOf (sendAttributes r request spec member c) = [] ∧
      scalarLetsOf (sendAttributes r request spec member c) = [] := by
  have hentries (fs : List Field) :
      elementsOf (c.transfers (fs.filterMap (attributeEntry spec)) 0) = [] ∧
        scalarLetsOf (c.transfers (fs.filterMap (attributeEntry spec)) 0) = [] := by
    induction fs with
    | nil => exact ⟨rfl, rfl⟩
    | cons f fs ih =>
      rw [List.filterMap_cons]
      unfold attributeEntry at ih ⊢
      cases f.attributeKey? with
      | none => exact ih
      | some key => exact ih
  obtain ⟨helements, hscalars⟩ := hentries r.spec.values
  simp [sendAttributes, elementsOf, scalarLetsOf, Statement.elements, Statement.scalarLets,
    Statement.elementsOf_append, Statement.scalarLetsOf_append, helements, hscalars,
    Copier.publish]

theorem containersTyped_of_assembled {d : Direction} (h : s.Assembled roots d p) :
    p.ContainersTyped := by
  cases h with
  | transfers h =>
    have hcode := code_of_moves h []
    obtain ⟨ts, -, rfl⟩ := h
    exact ⟨hcode.1, hcode.2⟩
  | behindAttributes r member hrequest hspec hts =>
    obtain ⟨helements, hscalars⟩ := sendAttributes_quiet (r := r) _ _ member ⟨.outbound, s.types⟩
    obtain ⟨hfits, hitems⟩ := code_of_program hts helements hscalars []
    exact ⟨hfits, hitems⟩
  | onlyElement hlist h =>
    refine ⟨⟨⟨trivial, (code_of_moves h _).1⟩, trivial⟩, ?_⟩
    have hitems := (code_of_moves h []).2
    simpa [Program.toCode, statements, Code.statement, itemsOf, Code.Stmt.items, elementsOf,
      Statement.elements, scalarLetsOf, Statement.scalarLets] using hitems

theorem direction_of_assembled {d : Direction} (h : s.Assembled roots d p) : p.direction = d := by
  cases h with
  | transfers h =>
    obtain ⟨ts, -, rfl⟩ := h
    rfl
  | behindAttributes | onlyElement => rfl

/-- **The elements of lists and maps are well typed in the code of every program.** -/
theorem containers_typed (s : Synthesizer) (r : Resource) :
    (∀ role object request p, s.fillRequest r role object request = .ok p →
      p.direction = .outbound ∧ p.ContainersTyped) ∧
    (∀ object request p, s.fillAttributesQuery r object request = .ok p →
      p.direction = .outbound ∧ p.ContainersTyped) ∧
    (∀ role response target p, s.adoptResponse r role response target = .ok p →
      p.direction = .inbound ∧ p.ContainersTyped) ∧
    (∀ response status p, s.adoptAttributes r response status = .ok p →
      p.direction = .inbound ∧ p.ContainersTyped) := by
  have hassembled {d : Direction} {roots : List String} {p : Program}
      (h : s.Assembled roots d p) : p.direction = d ∧ p.ContainersTyped :=
    ⟨direction_of_assembled h, containersTyped_of_assembled h⟩
  exact ⟨fun _ _ _ _ h => hassembled (fillRequest_assembled h),
    fun _ _ _ h => hassembled (.transfers (fillAttributesQuery_moves h)),
    fun _ _ _ _ h => hassembled (adoptResponse_assembled h).1,
    fun _ _ _ h => hassembled (.transfers (adoptAttributes_moves h))⟩

end Synthesizer

/-- The tags of a new queue are put into the request by their addresses. -/
theorem containers_typed_queue :
    queueSchema.synthesizer.fillRequest queue .create "ko" "res" = .ok queueRequest ∧
      queueRequest.direction = .outbound ∧ queueRequest.ContainersTyped ∧
      Code.itemsOf queueRequest.toCode = [.address (.var "f0val")] := by
  have hrequest : queueSchema.synthesizer.fillRequest queue .create "ko" "res" =
      .ok queueRequest := rfl
  obtain ⟨hfill, -⟩ := Synthesizer.containers_typed queueSchema.synthesizer queue
  obtain ⟨hdirection, htyped⟩ := hfill _ _ _ _ hrequest
  refine ⟨hrequest, hdirection, htyped, ?_⟩
  have hvar : Copier.temporary 0 ++ "val" = "f0val" := rfl
  obtain ⟨helements, hscalars⟩ := Synthesizer.sendAttributes_quiet (r := queue)
    (.parse "res") ((Accessor.parse "ko").field "Spec") "Attributes" ⟨.outbound, queueSchema.types⟩
  rw [htyped.items]
  simp [queueRequest, Synthesizer.program, Copier.transfers, Copier.transfer, Copier.copy,
    Copier.bind, Copier.publish, Statement.elementsOf, Statement.elements, Statement.scalarLetsOf,
    Statement.scalarLets, Statement.elementsOf_append, Statement.scalarLetsOf_append, helements,
    hscalars, hvar, Code.element]

end ResourceGen
