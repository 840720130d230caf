import ResourceGen.Synthesis.Transfer

/-!
# Programs with other type names

A program names types where it makes something new; everything else about it is the same whatever
they are called. Two copiers that name members alike write the same program up to the names of
types (`Copier.RenamedBy`).

Results:
* `FieldType.renamed_renamed`, `FieldType.renamed_id`: renaming twice, and with nothing changed.
* `Statement.renamedOf_id`: statements with nothing renamed.
* `RenamedBy.copy`, `RenamedBy.transfers`: what the copiers write.
-/

namespace ResourceGen

/-! ## Types -/

namespace FieldType

theorem renamed_renamed (f g : String → String) (t : FieldType) :
    (t.renamed f).renamed g = t.renamed (g ∘ f) := by
  induction t <;> simp_all [renamed]

theorem renamed_id (t : FieldType) : t.renamed id = t := by
  induction t <;> simp_all [renamed]

end FieldType

/-! ## Programs -/

namespace Statement

mutual

/-- The statement with its types renamed. -/
def renamed (f : String → String) : Statement → Statement
  | newStruct var typeName => newStruct var (f typeName)
  | newList var element => newList var (element.renamed f)
  | newMap var value => newMap var (value.renamed f)
  | ifPresent source body => ifPresent source (renamedOf f body)
  | forEachElement source element body => forEachElement source element (renamedOf f body)
  | forEachEntry source key value body => forEachEntry source key value (renamedOf f body)
  | ifSingleElement source element body => ifSingleElement source element (renamedOf f body)
  | letScalar var source type => letScalar var source type
  | append list value => append list value
  | insert map key value => insert map key value
  | assign dest source kind => assign dest source kind

/-- The statements with their types renamed. -/
def renamedOf (f : String → String) : List Statement → List Statement
  | [] => []
  | s :: rest => renamed f s :: renamedOf f rest

end

@[simp]
theorem renamedOf_append (f : String → String) (a b : List Statement) :
    renamedOf f (a ++ b) = renamedOf f a ++ renamedOf f b := by
  induction a with
  | nil => simp [renamedOf]
  | cons s a ih => simp [renamedOf, ih]

mutual

theorem renamed_id : ∀ s : Statement, renamed id s = s
  | newStruct _ _ => by rw [renamed]; rfl
  | newList _ element => by rw [renamed, FieldType.renamed_id]
  | newMap _ value => by rw [renamed, FieldType.renamed_id]
  | ifPresent _ body => by rw [renamed, renamedOf_id body]
  | forEachElement _ _ body => by rw [renamed, renamedOf_id body]
  | forEachEntry _ _ _ body => by rw [renamed, renamedOf_id body]
  | ifSingleElement _ _ body => by rw [renamed, renamedOf_id body]
  | letScalar _ _ _ => by rw [renamed]
  | append _ _ => by rw [renamed]
  | insert _ _ _ => by rw [renamed]
  | assign _ _ _ => by rw [renamed]

theorem renamedOf_id : ∀ l : List Statement, renamedOf id l = l
  | [] => by rw [renamedOf]
  | s :: rest => by rw [renamedOf, renamed_id s, renamedOf_id rest]

end

end Statement

/-- The program with its types renamed. -/
def Program.renamed (f : String → String) (p : Program) : Program :=
  ⟨p.direction, Statement.renamedOf f p.statements⟩

namespace Copier

open Statement (renamedOf)

/-- The first copier names members as the second does, and renames its types. -/
structure RenamedBy (g : String → String) (c c' : Copier) : Prop where
  direction : c'.direction = c.direction
  namer : c'.types.namer = c.types.namer
  typeName : ∀ shape, c'.types.typeName c'.side shape = g (c.types.typeName c.side shape)

namespace RenamedBy

variable {g : String → String} {c c' : Copier}

section

variable (h : RenamedBy g c c')

include h

theorem sourceName (wire : String) : c'.sourceName wire = c.sourceName wire := by
  unfold Copier.sourceName
  rw [h.direction, h.namer]

theorem destName (wire : String) : c'.destName wire = c.destName wire := by
  unfold Copier.destName
  rw [h.direction, h.namer]

theorem typeOf (t : FieldType) : c'.typeOf t = (c.typeOf t).renamed g := by
  unfold Copier.typeOf
  rw [FieldType.renamed_renamed]
  exact congrArg (fun f => t.renamed f) (funext h.typeName)

end

mutual

/-- Renaming the types of a copier renames the types of what it writes. -/
theorem copy (h : RenamedBy g c c') (dest source : Accessor) : ∀ (l : Layout) (n : Nat),
    c'.copy dest source l n = (c.copy dest source l n).map (renamedOf g) id
  | .scalar t, n => by simp [Copier.copy, Statement.renamed, renamedOf]
  | .structure shape parts, n => by
    simp [Copier.copy, bind h _ source (.structure shape parts), Statement.renamed, renamedOf,
      publish]
  | .list type l, n => by
    simp [Copier.copy, bind h _ source (.list type l), Statement.renamed, renamedOf, publish]
  | .map type l, n => by
    simp [Copier.copy, bind h _ source (.map type l), Statement.renamed, renamedOf, publish]

theorem bind (h : RenamedBy g c c') (var : String) (source : Accessor) : ∀ (l : Layout) (n : Nat),
    c'.bind var source l n = (c.bind var source l n).map (renamedOf g) id
  | .scalar t, n => by simp [Copier.bind, Statement.renamed, renamedOf]
  | .structure shape parts, n => by
    simp [Copier.bind, bindMembers h var source parts, h.typeName, Statement.renamed, renamedOf]
  | .list type l, n => by
    simp [Copier.bind, bind h _ _ l, h.typeOf, Statement.renamed, renamedOf]
  | .map type l, n => by
    simp [Copier.bind, bind h _ _ l, h.typeOf, Statement.renamed, renamedOf]

theorem bindMembers (h : RenamedBy g c c') (var : String) (source : Accessor) :
    ∀ (parts : List (String × Layout)) (n : Nat),
      c'.bindMembers var source parts n = (c.bindMembers var source parts n).map (renamedOf g) id
  | [], n => by simp [Copier.bindMembers, renamedOf]
  | (wire, l) :: parts, n => by
    simp [Copier.bindMembers, h.destName, h.sourceName, copy h _ _ l,
      bindMembers h var source parts]

end

theorem transfers (h : RenamedBy g c c') (ts : List Transfer) (n : Nat) :
    c'.transfers ts n = renamedOf g (c.transfers ts n) := by
  induction ts generalizing n with
  | nil => simp [Copier.transfers, renamedOf]
  | cons t rest ih =>
    cases t with
    | copied dest source l => simp [Copier.transfers, transfer, h.copy, ih]
    | handed dest source kind =>
      simp [Copier.transfers, transfer, ih, guarded, Statement.renamed, renamedOf]

end RenamedBy

end Copier

end ResourceGen
