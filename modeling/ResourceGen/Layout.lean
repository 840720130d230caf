import ResourceGen.TypeResolver

/-!
# Layouts

A `Layout` is a shape unfolded for copying: the tree of structures, lists, maps and scalars below
it, without the members that cannot be copied (those without a shape or without a type). A
structure that comes back to a structure it stands in has no layout; the cycle is reported with
the path that leads to it.

Types inside a layout name structures by their shapes.
-/

namespace ResourceGen

/-- A shape unfolded for copying. -/
inductive Layout where
  | scalar (type : ScalarType)
  /-- A structure by the name of its shape, with the layouts of its members by wire name. -/
  | structure (shape : String) (members : List (String × Layout))
  | list (type : FieldType) (element : Layout)
  | map (type : FieldType) (value : Layout)
  deriving Repr, Inhabited

namespace ServiceModel

/-- Enters a structure: the path is extended, unless the structure is on it already. -/
def enter (path : List String) (shape : String) : Result (List String) :=
  if path.contains shape then .error (.shapeCycle (path ++ [shape])) else .ok (path ++ [shape])

/-- The layout of a shape inside the structures of `path`, at most `depth` levels deep; none when
the shape has no type. -/
def layoutWithin (m : ServiceModel) :
    (depth : Nat) → (path : List String) → Shape → Result (Option Layout)
  | 0, _, _ => .ok none
  | depth + 1, path, s => do
    match ← m.shapeType s with
    | none => return none
    | some type =>
      match s.kind, type with
      | .scalar t, _ => return some (.scalar t)
      | .structure members, _ =>
        let path ← enter path s.name
        let parts ← members.mapM fun f =>
          match m.shape? f.target with
          | none => pure none
          | some target => do return (← m.layoutWithin depth path target).map fun l => (f.name, l)
        return some (.structure s.name (parts.filterMap id))
      | .list element, .list elementType => do
        let target ← m.resolve element (s.name ++ ".member")
        return (← m.layoutWithin depth path target).map (.list elementType)
      | .map _ value, .map _ valueType => do
        let target ← m.resolve value (s.name ++ ".value")
        return (← m.layoutWithin depth path target).map (.map valueType)
      | _, _ => return none

/-- The layout of a shape inside the structures of `path`. A path never repeats a name, and lists
and maps that do not contain themselves nest no deeper than the number of shapes. -/
def layout (m : ServiceModel) (path : List String) (s : Shape) : Result (Option Layout) :=
  m.layoutWithin ((m.shapes.size + 3) * (m.shapes.size + 3)) path s

end ServiceModel

end ResourceGen
