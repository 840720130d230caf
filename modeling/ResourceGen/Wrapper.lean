import ResourceGen.ServiceModel

/-!
# Wrapped outputs

Some services answer with a structure around the resource: an output shape with exactly one
member, which is a structure. `unwrap` gives the shape inside and the member that leads to it;
any other shape is its own inside.
-/

namespace ResourceGen

/-- An output shape without its wrapper. -/
structure Unwrapped where
  shape : Shape
  /-- The member of the wrapper, if there was one. -/
  wrapper : Option String
  deriving DecidableEq, Repr

namespace ServiceModel

/-- Takes the wrapper off an output shape. -/
def unwrap (m : ServiceModel) (s : Shape) : Result Unwrapped :=
  match s.members with
  | [f] =>
    if s.usedAsOutput then do
      let inner ← m.resolve f.target (s.name ++ "." ++ f.name)
      return if inner.isStructure then ⟨inner, some f.name⟩ else ⟨s, none⟩
    else .ok ⟨s, none⟩
  | _ => .ok ⟨s, none⟩

end ServiceModel

end ResourceGen
