import ResourceGen.Layout
import ResourceGen.Program

/-!
# Copying a value

`Copier.copy` gives the statements that copy the value of a layout from one path to another when
it is present. A nested value is built in a temporary and handed upward when it is complete.
Temporaries are numbered in order; the number of the next one is threaded through.

On the side of the resources members have their camel names, on the side of the service their
names on the wire.
-/

namespace ResourceGen

/-- What copying needs to know besides the layout. -/
structure Copier where
  direction : Direction
  types : TypeResolver

namespace Copier

/-- The side that is written. -/
def side (c : Copier) : Side :=
  match c.direction with
  | .outbound => .service
  | .inbound => .resource

/-- The name of a member where it is read. -/
def sourceName (c : Copier) (wire : String) : String :=
  match c.direction with
  | .outbound => (c.types.namer.names wire).camel
  | .inbound => wire

/-- The name of a member where it is written. -/
def destName (c : Copier) (wire : String) : String :=
  match c.direction with
  | .outbound => wire
  | .inbound => (c.types.namer.names wire).camel

/-- A type with its structures named as on the side that is written. -/
def typeOf (c : Copier) (t : FieldType) : FieldType := t.renamed (c.types.typeName c.side)

/-- The name of a temporary. -/
def temporary (n : Nat) : String := "f" ++ toString n

/-- The statement that copies the value of a temporary. -/
def publish (dest : Accessor) (var : String) : Statement := .assign dest (.var var) .value

mutual

/-- Copies the value at `source` to `dest` when it is present. -/
def copy (c : Copier) (dest source : Accessor) : Layout → Nat → List Statement × Nat
  | .scalar t, n => ([.ifPresent source [.assign dest source (.scalar t)]], n)
  | l, n =>
    let var := temporary n
    let (body, n) := c.bind var source l (n + 1)
    ([.ifPresent source (body ++ [publish dest var])], n)

/-- Binds `var` to a copy of the value at `source`. -/
def bind (c : Copier) (var : String) (source : Accessor) : Layout → Nat → List Statement × Nat
  | .scalar t, n => ([.letScalar var source t], n)
  | .structure shape members, n =>
    let (body, n) := c.bindMembers var source members n
    (.newStruct var (c.types.typeName c.side shape) :: body, n)
  | .list type element, n =>
    let iter := var ++ "iter"
    let item := var ++ "elem"
    let (body, n) := c.bind item (.var iter) element n
    ([.newList var (c.typeOf type), .forEachElement source iter (body ++ [.append var item])], n)
  | .map type value, n =>
    let key := var ++ "key"
    let iter := var ++ "valit"
    let item := var ++ "val"
    let (body, n) := c.bind item (.var iter) value n
    ([.newMap var (c.typeOf type),
      .forEachEntry source key iter (body ++ [.insert var key item])], n)

/-- Copies the members of the structure at `source` into `var`. -/
def bindMembers (c : Copier) (var : String) (source : Accessor) :
    List (String × Layout) → Nat → List Statement × Nat
  | [], n => ([], n)
  | (wire, l) :: rest, n =>
    let dest := (Accessor.var var).field (c.destName wire)
    let (one, n) := c.copy dest (source.field (c.sourceName wire)) l n
    let (more, n) := c.bindMembers var source rest n
    (one ++ more, n)

end

end Copier

end ResourceGen
