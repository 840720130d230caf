import ResourceGen.Accessor
import ResourceGen.FieldType

/-!
# Programs

A `Program` copies fields between a resource and a request or response. It is apart from any
target language: renderers turn it into source text, and it runs as it stands on JSON values.
`Program.assignments` lists what it copies where.
-/

namespace ResourceGen

/-- Which side of the API a program writes to. -/
inductive Direction where
  /-- From the resource into a request. -/
  | outbound
  /-- From a response into the resource. -/
  | inbound
  deriving DecidableEq, Repr, Inhabited

/-- How a value is copied. -/
inductive AssignKind where
  /-- A scalar that is present. -/
  | scalar (type : ScalarType)
  /-- A temporary or an entry of an attribute map, as it is. -/
  | value
  /-- The ARN, to or from the metadata of the resource. -/
  | resourceArn
  /-- The owning account, into the metadata of the resource. -/
  | ownerAccountId
  deriving DecidableEq, Repr

/-- A statement. -/
inductive Statement where
  /-- Binds a variable to an empty structure. -/
  | newStruct (var typeName : String)
  /-- Binds a variable to an empty list. -/
  | newList (var : String) (element : FieldType)
  /-- Binds a variable to an empty map with text keys. -/
  | newMap (var : String) (value : FieldType)
  /-- Binds a variable to a copy of a scalar. -/
  | letScalar (var : String) (source : Accessor) (type : ScalarType)
  /-- Runs the body only when the source holds a value. -/
  | ifPresent (source : Accessor) (body : List Statement)
  /-- Runs the body for each element of a list, in order. -/
  | forEachElement (source : Accessor) (element : String) (body : List Statement)
  /-- Runs the body for each entry of a map. -/
  | forEachEntry (source : Accessor) (key value : String) (body : List Statement)
  /-- Runs the body with the element of a list that has exactly one. -/
  | ifSingleElement (source : Accessor) (element : String) (body : List Statement)
  | append (list value : String)
  | insert (map key value : String)
  | assign (dest source : Accessor) (kind : AssignKind)
  deriving Repr, Inhabited

/-- A program. -/
structure Program where
  direction : Direction
  statements : List Statement
  deriving Repr, Inhabited

/-- One assignment of a program, as texts. -/
structure Assignment where
  destination : String
  source : String
  kind : AssignKind
  /-- The number of blocks around it. -/
  depth : Nat
  deriving DecidableEq, Repr

namespace Statement

mutual

/-- The assignments of a statement inside `depth` blocks, in order. -/
def assignments (depth : Nat) : Statement → List Assignment
  | assign dest source kind => [⟨dest.toText, source.toText, kind, depth⟩]
  | append list value => [⟨list, value, .value, depth⟩]
  | insert map key value => [⟨map ++ "[" ++ key ++ "]", value, .value, depth⟩]
  | ifPresent _ body | forEachElement _ _ body | forEachEntry _ _ _ body
  | ifSingleElement _ _ body => assignmentsOf (depth + 1) body
  | newStruct _ _ | newList _ _ | newMap _ _ | letScalar _ _ _ => []

/-- The assignments of statements inside `depth` blocks, in order. -/
def assignmentsOf (depth : Nat) : List Statement → List Assignment
  | [] => []
  | s :: rest => assignments depth s ++ assignmentsOf depth rest

end

mutual

/-- The variables that a statement binds, reads or writes, in order. -/
def vars : Statement → List String
  | newStruct var _ | newList var _ | newMap var _ => [var]
  | letScalar var source _ => [var, source.root]
  | ifPresent source body => source.root :: varsOf body
  | forEachElement source element body => source.root :: element :: varsOf body
  | forEachEntry source key value body => source.root :: key :: value :: varsOf body
  | ifSingleElement source element body => source.root :: element :: varsOf body
  | append list value => [list, value]
  | insert map key value => [map, key, value]
  | assign dest source _ => [dest.root, source.root]

/-- The variables of statements, in order. -/
def varsOf : List Statement → List String
  | [] => []
  | s :: rest => vars s ++ varsOf rest

end

end Statement

namespace Program

/-- The program that does nothing. -/
def empty (d : Direction) : Program := ⟨d, []⟩

/-- Whether the program does nothing. -/
def isEmpty (p : Program) : Bool := p.statements.isEmpty

/-- Every assignment in order of execution. -/
def assignments (p : Program) : List Assignment := Statement.assignmentsOf 0 p.statements

/-- Every variable of the program. -/
def vars (p : Program) : List String := Statement.varsOf p.statements

end Program

end ResourceGen
