import ResourceGen.Config
import ResourceGen.TypeResolver

/-!
# Type definitions

Structures that resource fields refer to become types of their own. A structure is defined
unless it is an exception, the input or output of an operation, left out by the configuration,
or a resource itself, and unless none of its members has a type.
-/

namespace ResourceGen

/-- A member of a type definition. -/
structure TypeAttribute where
  names : Names
  type : FieldType
  shapeName : String
  deriving DecidableEq, Repr

/-- A structure with a type of its own. -/
structure TypeDef where
  names : Names
  /-- The name of the type. -/
  typeName : String
  /-- Members by their name on the wire. -/
  attributes : Dict TypeAttribute
  deriving DecidableEq, Repr

namespace TypeDef

/-- Whether some member holds a timestamp. -/
def hasDateTime (d : TypeDef) : Bool := d.attributes.values.any (·.type.containsDateTime)

/-- A member of a definition with its name; none without a type. -/
def memberAttribute (types : TypeResolver) (shape : Shape) (m : Member) :
    Result (Option (String × TypeAttribute)) := do
  let target ← types.model.resolve m.target (shape.name ++ "." ++ m.name)
  return (← types.fieldType .resource target).map fun t =>
    (m.name, ⟨types.namer.names m.name, t, target.name⟩)

/-- The members of a structure that have a type, by name; of equal names the last stays. -/
def attributesOf (types : TypeResolver) (shape : Shape) : Result (Dict TypeAttribute) := do
  return Dict.ofList ((← shape.members.mapM (memberAttribute types shape)).filterMap id)

/-- Whether a structure may have a type of its own beside resources of the given kinds. -/
def isCandidate (types : TypeResolver) (config : Config) (kinds : List String) (s : Shape) : Bool :=
  s.isStructure &&
    !(s.exception || types.model.payloadNames.contains s.name || config.isIgnoredShape s.name) &&
    !kinds.contains (types.namer.names s.name).camel

/-- The definition of a structure; none when no member has a type. -/
def ofShape (types : TypeResolver) (s : Shape) : Result (Option TypeDef) := do
  let attributes ← attributesOf types s
  return if attributes.isEmpty then none
    else some ⟨types.namer.names s.name, types.resourceTypeName s.name, attributes⟩

/-- All type definitions of a service in the order of their camel names. -/
def all (types : TypeResolver) (config : Config) (kinds : List String) : Result (List TypeDef) := do
  let shapes := types.model.shapes.values.filter (isCandidate types config kinds)
  let defs := (← shapes.mapM (ofShape types)).filterMap id
  return defs.mergeSort fun a b => a.names.camel ≤ b.names.camel

end TypeDef

end ResourceGen
