import ResourceGen.Dict
import ResourceGen.Error
import ResourceGen.Shape

/-!
# Service models

`ServiceModel` keeps shapes and operations by name, in key order, so every walk over a model is
deterministic. `finish` derives the flags that depend on the whole graph; `resolve` follows a
reference and reports a dangling one.
-/

namespace ResourceGen

/-- A service with its shapes and operations. -/
structure ServiceModel where
  /-- The identifier of the service. -/
  serviceId : String
  /-- The package name in generated code. -/
  packageName : String
  apiVersion : Option String
  shapes : Dict Shape
  operations : Dict Operation
  deriving DecidableEq, Repr, Inhabited

namespace ServiceModel

/-- The package name of a service: its letters A to Z and digits, in lower case. -/
def packageNameOf (serviceId : String) : String :=
  String.ofList ((serviceId.toList.filter Char.isAlphanum).map Char.toLower)

/-- A model without shapes and operations. -/
def new (serviceId : String) : ServiceModel :=
  ⟨serviceId, packageNameOf serviceId, none, .empty, .empty⟩

/-- Adds a shape under its own name. -/
def addShape (m : ServiceModel) (s : Shape) : ServiceModel :=
  { m with shapes := m.shapes.insert s.name s }

/-- Adds an operation under its own name. -/
def addOperation (m : ServiceModel) (o : Operation) : ServiceModel :=
  { m with operations := m.operations.insert o.name o }

/-- The names of all output shapes. -/
def outputNames (m : ServiceModel) : List String := m.operations.values.filterMap (·.output)

/-- Whether a shape is held through a pointer when a member refers to it. -/
def isPointed (s : Shape) : Bool :=
  match s.kind with
  | .scalar t => t ≠ .blob
  | _ => false

/-- The names of the shapes that members hold through a pointer. -/
def pointedNames (m : ServiceModel) : List String :=
  (m.shapes.values.filter isPointed).map (·.name)

/-- Marks the members of a structure that are held through a pointer. -/
def markMembers (pointed : List String) : ShapeKind → ShapeKind
  | .structure ms =>
    .structure (ms.map fun f => { f with indirection := pointed.contains f.target })
  | k => k

/-- Derives the flags that depend on the whole graph: which shapes are outputs and which
members are held through a pointer. -/
def finish (m : ServiceModel) : ServiceModel :=
  let outputs := m.outputNames
  let pointed := m.pointedNames
  { m with
    shapes := m.shapes.mapValues fun _ s =>
      { s with
        usedAsOutput := s.usedAsOutput || outputs.contains s.name
        kind := markMembers pointed s.kind } }

/-- The shape stored under a name. -/
def shape? (m : ServiceModel) (name : String) : Option Shape := m.shapes.get? name

/-- The operation stored under a name. -/
def operation? (m : ServiceModel) (name : String) : Option Operation := m.operations.get? name

/-- The shape that a reference names; `context` says where the reference stands. -/
def resolve (m : ServiceModel) (reference context : String) : Result Shape :=
  match m.shape? reference with
  | some s => .ok s
  | none => .error (.nilShapePointer reference context)

/-- The names of all shapes that are directly the input or output of an operation. -/
def payloadNames (m : ServiceModel) : List String :=
  Dict.sortedKeys (m.operations.values.flatMap fun o => o.input.toList ++ o.output.toList)

end ServiceModel

end ResourceGen
