import ResourceGen.Interchange.Basic
import ResourceGen.Program
import ResourceGen.Program.Execution

/-!
# Interchange: programs and values

Programs in JSON, each statement as an object from its kind to its parts, and back.
-/

namespace ResourceGen.Interchange

open Json (Value)

/-- Writes a step. -/
def segment : Segment → Value
  | .field n => variant "Field" (.str n)
  | .key k => variant "Key" (.str k)

/-- Writes a path. -/
def accessor (a : Accessor) : Value :=
  .obj [("root", .str a.root), ("segments", .arr (a.segments.map segment))]

/-- Writes how a value is copied. -/
def assignKind : AssignKind → Value
  | .scalar t => variant "Scalar" (scalar t)
  | .value => .str "Value"
  | .resourceArn => .str "ResourceArn"
  | .ownerAccountId => .str "OwnerAccountId"

mutual

/-- Writes a statement. -/
def statement : Statement → Value
  | .newStruct var typeName =>
    variant "NewStruct" (.obj [("var", .str var), ("type_name", .str typeName)])
  | .newList var element =>
    variant "NewList" (.obj [("var", .str var), ("elem", fieldType element)])
  | .newMap var value => variant "NewMap" (.obj [("var", .str var), ("value", fieldType value)])
  | .letScalar var source t =>
    variant "Let" (.obj [("var", .str var), ("source", accessor source), ("scalar", scalar t)])
  | .ifPresent source body =>
    variant "IfPresent" (.obj [("source", accessor source), ("body", .arr (statements body))])
  | .forEachElement source element body =>
    variant "ForEachElement"
      (.obj [("source", accessor source), ("iter", .str element), ("body", .arr (statements body))])
  | .forEachEntry source key value body =>
    variant "ForEachEntry"
      (.obj [("source", accessor source), ("key", .str key), ("value", .str value),
        ("body", .arr (statements body))])
  | .ifSingleElement source element body =>
    variant "IfSingleElement"
      (.obj [("source", accessor source), ("elem", .str element), ("body", .arr (statements body))])
  | .append list value => variant "Append" (.obj [("list", .str list), ("value", .str value)])
  | .insert map key value =>
    variant "Insert" (.obj [("map", .str map), ("key", .str key), ("value", .str value)])
  | .assign dest source kind =>
    variant "Assign"
      (.obj [("dest", accessor dest), ("source", accessor source), ("kind", assignKind kind)])

/-- Writes statements. -/
def statements : List Statement → List Value
  | [] => []
  | s :: rest => statement s :: statements rest

end

/-- Writes a direction. -/
def direction : Direction → Value
  | .outbound => .str "Outbound"
  | .inbound => .str "Inbound"

/-- Writes a program. -/
def program (p : Program) : Value :=
  .obj [("direction", direction p.direction), ("statements", .arr (statements p.statements))]

/-- Writes an assignment. -/
def assignment (a : Assignment) : Value :=
  .obj [("destination", .str a.destination), ("source", .str a.source), ("kind", assignKind a.kind),
    ("depth", .int a.depth)]

/-! ## Reading -/

/-- Reads a step. -/
def readSegment (v : Value) : Option Segment :=
  match v with
  | .obj [("Field", .str n)] => some (.field n)
  | .obj [("Key", .str k)] => some (.key k)
  | _ => none

/-- Reads a path. -/
def readAccessor (v : Value) : Option Accessor := do
  let [root, segments] ← v.slots? ["root", "segments"] | none
  return ⟨← root.required Value.text?, ← segments.required (Value.toList? readSegment)⟩

/-- Reads how a value is copied. -/
def readAssignKind (v : Value) : Option AssignKind :=
  match v with
  | .str "Value" => some .value
  | .str "ResourceArn" => some .resourceArn
  | .str "OwnerAccountId" => some .ownerAccountId
  | .obj [("Scalar", t)] => (readScalar t).map .scalar
  | _ => none

/-- Reads a statement of at most `fuel` levels. -/
def readStatement : (fuel : Nat) → Value → Option Statement
  | 0, _ => none
  | fuel + 1, v => do
    let .obj [(kind, parts)] := v | none
    let text (name : String) : Option String := (parts.field? name).bind Value.text?
    let path (name : String) : Option Accessor := (parts.field? name).bind readAccessor
    let type (name : String) : Option FieldType := (parts.field? name).bind readFieldType
    let body : Option (List Statement) :=
      (parts.field? "body").bind (Value.toList? (readStatement fuel))
    match kind with
    | "NewStruct" => return .newStruct (← text "var") (← text "type_name")
    | "NewList" => return .newList (← text "var") (← type "elem")
    | "NewMap" => return .newMap (← text "var") (← type "value")
    | "Let" =>
      return .letScalar (← text "var") (← path "source") (← (parts.field? "scalar").bind readScalar)
    | "IfPresent" => return .ifPresent (← path "source") (← body)
    | "ForEachElement" => return .forEachElement (← path "source") (← text "iter") (← body)
    | "ForEachEntry" =>
      return .forEachEntry (← path "source") (← text "key") (← text "value") (← body)
    | "IfSingleElement" => return .ifSingleElement (← path "source") (← text "elem") (← body)
    | "Append" => return .append (← text "list") (← text "value")
    | "Insert" => return .insert (← text "map") (← text "key") (← text "value")
    | "Assign" =>
      return .assign (← path "dest") (← path "source")
        (← (parts.field? "kind").bind readAssignKind)
    | _ => none

/-- Reads a direction. -/
def readDirection (v : Value) : Option Direction :=
  match v with
  | .str "Outbound" => some .outbound
  | .str "Inbound" => some .inbound
  | _ => none

/-- Reads a program. -/
def readProgram (v : Value) : Option Program := do
  let [direction, statements] ← v.slots? ["direction", "statements"] | none
  return ⟨← direction.required readDirection,
    ← statements.required (Value.toList? (readStatement (v.depth + 1)))⟩

/-! ## Values -/

/-- Reads named values; objects get their keys in order. -/
def readEnv (v : Value) : Option Env := v.canonical.toDict? some

end ResourceGen.Interchange
