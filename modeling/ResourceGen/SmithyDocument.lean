import ResourceGen.DocumentReader
import ResourceGen.Json.Decode

/-!
# Smithy models

The JSON form of a Smithy model: shapes by absolute id, each tagged with its type. Types that
carry nothing but traits are listed in `SmithyScalar`; a type that is not known is read as
`SmithyShape.other`.
-/

namespace ResourceGen

open Json (Value Slot)

/-- Trait values by the id of the trait. -/
abbrev Traits := Dict Value

/-- Types whose shapes carry nothing but traits. -/
inductive SmithyScalar where
  | string
  | enum
  | integer
  | intEnum
  | short
  | byte
  | long
  | float
  | double
  | boolean
  | timestamp
  | blob
  | document
  deriving DecidableEq, Repr

/-- A member of a structure. -/
structure SmithyMember where
  target : String
  traits : Traits

/-- The operations bound to a resource and its child resources, by id. -/
structure SmithyResource where
  create : Option String
  put : Option String
  read : Option String
  update : Option String
  delete : Option String
  list : Option String
  operations : List String
  collectionOperations : List String
  resources : List String
  deriving DecidableEq, Repr

/-- A shape of a Smithy model. -/
inductive SmithyShape where
  | service (version : Option String) (operations resources : List String) (traits : Traits)
  | operation (input output : Option String) (errors : List String) (traits : Traits)
  | resource (bindings : SmithyResource)
  | structure (members : Dict SmithyMember) (traits : Traits)
  | union (members : Dict SmithyMember)
  | list (member : String) (traits : Traits)
  /-- A set, which behaves like a list. -/
  | set (member : String) (traits : Traits)
  | map (key value : String) (traits : Traits)
  | scalar (type : SmithyScalar) (traits : Traits)
  /-- Any other type. -/
  | other

/-- A Smithy model. -/
structure SmithyDocument where
  /-- The version of Smithy. -/
  smithy : String
  shapes : Dict SmithyShape
  metadata : Dict Value

namespace SmithyScalar

/-- The tag of a type. -/
def tag : SmithyScalar → String
  | string => "string"
  | .enum => "enum"
  | integer => "integer"
  | intEnum => "intEnum"
  | short => "short"
  | byte => "byte"
  | long => "long"
  | float => "float"
  | double => "double"
  | boolean => "boolean"
  | timestamp => "timestamp"
  | blob => "blob"
  | document => "document"

/-- The type with a given tag. -/
def ofTag? : String → Option SmithyScalar
  | "string" => some string
  | "enum" => some .enum
  | "integer" => some integer
  | "intEnum" => some intEnum
  | "short" => some short
  | "byte" => some byte
  | "long" => some long
  | "float" => some float
  | "double" => some double
  | "boolean" => some boolean
  | "timestamp" => some timestamp
  | "blob" => some blob
  | "document" => some document
  | _ => none

end SmithyScalar

namespace SmithyShape

/-- The traits of a shape whose type carries them. -/
def traits? : SmithyShape → Option Traits
  | service _ _ _ t | operation _ _ _ t | .structure _ t | list _ t | set _ t | map _ _ t
  | scalar _ t => some t
  | resource _ | union _ | other => none

/-! ## Reading -/

/-- Reads trait values. -/
def readTraits (v : Value) : Option Traits := v.toDict? Value.kept?

/-- Reads a reference. -/
def readReference (v : Value) : Option String := do
  let [target] ← v.slots? ["target"] | none
  target.required Value.text?

/-- Reads a member. -/
def readMember (v : Value) : Option SmithyMember := do
  let [target, traits] ← v.slots? ["target", "traits"] | none
  return ⟨← target.required Value.text?, ← traits.withDefault readTraits .empty⟩

/-- Reads the bindings of a resource. -/
def readResource (v : Value) : Option SmithyResource := do
  let [create, put, read, update, delete, many, operations, collection, resources] ←
    v.slots? ["create", "put", "read", "update", "delete", "list", "operations",
      "collection_operations", "resources"] | none
  let references (s : Slot) := s.withDefault (Value.toList? readReference) []
  return ⟨← create.optional readReference, ← put.optional readReference,
    ← read.optional readReference, ← update.optional readReference,
    ← delete.optional readReference, ← many.optional readReference, ← references operations,
    ← references collection, ← references resources⟩

/-- Takes the tag off a tagged value: the entry `type` of an object or the first item of an
array. All parts must be usable, also those that nothing will read. -/
def untag? (v : Value) : Option (String × Value) :=
  if v.sound then
    match v with
    | .obj entries =>
      match entries.filter (·.1 == "type") with
      | [(_, .str tag)] => some (tag, .obj (entries.filter (·.1 != "type")))
      | _ => none
    | .arr (.str tag :: rest) => some (tag, .arr rest)
    | _ => none
  else none

/-- Whether a value can stand for a type without fields. -/
def isBare : Value → Bool
  | .arr items => items.isEmpty
  | _ => true

/-- Reads the content of a shape with a given tag. -/
def ofTagged? (tag : String) (v : Value) : Option SmithyShape :=
  let references (s : Slot) := s.withDefault (Value.toList? readReference) []
  let traitsOf (s : Slot) := s.withDefault readTraits .empty
  let membersOf (s : Slot) := s.withDefault (Value.toDict? readMember) .empty
  match tag with
  | "service" => do
    let [version, operations, resources, traits] ←
      v.slots? ["version", "operations", "resources", "traits"] | none
    return service (← version.optional Value.text?) (← references operations)
      (← references resources) (← traitsOf traits)
  | "operation" => do
    let [input, output, errors, traits] ← v.slots? ["input", "output", "errors", "traits"] | none
    return operation (← input.optional readReference) (← output.optional readReference)
      (← references errors) (← traitsOf traits)
  | "resource" => (readResource v).map resource
  | "structure" => do
    let [members, traits] ← v.slots? ["members", "traits"] | none
    return .structure (← membersOf members) (← traitsOf traits)
  | "union" => do
    let [members] ← v.slots? ["members"] | none
    return union (← membersOf members)
  | "list" => do
    let [member, traits] ← v.slots? ["member", "traits"] | none
    return list (← member.required readReference) (← traitsOf traits)
  | "set" => do
    let [member, traits] ← v.slots? ["member", "traits"] | none
    return set (← member.required readReference) (← traitsOf traits)
  | "map" => do
    let [key, value, traits] ← v.slots? ["key", "value", "traits"] | none
    return map (← key.required readReference) (← value.required readReference) (← traitsOf traits)
  | tag =>
    match SmithyScalar.ofTag? tag with
    | some t => do
      let [traits] ← v.slots? ["traits"] | none
      return scalar t (← traitsOf traits)
    | none => if isBare v then some other else none

/-- Reads a shape. -/
def ofJson? (v : Value) : Option SmithyShape := do
  let (tag, content) ← untag? v
  ofTagged? tag content

end SmithyShape

namespace SmithyDocument

/-- Reads a model. -/
def ofJson? (v : Value) : Option SmithyDocument := do
  let [smithy, shapes, metadata] ← v.slots? ["smithy", "shapes", "metadata"] | none
  return ⟨← smithy.required Value.text?,
    ← shapes.withDefault (Value.toDict? SmithyShape.ofJson?) .empty,
    ← metadata.withDefault (Value.toDict? Value.kept?) .empty⟩

/-- Reads the text of a model. -/
def ofText? [DocumentReader] (text : String) : Option SmithyDocument :=
  (DocumentReader.json? text).bind ofJson?

/-- Whether a shape is a service. -/
def isService : SmithyShape → Bool
  | .service _ _ _ _ => true
  | _ => false

/-- The first service in id order, with its id. -/
def service? (d : SmithyDocument) : Option (String × SmithyShape) :=
  d.shapes.entries.find? fun e => isService e.2

/-- The part of a shape id behind its namespace. -/
def localName (id : String) : String :=
  String.ofList (id.toList.reverse.takeWhile (· != '#')).reverse

end SmithyDocument

end ResourceGen
