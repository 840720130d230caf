import ResourceGen.DocumentReader
import ResourceGen.Json.Decode

/-!
# API descriptions

The JSON document that describes a service by its metadata, its operations and its typed shapes.
`ApiDocument.ofJson?` reads it and `ApiDocument.toJson` writes every known field back.
-/

namespace ResourceGen

open Json (Value Slot)

/-- What a document says about the service as a whole. -/
structure ApiMetadata where
  apiVersion : Option String
  serviceId : Option String
  serviceAbbreviation : Option String
  endpointPrefix : Option String
  protocol : Option String
  deriving DecidableEq, Repr

/-- A reference to a shape. -/
structure ApiReference where
  shape : String
  /-- The name of the element that wraps a result. -/
  resultWrapper : Option String
  documentation : Option String
  deriving DecidableEq, Repr

/-- An operation of a document. -/
structure ApiOperation where
  input : Option ApiReference
  output : Option ApiReference
  errors : List ApiReference
  documentation : Option String
  deriving DecidableEq, Repr

/-- A shape of any type; which fields count depends on the type. -/
structure ApiShape where
  type : String
  members : Dict ApiReference
  required : List String
  member : Option ApiReference
  key : Option ApiReference
  value : Option ApiReference
  exception : Bool
  fault : Bool
  documentation : Option String
  deriving DecidableEq, Repr

/-- An API description. -/
structure ApiDocument where
  metadata : ApiMetadata
  operations : Dict ApiOperation
  shapes : Dict ApiShape
  documentation : Option String
  deriving DecidableEq, Repr

/-! ## Reading -/

/-- Reads the metadata. -/
def ApiMetadata.ofJson? (v : Value) : Option ApiMetadata := do
  let [version, id, abbreviation, endpoint, protocol] ←
    v.slots? ["apiVersion", "serviceId", "serviceAbbreviation", "endpointPrefix", "protocol"] | none
  return ⟨← version.optional Value.text?, ← id.optional Value.text?,
    ← abbreviation.optional Value.text?, ← endpoint.optional Value.text?,
    ← protocol.optional Value.text?⟩

/-- Reads a reference. -/
def ApiReference.ofJson? (v : Value) : Option ApiReference := do
  let [shape, wrapper, documentation] ← v.slots? ["shape", "resultWrapper", "documentation"] | none
  return ⟨← shape.required Value.text?, ← wrapper.optional Value.text?,
    ← documentation.optional Value.text?⟩

/-- Reads an operation. -/
def ApiOperation.ofJson? (v : Value) : Option ApiOperation := do
  let [input, output, errors, documentation] ←
    v.slots? ["input", "output", "errors", "documentation"] | none
  return ⟨← input.optional ApiReference.ofJson?, ← output.optional ApiReference.ofJson?,
    ← errors.withDefault (Value.toList? ApiReference.ofJson?) [],
    ← documentation.optional Value.text?⟩

/-- Reads a shape. -/
def ApiShape.ofJson? (v : Value) : Option ApiShape := do
  let [type, members, required, member, key, value, exception, fault, documentation] ←
    v.slots? ["type", "members", "required", "member", "key", "value", "exception", "fault",
      "documentation"] | none
  return ⟨← type.required Value.text?,
    ← members.withDefault (Value.toDict? ApiReference.ofJson?) .empty,
    ← required.withDefault (Value.toList? Value.text?) [],
    ← member.optional ApiReference.ofJson?, ← key.optional ApiReference.ofJson?,
    ← value.optional ApiReference.ofJson?, ← exception.withDefault Value.toBool? false,
    ← fault.withDefault Value.toBool? false, ← documentation.optional Value.text?⟩

namespace ApiDocument

/-- Reads a document. -/
def ofJson? (v : Value) : Option ApiDocument := do
  let [metadata, operations, shapes, documentation] ←
    v.slots? ["metadata", "operations", "shapes", "documentation"] | none
  return ⟨← metadata.required ApiMetadata.ofJson?,
    ← operations.withDefault (Value.toDict? ApiOperation.ofJson?) .empty,
    ← shapes.withDefault (Value.toDict? ApiShape.ofJson?) .empty,
    ← documentation.optional Value.text?⟩

/-- Reads the text of a document. -/
def ofText? [DocumentReader] (text : String) : Option ApiDocument :=
  (DocumentReader.json? text).bind ofJson?

/-- The identifier of the service: its own, else the abbreviation, else the endpoint. -/
def serviceId? (d : ApiDocument) : Option String :=
  (d.metadata.serviceId.or d.metadata.serviceAbbreviation).or d.metadata.endpointPrefix

end ApiDocument

end ResourceGen
