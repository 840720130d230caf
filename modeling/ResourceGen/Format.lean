import ResourceGen.DocumentReader
import ResourceGen.Error
import ResourceGen.Text.CaseMap

/-!
# Formats of service models

A model document is an API description or a Smithy model. The format is named by a word
(`ModelFormat.ofWord?`) or found from the top-level keys of the document (`ModelFormat.detect`).
-/

namespace ResourceGen

/-- The format of a model document. -/
inductive ModelFormat where
  | api
  | smithy
  deriving DecidableEq, Repr

namespace ModelFormat

/-- The name of a format. -/
def name : ModelFormat → String
  | api => "api"
  | smithy => "smithy"

/-- The format that a word names, in any case. -/
def ofWord? (word : String) : Result ModelFormat :=
  match Text.lower word with
  | "api" | "json" | "api-2" => .ok api
  | "smithy" => .ok smithy
  | other => .error (.unknownFormat other)

/-- The format of a document: a Smithy model says which version of Smithy it uses, an API
description has metadata. -/
def detect [DocumentReader] (text : String) : Result ModelFormat :=
  match DocumentReader.json? text with
  | none => .error (.malformedModel .undetected)
  | some v =>
    if !v.sound then .error (.malformedModel .undetected)
    else if (v.field? "smithy").isSome then .ok smithy
    else if (v.field? "metadata").isSome then .ok api
    else .error .unrecognisedFormat

end ModelFormat

end ResourceGen
