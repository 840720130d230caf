import ResourceGen.ApiDocument.Service
import ResourceGen.Format
import ResourceGen.SmithyDocument.Service

/-!
# Reading service models

`ServiceModel.ofText` reads a model document of a given format, or of the format it shows.
-/

namespace ResourceGen.ServiceModel

variable [DocumentReader]

/-- The service model that an API description gives. -/
def ofApiText (text : String) : Result ServiceModel :=
  match ApiDocument.ofText? text with
  | some d => d.toService
  | none => .error (.malformedModel .api)

/-- The service model that a Smithy model gives. -/
def ofSmithyText (text : String) : Result ServiceModel :=
  match SmithyDocument.ofText? text with
  | some d => d.toService
  | none => .error (.malformedModel .smithy)

/-- The service model that a document of a known format gives. -/
def ofFormat : ModelFormat → String → Result ServiceModel
  | .api => ofApiText
  | .smithy => ofSmithyText

/-- The service model that a document gives; without a format the document shows it. -/
def ofText (format : Option ModelFormat) (text : String) : Result ServiceModel :=
  match format with
  | some f => ofFormat f text
  | none => do ofFormat (← ModelFormat.detect text) text

/-- The service model in the content of a file, if the file can be read at all. -/
def ofFile (source : ModelSource) (content : Option String) : Result ServiceModel :=
  match content, source with
  | none, _ => .error (.unreadableModel source)
  | some text, .undetected => ofText none text
  | some text, .api => ofApiText text
  | some text, .smithy => ofSmithyText text

end ResourceGen.ServiceModel
