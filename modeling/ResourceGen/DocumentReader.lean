import ResourceGen.Json.Value
import ResourceGen.Yaml.Node

/-!
# Document readers

Service models are written in JSON and configurations in YAML. What a text says is a matter of the
readers of the two languages: `DocumentReader` is all that is asked of them. Nothing is assumed
about readers, so what follows for the commands follows for all of them.
-/

namespace ResourceGen

/-- Readers for the texts of documents. -/
class DocumentReader where
  /-- The value that a text in JSON writes, if it writes one. -/
  json? : String → Option Json.Value
  /-- The document that a text in YAML writes, if it writes no more than one. -/
  yaml? : String → Option Yaml.Document

end ResourceGen
