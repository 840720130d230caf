import ResourceGen.Text.Quoted

/-!
# Errors

`GeneratorError` lists the causes for which reading, modelling, synthesis, execution or writing
stops. `message` is the one place that words them; where a message would go on with the words of
a reader or of the system, it ends at its own last word. `isModelIntegrity` marks the faults
that lie in the service model itself.
-/

namespace ResourceGen

/-- The texts a service model is read from, as errors tell them apart. -/
inductive ModelSource where
  /-- A document whose format is to be found out. -/
  | undetected
  | api
  | smithy
  deriving DecidableEq, Repr

/-- The families of errors. -/
inductive ErrorKind where
  | parse
  | generation
  | config
  | nilShapePointer
  | missingInputShape
  | shapeCycle
  | io
  | json
  | yaml
  deriving DecidableEq, Repr

/-- Why generation stops. -/
inductive GeneratorError where
  /-- The text of a model is no JSON document of the expected form. -/
  | malformedModel (source : ModelSource)
  /-- The file of a model cannot be read. -/
  | unreadableModel (source : ModelSource)
  /-- A document has no mark of any known format. -/
  | unrecognisedFormat
  /-- A word names no format. -/
  | unknownFormat (word : String)
  /-- A service description does not say which service it is about. -/
  | noServiceId
  /-- A document defines no service. -/
  | noService
  /-- A list or map lacks one of its references. -/
  | missingReference (shape field : String)
  /-- A bound operation is not defined as one. -/
  | operationNotFound (id : String)
  /-- A word names no role. -/
  | unknownRole (word : String)
  /-- A pattern for operation names is no regular expression. -/
  | invalidPattern (pattern : String)
  /-- The file of a configuration cannot be read. -/
  | unreadableConfig
  /-- The file of a configuration holds no configuration. -/
  | malformedConfig
  /-- A resource has no operation that creates it. -/
  | noCreateOperation (resource : String)
  /-- A path leads through a value that is no object. -/
  | notAnObject (path field : String)
  /-- A program uses a variable without a value. -/
  | unboundVariable (name : String)
  /-- A value is appended to something that is no list. -/
  | notAList (name : String)
  /-- A value is entered into something that is no map. -/
  | notAMap (name : String)
  /-- A map key is no text. -/
  | keyNotText (name : String)
  /-- A directory or file of the output cannot be made. -/
  | unwritableOutput
  /-- A reference names a shape that the model does not define. -/
  | nilShapePointer (shape context : String)
  /-- A Create operation has no input shape. -/
  | missingInputShape (operation : String)
  /-- Containment comes back to a shape on the current path. -/
  | shapeCycle (path : List String)
  /-- A file cannot be used. -/
  | io
  /-- A text is no JSON value of the expected form. -/
  | json
  /-- A text is no YAML value of the expected form. -/
  | yaml
  deriving DecidableEq, Repr

/-- What comes of a computation that can stop. -/
abbrev Result (α : Type) := Except GeneratorError α

namespace GeneratorError

/-- The family of an error. -/
def kind : GeneratorError → ErrorKind
  | malformedModel _ | unreadableModel _ | unrecognisedFormat | unknownFormat _ | noServiceId
  | noService | missingReference _ _ | operationNotFound _ => .parse
  | unknownRole _ | invalidPattern _ | unreadableConfig | malformedConfig => .config
  | noCreateOperation _ | notAnObject _ _ | unboundVariable _ | notAList _ | notAMap _
  | keyNotText _ | unwritableOutput => .generation
  | nilShapePointer _ _ => .nilShapePointer
  | missingInputShape _ => .missingInputShape
  | shapeCycle _ => .shapeCycle
  | io => .io
  | json => .json
  | yaml => .yaml

/-- Whether the service model itself is inconsistent. -/
def isModelIntegrity : GeneratorError → Bool
  | nilShapePointer _ _ | missingInputShape _ | shapeCycle _ => true
  | _ => false

/-- The words for an error, without those of its family. -/
def detail : GeneratorError → String
  | malformedModel .undetected => "Failed to parse model JSON"
  | malformedModel .api => "Failed to parse service model JSON"
  | malformedModel .smithy => "Failed to parse Smithy JSON"
  | unreadableModel .undetected => "Failed to read model file"
  | unreadableModel .api => "Failed to read service model"
  | unreadableModel .smithy => "Failed to read Smithy file"
  | unrecognisedFormat => "Unrecognised model format: expected a `smithy` or `metadata` key"
  | unknownFormat word => "Unknown model format: " ++ word
  | noServiceId => "Service model metadata has no serviceId"
  | noService => "No service shape found in Smithy model"
  | missingReference shape field => "shape " ++ shape ++ " has no " ++ field
  | operationNotFound id => "Operation shape " ++ id ++ " not found"
  | unknownRole word => "unknown operation type: " ++ word
  | invalidPattern pattern => "invalid operation pattern " ++ Text.quoted pattern
  | unreadableConfig => "Failed to read generator config"
  | malformedConfig => "Failed to parse generator config"
  | noCreateOperation resource => resource ++ " has no Create operation"
  | notAnObject path field =>
    "cannot write " ++ path ++ ": parent of " ++ field ++ " is not an object"
  | unboundVariable name => "unbound variable " ++ name
  | notAList name => name ++ " is not a list"
  | notAMap name => name ++ " is not a map"
  | keyNotText name => "map key " ++ name ++ " is not a string"
  | unwritableOutput => "Failed to"
  | nilShapePointer shape context =>
    "found nil Shape pointer: shape " ++ Text.quoted shape ++ " referenced from " ++ context
  | missingInputShape operation => "operation " ++ operation ++ " has no input shape"
  | shapeCycle path => "shape cycle detected: " ++ " -> ".intercalate path
  | io | json | yaml => ""

/-- The words that open the messages of a family. -/
def opening : ErrorKind → String
  | .parse => "Parse error: "
  | .generation => "Generation error: "
  | .config => "Configuration error: "
  | .io => "IO error: "
  | .json => "JSON error: "
  | .yaml => "YAML error: "
  | .nilShapePointer | .missingInputShape | .shapeCycle => ""

/-- The message of an error. -/
def message (e : GeneratorError) : String := opening e.kind ++ e.detail

end GeneratorError

end ResourceGen
