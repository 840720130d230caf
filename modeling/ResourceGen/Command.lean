import ResourceGen.CommandLine
import ResourceGen.Config.Reading
import ResourceGen.Host
import ResourceGen.Json.Reader
import ResourceGen.Pattern.Template
import ResourceGen.ServiceModel.Reading

/-!
# Commands

What the commands do on a host: read models and configurations, tell the user what is in them,
and generate. A command that fails says what it could not do, with the cause if there is one. To
generate every service, one that fails is skipped with a notice.

The commands are written for any pattern engine and any document readers. The program takes those of
this library (`PatternEngine.standard`, `DocumentReader.standard`).
-/

namespace ResourceGen

/-- What a command could not do, and why. -/
structure Failure where
  task : String
  cause : Option GeneratorError := none
  deriving DecidableEq, Repr

/-- The failure as one line. -/
def Failure.toLine (f : Failure) : String :=
  f.task ++ (f.cause.map fun e => ": " ++ e.message).getD ""

/-- What a command gives on a host. -/
abbrev Attempt (m : Type → Type) := ExceptT Failure m

namespace Command

variable {m : Type → Type} [Monad m]

/-- Takes a result, or fails at a task. -/
def orFail {α : Type} (task : String) (r : Result α) : Attempt m α :=
  match r with
  | .ok a => pure a
  | .error e => throw ⟨task, some e⟩

/-! ## Input -/

/-- The model that the content of a file gives. -/
def modelOf [DocumentReader] (format : Option ModelFormat) (content : Option String) :
    Result ServiceModel :=
  match content with
  | none => .error (.unreadableModel .undetected)
  | some text => ServiceModel.ofText format text

/-- Loads the model of a file. -/
def loadModel [DocumentReader] (h : Host m) (path : String) (format : Option ModelFormat) :
    Attempt m ServiceModel := do
  orFail ("Failed to load model: " ++ path) (modelOf format (← h.read path))

/-- Loads the configuration of a file; one that is not there is empty. -/
def loadConfig [DocumentReader] (h : Host m) (path : Option String) : Attempt m Config := do
  match path with
  | none => return {}
  | some path =>
    if ← h.isThere path then
      orFail ("Failed to load config: " ++ path) (Config.ofFile (← h.read path))
    else return {}

/-! ## Summaries -/

/-- The line for an operation. -/
def operationLine (o : Operation) : String :=
  "  • " ++ o.name ++ " (" ++ o.input.getD "-" ++ " → " ++ o.output.getD "-" ++ ")"

/-- The lines about a model. -/
def modelSummary (model : ServiceModel) : List String :=
  ["", "✓ Parse successful!", "", "Service Model:", "  Service: " ++ model.serviceId,
    "  Package: " ++ model.packageName] ++
  (model.apiVersion.map ("  API version: " ++ ·)).toList ++
  ["  Shapes: " ++ toString model.shapes.size,
    "  Operations: " ++ toString model.operations.size] ++
  (if model.operations.isEmpty then []
    else ["", "Operations:"] ++ model.operations.values.map operationLine)

/-- The words for where the ARN of a resource comes from. -/
def arnWords : Option PrimaryIdentifier → String
  | some (.member operation name) => operation ++ "." ++ name
  | some (.attributeKey key) => "attribute " ++ key
  | none => "none"

/-- The lines about a resource. -/
def resourceSummary (r : Resource) : List String :=
  let roles := (Role.bound.filter fun role => (r.operations.get? role).isSome).map Role.label
  ["", "  • " ++ r.kind ++ " [" ++ " ".intercalate roles ++ "]",
    "    Spec: " ++ ", ".intercalate r.spec.keys, "    Status: " ++ ", ".intercalate r.status.keys,
    "    ARN: " ++ arnWords r.primaryIdentifier]

/-! ## The commands -/

/-- Shows what a model defines. -/
def runParse [DocumentReader] (h : Host m) (path : String) (format : Option ModelFormat) :
    Attempt m Unit := do
  h.say ("→ Parsing model file: " ++ path)
  h.sayAll (modelSummary (← loadModel h path format))

/-- Shows the resources of a model. -/
def runCrds [PatternEngine] [DocumentReader] (h : Host m) (path : String) (config : Option String)
    (format : Option ModelFormat) : Attempt m Unit := do
  let model ← loadModel h path format
  let config ← loadConfig h config
  let rs ← orFail "Failed to derive resources" ((Schema.standard model config).bind (·.resources))
  h.say ("✓ " ++ toString rs.length ++ " resources in " ++ model.serviceId)
  h.sayAll (rs.flatMap resourceSummary)

/-- Generates a service and gives the paths of the files written. -/
def generateService [PatternEngine] (h : Host m) (model : ServiceModel) (config : Config)
    (output : String) : Attempt m (List String) := do
  let task := "Failed to generate " ++ model.serviceId
  let schema ← orFail task (Schema.standard model config)
  orFail task (← h.generate schema output)

/-- Generates one service. -/
def runGenerate [PatternEngine] [DocumentReader] (h : Host m) (path : String)
    (config : Option String) (format : Option ModelFormat) (output : String) : Attempt m Unit := do
  h.say ("→ Parsing model: " ++ path)
  let model ← loadModel h path format
  let config ← loadConfig h config
  h.say ("→ Generating " ++ model.serviceId ++ " resources...")
  let written ← generateService h model config output
  h.sayAll (["", "✓ Generation complete!", "", "Generated files:"] ++ written.map ("  📄 " ++ ·))

/-! ## Every service -/

/-- What became of the models of a directory. -/
structure Tally where
  generated : Nat := 0
  skipped : Nat := 0
  deriving DecidableEq, Repr

/-- Whether a model is among the services to include. -/
def isWanted (model : ServiceModel) : Option (List String) → Bool
  | none => true
  | some names => names.any fun n =>
      sameIgnoringCase n model.packageName || sameIgnoringCase n model.serviceId

/-- The last name of a path. -/
def fileName (path : String) : String := (Path.pieces path).getLastD ""

/-- The paths of all models below a directory, in order. -/
def discover (h : Host m) (directory : String) : Attempt m (List String) := do
  if ← h.isDirectory directory then
    return (← h.filesBelow directory).filter fun p => Path.hasExtension (fileName p) "json"
  else throw ⟨"Not a directory: " ++ directory, none⟩

/-- The configuration file of a service, if there is one. -/
def serviceConfig (h : Host m) (configs : Option String) (model : ServiceModel) :
    m (Option String) := do
  match configs with
  | none => return none
  | some directory =>
    let path := Path.joinAll directory [model.packageName, "generator.yaml"]
    return if ← h.isFile path then some path else none

/-- Generates the service of a model; gives the number of files, or nothing when the service is
not wanted. -/
def generateOne [PatternEngine] [DocumentReader] (h : Host m) (path : String)
    (configs : Option String) (filter : Option (List String)) (output : String) :
    Attempt m (Option Nat) := do
  let model ← loadModel h path none
  if isWanted model filter then
    let path ← (serviceConfig h configs model : m (Option String))
    let config ← loadConfig h path
    return some (← generateService h model config (Path.join output model.packageName)).length
  else return none

/-- Enters what became of a model. -/
def enter (h : Host m) (path : String) (t : Tally) : Except Failure (Option Nat) → m Tally
  | .ok (some files) => do
    h.say ("✓ Wrote " ++ toString files ++ " files from " ++ path)
    return { t with generated := t.generated + 1 }
  | .ok none => return t
  | .error f => do
    h.complain ("⚠ Skipping " ++ path ++ ": " ++ f.toLine)
    return { t with skipped := t.skipped + 1 }

/-- Generates the services of models in order, of which `total` are found and `done` are past. -/
def generateEach [PatternEngine] [DocumentReader] (h : Host m) (configs : Option String)
    (filter : Option (List String)) (output : String) (total : Nat) :
    (done : Nat) → List String → Tally → m Tally
  | _, [], t => pure t
  | done, path :: rest, t => do
    h.say ("→ Parsing model " ++ toString (done + 1) ++ "/" ++ toString total ++ ": " ++ path)
    let t ← enter h path t (← (generateOne h path configs filter output).run)
    generateEach h configs filter output total (done + 1) rest t

/-- The lines at the end of generating every service. -/
def tallySummary (t : Tally) (output : String) : List String :=
  (if t.skipped > 0 then
      ["", "⚠ Skipped " ++ toString t.skipped ++ " model(s) due to errors"]
    else []) ++
  ["", "✓ Generated " ++ toString t.generated ++ " services into " ++ output]

/-- Generates every service with a model below a directory. -/
def runGenerateAll [PatternEngine] [DocumentReader] (h : Host m) (models : String)
    (configs : Option String) (filter : Option (List String)) (output : String) :
    Attempt m Unit := do
  h.say ("→ Scanning directory for models: " ++ models)
  let paths ← discover h models
  if paths.isEmpty then throw ⟨"No model files found in " ++ models, none⟩
  else
    let t ← (generateEach h configs filter output paths.length 0 paths {} : m Tally)
    h.sayAll (tallySummary t output)

/-- Runs a command. -/
def run [PatternEngine] [DocumentReader] (h : Host m) : Command → Attempt m Unit
  | .parse model format => runParse h model format
  | .crds model config format => runCrds h model config format
  | .generate model config format output => runGenerate h model config format output
  | .generateAll models configs filter output => runGenerateAll h models configs filter output

end Command

/-! ## The program -/

/-- The readers of this library. -/
instance DocumentReader.standard : DocumentReader where
  json? := Json.read? Json.documentDepth
  yaml? := Yaml.Document.ofText?

namespace CommandLine

/-- The line that tells the version. -/
def versionLine : String := "ack-generate 0.2.0"

/-- How the program is used. -/
def usage : List String := [
  "Generate ACK resources from AWS API models",
  "",
  "Usage: ack-generate [OPTIONS] <COMMAND>",
  "",
  "Commands:",
  "  parse         Parse a model file and display the shapes and operations it defines",
  "  crds          Show the resources derived from a model",
  "  generate      Generate Go sources for one service",
  "  generate-all  Generate Go sources for every model found in a directory"]

/-- The lines for a failure. -/
def failureLines (f : Failure) : List String :=
  ["Error: " ++ f.task] ++
    (f.cause.map fun e => ["", "Caused by:", "    " ++ e.message]).getD []

/-- Does what the arguments ask for and gives the exit code. -/
def execute [PatternEngine] [DocumentReader] {m : Type → Type} [Monad m] (h : Host m)
    (arguments : List String) : m Nat := do
  match read arguments with
  | .error .version => do
    h.say versionLine
    return 0
  | .error .help => do
    h.sayAll usage
    return 0
  | .error .misuse => do
    h.complainAll usage
    return 2
  | .ok command =>
    match ← (command.run h).run with
    | .ok _ => return 0
    | .error f => do
      h.complainAll (failureLines f)
      return 1

end CommandLine

end ResourceGen
