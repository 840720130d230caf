import ResourceGen.Code.Calls
import ResourceGen.Path

/-!
# Generating a service

`Schema.plan` lists what is done on disk to generate a service: for every resource the file of
its declarations and the file of its functions, last the file of the type definitions. A plan
that stops at an error keeps the steps before it.
-/

namespace ResourceGen

/-- One step on disk. -/
inductive FileStep where
  /-- Makes a directory with those around it. -/
  | makeDirectory (path : String)
  | write (path content : String)
  deriving DecidableEq, Repr

namespace FileStep

/-- The path that a step writes to, if it writes a file. -/
def written? : FileStep → Option String
  | makeDirectory _ => none
  | write path _ => some path

end FileStep

/-- Steps on disk, and the error after which there are no more. -/
structure Plan where
  steps : List FileStep
  failed : Option GeneratorError := none

namespace Plan

/-- The paths of all files that the plan writes, in order. -/
def written (p : Plan) : List String := p.steps.filterMap FileStep.written?

/-- Goes on with another plan, unless the first one stops at an error. -/
def andThen (p q : Plan) : Plan :=
  match p.failed with
  | none => ⟨p.steps ++ q.steps, q.failed⟩
  | some _ => p

/-- Goes on with a plan for each item in turn. -/
def forEach {α : Type} (f : α → Plan) (l : List α) : Plan :=
  l.foldr (fun a q => (f a).andThen q) ⟨[], none⟩

/-- Makes a directory. -/
def makeDirectory (path : String) : Plan := ⟨[.makeDirectory path], none⟩

/-- Writes a file whose content may fail to come about. -/
def write (path : String) : Result String → Plan
  | .ok content => ⟨[.write path content], none⟩
  | .error e => ⟨[], some e⟩

end Plan

/-- The directory of the resource types below an output directory. -/
def apisDirectory (output : String) : String := Path.joinAll output ["apis", "v1alpha1"]

/-- The directory of a resource below an output directory. -/
def resourceDirectory (output : String) (r : Resource) : String :=
  Path.joinAll output ["pkg", "resource", r.names.snake]

namespace Schema

/-- The plan for one resource. -/
def resourcePlan (s : Schema) (output : String) (r : Resource) : Plan :=
  let directory := resourceDirectory output r
  let apiPath := Path.join (apisDirectory output) (r.names.snake ++ ".go")
  (Plan.write apiPath (.ok r.apiFile)).andThen <|
  (Plan.makeDirectory directory).andThen <|
  Plan.write (Path.join directory "sdk.go") (s.callFile r)

/-- The plan for the resources. -/
def resourcesPlan (s : Schema) (output : String) : Plan :=
  match s.resources with
  | .ok rs => .forEach (s.resourcePlan output) rs
  | .error e => ⟨[], some e⟩

/-- The plan for a service. -/
def plan (s : Schema) (output : String) : Plan :=
  (Plan.makeDirectory (apisDirectory output)).andThen <|
  (s.resourcesPlan output).andThen <|
  Plan.write (Path.join (apisDirectory output) "types.go") (s.typeDefs.map TypeDef.file)

end Schema

end ResourceGen
