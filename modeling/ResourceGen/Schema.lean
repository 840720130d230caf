import ResourceGen.Resource.Derivation
import ResourceGen.Synthesis.Request
import ResourceGen.Synthesis.Response
import ResourceGen.TypeDef

/-!
# Schemas

A `Schema` is a service ready for generation: its model and configuration with the operations
indexed. Everything else that is generated follows from it: the kinds, the resources, the type
definitions and the programs.
-/

namespace ResourceGen

/-- A service with its operations indexed. -/
structure Schema where
  model : ServiceModel
  config : Config
  namer : Namer
  index : OperationIndex

namespace Schema

/-- The schema of a service under a namer and a classifier. -/
def build [PatternEngine] (model : ServiceModel) (config : Config) (namer : Namer)
    (classifier : Classifier) : Result Schema := do
  return ⟨model, config, namer, ← OperationIndex.ofModel model config classifier⟩

/-- The schema of a service under the usual conventions. -/
def standard [PatternEngine] (model : ServiceModel) (config : Config) : Result Schema :=
  build model config .standard (.byConvention .standard)

/-- The names of the resources that are generated, ascending. -/
def resourceNames (s : Schema) : List String :=
  (s.index.resources .create).filter fun r => !s.config.isIgnoredResource r

/-- The kinds of the resources that are generated, ascending. -/
def kinds (s : Schema) : List String :=
  Dict.sortedKeys (s.resourceNames.map fun r => (s.namer.names r).camel)

/-- The types of shapes beside the resources. -/
def types (s : Schema) : TypeResolver := .new s.model s.namer s.kinds

/-- What resources are derived from. -/
def derivation (s : Schema) : DerivationScope := ⟨s.model, s.config, s.namer, s.types⟩

/-- The resources in the order of their kinds. -/
def resources (s : Schema) : Result (List Resource) := do
  let scope := s.derivation
  return sortByKind (← s.resourceNames.mapM (scope.derive s.index))

/-- The first resource that goes by a kind or a name. -/
def resource? (s : Schema) (name : String) : Result (Option Resource) := do
  return (← s.resources).find? (·.answersTo name)

/-- The type definitions in the order of their camel names. -/
def typeDefs (s : Schema) : Result (List TypeDef) := TypeDef.all s.types s.config s.kinds

/-- What programs are made from. -/
def synthesizer (s : Schema) : Synthesizer := ⟨s.config, s.types⟩

end Schema

end ResourceGen
