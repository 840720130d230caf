import ResourceGen.Config
import ResourceGen.Naming
import ResourceGen.Pattern.Engine
import ResourceGen.ServiceModel

/-!
# Classification of operations

Operations are indexed by the role they play for a resource. A classifier reads the role and
the resource off the name of an operation; `Classifier.byConvention` knows the usual verbs and
plurals. Configured overrides come before the classifier: the exact name first, then the
patterns in order.

`OperationIndex.ofModel` visits the operations in key order; of two operations with one role
for one resource the later stays.

What a pattern is and what it matches is for a pattern engine to say.
-/

namespace ResourceGen

/-- The role an operation plays and the resource it is about. -/
abbrev Classifier := String → Option (Role × String)

namespace Classifier

/-- The part of a name behind a verb, if it starts a new word. -/
def resourceAfter? (verb name : String) : Option String :=
  if verb.toList.isPrefixOf name.toList then
    match name.toList.drop verb.length with
    | c :: rest => if Text.isUppercase c then some (String.ofList (c :: rest)) else none
    | [] => none
  else none

/-- The part of a name before the ending `Attributes`, if there is any. -/
def beforeAttributes? (name : String) : Option String :=
  let ending := "Attributes".toList
  if ending.isSuffixOf name.toList && name.toList.length > ending.length then
    some (String.ofList (name.toList.take (name.toList.length - ending.length)))
  else none

/-- A name read by a verb that may be followed by a plural. -/
def pluralAware (n : Namer) (many one : Role) (rest : String) : Role × String :=
  if n.isPlural rest then (many, n.singularize rest) else (one, rest)

/-- The classifier that goes by verbs and plurals. -/
def byConvention (n : Namer) : Classifier := fun name =>
  ((resourceAfter? "Create" name).map (pluralAware n .createBatch .create)).orElse fun _ =>
  ((resourceAfter? "Update" name).map (Role.update, ·)).orElse fun _ =>
  ((resourceAfter? "Modify" name).map (Role.update, ·)).orElse fun _ =>
  ((resourceAfter? "Delete" name).map (Role.delete, ·)).orElse fun _ =>
  (((resourceAfter? "Get" name).bind beforeAttributes?).map (Role.getAttributes, ·)).orElse fun _ =>
  (((resourceAfter? "Set" name).bind beforeAttributes?).map (Role.setAttributes, ·)).orElse fun _ =>
  ((resourceAfter? "Describe" name).map (pluralAware n .list .get)).orElse fun _ =>
  ((resourceAfter? "Get" name).map (pluralAware n .list .get)).orElse fun _ =>
  ((resourceAfter? "List" name).map fun rest => (Role.list, n.singularize rest))

end Classifier

section

variable [PatternEngine]

/-- An override by pattern, with the pattern read. -/
structure PatternOverride where
  pattern : PatternEngine.Compiled
  role : Role
  /-- The resource, as a template over the groups of the pattern. -/
  resource : String

/-- The configured overrides. -/
structure Overrides where
  exact : Dict OperationOverride
  patterns : List PatternOverride

namespace Overrides

/-- Reads the pattern of an override. -/
def readPattern (p : OperationPattern) : Result PatternOverride :=
  match PatternEngine.compile? p.pattern with
  | some pattern => .ok ⟨pattern, p.role, p.resource⟩
  | none => .error (.invalidPattern p.pattern)

/-- The overrides of a configuration; the first pattern that is none is reported. -/
def ofConfig (c : Config) : Result Overrides := do
  return ⟨c.operations, ← c.operationPatterns.mapM readPattern⟩

/-- What an override makes of an operation name that its pattern matches. -/
def applyPattern (name : String) (p : PatternOverride) : Option (Role × String) :=
  (PatternEngine.find? p.pattern name).map fun m => (p.role, PatternEngine.expand m p.resource)

/-- The classifier of the overrides alone. -/
def lookup (o : Overrides) : Classifier := fun name =>
  match o.exact.get? name with
  | some e => some (e.role, e.resource)
  | none => o.patterns.findSome? (applyPattern name)

/-- Overrides first, then the given classifier. -/
def before (o : Overrides) (classifier : Classifier) : Classifier := fun name =>
  (o.lookup name).or (classifier name)

end Overrides

end

/-- An operation with its role and resource. -/
structure ClassifiedOperation where
  role : Role
  resource : String
  operation : Operation
  deriving DecidableEq, Repr

/-- The classified operations of a service, in key order. -/
structure OperationIndex where
  entries : List ClassifiedOperation

namespace OperationIndex

/-- The operation with its classification, if it has one and is not left out. -/
def classify (c : Config) (classifier : Classifier) (o : Operation) : Option ClassifiedOperation :=
  if c.isIgnoredOperation o.name then none
  else (classifier o.name).map fun (role, resource) => ⟨role, resource, o⟩

/-- The index of the operations of a model. -/
def ofModel [PatternEngine] (m : ServiceModel) (c : Config) (classifier : Classifier) :
    Result OperationIndex := do
  let overrides ← Overrides.ofConfig c
  return ⟨m.operations.values.filterMap (classify c (overrides.before classifier))⟩

/-- Whether an entry is for a role of a resource. -/
def isFor (role : Role) (resource : String) (e : ClassifiedOperation) : Bool :=
  e.role == role && e.resource == resource

/-- The operation with a role for a resource: the last of the entries for them. -/
def get? (x : OperationIndex) (role : Role) (resource : String) : Option Operation :=
  ((x.entries.filter (isFor role resource)).getLast?).map (·.operation)

/-- The resources with an operation for a role, ascending. -/
def resources (x : OperationIndex) (role : Role) : List String :=
  Dict.sortedKeys ((x.entries.filter (·.role == role)).map (·.resource))

end OperationIndex

end ResourceGen
