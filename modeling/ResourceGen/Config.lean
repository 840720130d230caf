import ResourceGen.Dict
import ResourceGen.Role

/-!
# Configuration

What a service description does not say: which things to leave out, which operations follow no
naming convention, which keys an attribute map carries, and which members have another name.
-/

namespace ResourceGen

/-- Things that are not generated. -/
structure IgnoreConfig where
  resourceNames : List String := []
  operations : List String := []
  shapeNames : List String := []
  deriving DecidableEq, Repr, Inhabited

/-- Binds one operation to a role and a resource, whatever its name. -/
structure OperationOverride where
  role : Role
  resource : String
  deriving DecidableEq, Repr, Inhabited

/-- Binds every operation that matches a pattern to a role and a resource. -/
structure OperationPattern where
  pattern : String
  role : Role
  /-- The resource, in which groups of the pattern may be named. -/
  resource : String
  deriving DecidableEq, Repr, Inhabited

/-- What is known of one key of an attribute map. -/
structure AttributeFieldConfig where
  /-- The key is only observed, so it belongs to the Status. -/
  isReadOnly : Bool := false
  /-- The key holds the ARN of the resource. -/
  isPrimaryIdentifier : Bool := false
  /-- The key holds the owning account. -/
  containsOwnerAccountId : Bool := false
  deriving DecidableEq, Repr, Inhabited

/-- The known keys of an attribute map. -/
structure AttributeMapConfig where
  /-- The member that holds the map in requests and responses. -/
  mapMember : String := "Attributes"
  fields : Dict AttributeFieldConfig := .empty
  deriving DecidableEq, Repr, Inhabited

/-- Members of one operation that have another name in the resource. -/
structure OperationRenames where
  inputFields : Dict String := .empty
  outputFields : Dict String := .empty
  deriving DecidableEq, Repr, Inhabited

/-- The settings of one resource. -/
structure ResourceConfig where
  attributesMap : Option AttributeMapConfig := none
  /-- Renames by operation. -/
  renames : Option (Dict OperationRenames) := none
  deriving DecidableEq, Repr, Inhabited

/-- The configuration of a service. -/
structure Config where
  ignore : IgnoreConfig := {}
  /-- Overrides by the exact name of the operation. -/
  operations : Dict OperationOverride := .empty
  /-- Overrides by pattern, in order. -/
  operationPatterns : List OperationPattern := []
  /-- Settings by the name of the resource. -/
  resources : Dict ResourceConfig := .empty
  deriving DecidableEq, Repr, Inhabited

namespace Config

/-- Whether a resource is left out. -/
def isIgnoredResource (c : Config) (resource : String) : Bool :=
  c.ignore.resourceNames.contains resource

/-- Whether an operation is left out. -/
def isIgnoredOperation (c : Config) (operation : String) : Bool :=
  c.ignore.operations.contains operation

/-- Whether a shape is left out. -/
def isIgnoredShape (c : Config) (shape : String) : Bool := c.ignore.shapeNames.contains shape

/-- The settings of a resource. -/
def resource? (c : Config) (resource : String) : Option ResourceConfig := c.resources.get? resource

/-- The attribute map of a resource, if it has one. -/
def attributesMap? (c : Config) (resource : String) : Option AttributeMapConfig :=
  (c.resource? resource).bind (·.attributesMap)

/-- The renames of an operation of a resource. -/
def renames? (c : Config) (resource operation : String) : Option OperationRenames :=
  ((c.resource? resource).bind (·.renames)).bind (·.get? operation)

/-- The name that an input member has in the resource, if another one is set. -/
def inputRename? (c : Config) (resource operation member : String) : Option String :=
  (c.renames? resource operation).bind (·.inputFields.get? member)

/-- The name that an output member has in the resource, if another one is set. -/
def outputRename? (c : Config) (resource operation member : String) : Option String :=
  (c.renames? resource operation).bind (·.outputFields.get? member)

/-- The name of an input member in the resource. -/
def inputName (c : Config) (resource operation member : String) : String :=
  (c.inputRename? resource operation member).getD member

/-- The name of an output member in the resource. -/
def outputName (c : Config) (resource operation member : String) : String :=
  (c.outputRename? resource operation member).getD member

end Config

end ResourceGen
