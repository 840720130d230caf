import ResourceGen.Classification
import ResourceGen.FieldType
import ResourceGen.Identifier

/-!
# Resources

A `Resource` is a Kubernetes resource for a resource of the service: its names, the operations
bound to it, and its fields split into Spec (desired) and Status (observed). Fields are keyed by
the name they have on the wire after renames.
-/

namespace ResourceGen

/-- Where the value of a field lives on the wire. -/
inductive FieldSource where
  /-- A structure member. -/
  | member (name : String)
  /-- A key of the attribute map. -/
  | attributeKey (key : String)
  deriving DecidableEq, Repr

/-- A field of the Spec or the Status. -/
structure Field where
  names : Names
  type : FieldType
  /-- The shape the field comes from; none for keys of the attribute map. -/
  shapeName : Option String
  source : FieldSource
  deriving DecidableEq, Repr

namespace Field

/-- The name of the member or key on the wire. -/
def wireName (f : Field) : String :=
  match f.source with
  | .member name | .attributeKey name => name

/-- The key of the attribute map that holds the field, if one does. -/
def attributeKey? (f : Field) : Option String :=
  match f.source with
  | .attributeKey key => some key
  | .member _ => none

/-- Whether the field is a key of the attribute map. -/
def isAttribute (f : Field) : Bool := f.attributeKey?.isSome

end Field

/-- The operations bound to a resource, at most one for each role. -/
structure ResourceOperations where
  create : Option Operation := none
  readOne : Option Operation := none
  readMany : Option Operation := none
  update : Option Operation := none
  delete : Option Operation := none
  getAttributes : Option Operation := none
  setAttributes : Option Operation := none
  deriving DecidableEq, Repr

namespace ResourceOperations

/-- The operation with a role. -/
def get? (o : ResourceOperations) : Role → Option Operation
  | .create => o.create
  | .get => o.readOne
  | .list => o.readMany
  | .update => o.update
  | .delete => o.delete
  | .getAttributes => o.getAttributes
  | .setAttributes => o.setAttributes
  | .createBatch => none

/-- The operations that an index holds for a resource. -/
def ofIndex (x : OperationIndex) (resource : String) : ResourceOperations where
  create := x.get? .create resource
  readOne := x.get? .get resource
  readMany := x.get? .list resource
  update := x.get? .update resource
  delete := x.get? .delete resource
  getAttributes := x.get? .getAttributes resource
  setAttributes := x.get? .setAttributes resource

end ResourceOperations

/-- A resource. -/
structure Resource where
  names : Names
  plural : String
  operations : ResourceOperations
  spec : Dict Field := .empty
  status : Dict Field := .empty
  primaryIdentifier : Option PrimaryIdentifier := none
  /-- The key of the attribute map that holds the owning account. -/
  ownerAccountId : Option String := none
  /-- Packages that the types of the fields need: alias by path. -/
  typeImports : Dict String := .empty
  deriving DecidableEq, Repr

/-- The path of the package of Kubernetes meta types. -/
def metav1Path : String := "k8s.io/apimachinery/pkg/apis/meta/v1"

/-- The alias of the package of Kubernetes meta types. -/
def metav1Alias : String := "metav1"

namespace Resource

/-- The kind of the resource. -/
def kind (r : Resource) : String := r.names.camel

/-- The name of the resource in the names of operations. -/
def name (r : Resource) : String := r.names.raw

/-- Whether the resource goes by a kind or by a name. -/
def answersTo (r : Resource) (name : String) : Bool := r.kind == name || r.name == name

/-- Adds a field to the Spec. -/
def addSpecField (r : Resource) (f : Field) : Resource :=
  { r with spec := r.spec.insert f.names.raw f }

/-- Adds a package. -/
def addTypeImport (r : Resource) (path name : String) : Resource :=
  { r with typeImports := r.typeImports.insert path name }

/-- Adds a field to the Status, with the package that its type needs. -/
def addStatusField (r : Resource) (f : Field) : Resource :=
  let r := if f.type.containsDateTime then r.addTypeImport metav1Path metav1Alias else r
  { r with status := r.status.insert f.names.raw f }

/-- Binds the primary identifier, unless one is bound already. -/
def bindPrimaryIdentifier (r : Resource) (p : PrimaryIdentifier) : Resource :=
  { r with primaryIdentifier := r.primaryIdentifier.or (some p) }

/-- Whether an output member holds the ARN of the resource. -/
def isArnMember (r : Resource) (member : String) : Bool :=
  (match r.primaryIdentifier with
    | some (.member _ bound) => bound == member
    | _ => false) || ResourceGen.isArnMember r.name member

end Resource

end ResourceGen
