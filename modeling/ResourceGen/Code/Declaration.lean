import ResourceGen.Code.Rendering
import ResourceGen.TypeDef

/-!
# Files of declarations

Every resource has a file with its Spec, its Status and the types around them; the type
definitions of a service share one file. `StructDecl` keeps the structures apart from their text,
so the names in a file can be told without reading it.
-/

namespace ResourceGen.Code

/-! ## Parts of files -/

/-- The first line of every file. -/
def header : String := "// Code generated by ack-generate. DO NOT EDIT.\n\n"

/-- The package of the resource types. -/
def apiPackage : String := "v1alpha1"

/-- The path of the package of the types that all resources share. -/
def corePath : String := "github.com/aws-controllers-k8s/runtime/apis/core/v1alpha1"

/-- An imported package. -/
structure Import where
  /-- The name it goes by, when that is not its own. -/
  name? : Option String
  path : String
  deriving DecidableEq, Repr

namespace Import

/-- An import under an alias. -/
def named (name path : String) : Import := ⟨some name, path⟩

/-- The line of an import, behind the end of the line before. -/
def toText (i : Import) : String :=
  "\n\t" ++ (i.name?.map (· ++ " ")).getD "" ++ "\"" ++ i.path ++ "\""

/-- The block of imports. -/
def block (l : List Import) : String := "import (" ++ String.join (l.map toText) ++ "\n)\n"

end Import

/-- A member of a structure. -/
structure StructField where
  name : String
  type : TypeExpr
  /-- The name in JSON, with its options. -/
  tag : String
  comment : List String := []
  deriving DecidableEq, Repr

namespace StructField

/-- A member that JSON may leave out. -/
def ofNames (names : Names) (type : FieldType) : StructField :=
  { name := names.camel, type := .ofField "" (timeType .inbound) type,
    tag := names.camelLower ++ ",omitempty" }

/-- The lines of a member, each behind the end of the line before. -/
def toText (f : StructField) : String :=
  String.join (f.comment.map ("\n\t// " ++ ·)) ++
    "\n\t" ++ f.name ++ " " ++ f.type.toText ++ " `json:\"" ++ f.tag ++ "\"`"

end StructField

/-- A declared structure. -/
structure StructDecl where
  name : String
  fields : List StructField
  deriving DecidableEq, Repr

namespace StructDecl

/-- The declaration of a structure. -/
def toText (s : StructDecl) : String :=
  "type " ++ s.name ++ " struct \x7b" ++ String.join (s.fields.map StructField.toText) ++ "\n\x7d\n"

end StructDecl

end ResourceGen.Code

namespace ResourceGen

open Code

namespace Field

/-- The member of a Spec or Status for a field. -/
def toCode (f : Field) : StructField := .ofNames f.names f.type

end Field

/-! ## Resources -/

namespace Resource

/-- The structure of the Spec. -/
def specStruct (r : Resource) : StructDecl := ⟨r.kind ++ "Spec", r.spec.values.map Field.toCode⟩

/-- The members that every Status has. -/
def commonStatus : List StructField := [
  { name := metadataField, type := .pointer (coreType "ResourceMetadata"),
    tag := "ackResourceMetadata",
    comment := ["All CRs managed by ACK have a common `Status.ACKResourceMetadata` member",
      "that is used to contain resource sync state, account ownership and the",
      "ARN of the resource"] },
  { name := "Conditions", type := .slice (.pointer (coreType "Condition")), tag := "conditions",
    comment := ["All CRs managed by ACK have a common `Status.Conditions` member that",
      "contains a collection of `ackv1alpha1.Condition` objects"] }]

/-- The structure of the Status. -/
def statusStruct (r : Resource) : StructDecl :=
  ⟨r.kind ++ "Status", commonStatus ++ r.status.values.map Field.toCode⟩

/-- The structures around Spec and Status, with the calls that register them. -/
def frame (r : Resource) : String :=
  let kind := r.kind
  "// " ++ kind ++ " is the Schema for the " ++ r.plural ++ " API\n" ++
  "// +kubebuilder:object:root=true\n" ++
  "// +kubebuilder:subresource:status\n" ++
  "type " ++ kind ++ " struct \x7b\n" ++
  "\tmetav1.TypeMeta   `json:\",inline\"`\n" ++
  "\tmetav1.ObjectMeta `json:\"metadata,omitempty\"`\n" ++
  "\tSpec              " ++ kind ++ "Spec   `json:\"spec,omitempty\"`\n" ++
  "\tStatus            " ++ kind ++ "Status `json:\"status,omitempty\"`\n" ++
  "\x7d\n\n" ++
  "// " ++ kind ++ "List contains a list of " ++ kind ++ "\n" ++
  "// +kubebuilder:object:root=true\n" ++
  "type " ++ kind ++ "List struct \x7b\n" ++
  "\tmetav1.TypeMeta `json:\",inline\"`\n" ++
  "\tmetav1.ListMeta `json:\"metadata,omitempty\"`\n" ++
  "\tItems           []" ++ kind ++ " `json:\"items\"`\n" ++
  "\x7d\n\n" ++
  "func init() \x7b\n" ++
  "\tSchemeBuilder.Register(&" ++ kind ++ "\x7b\x7d, &" ++ kind ++ "List\x7b\x7d)\n" ++
  "\x7d\n"

/-- The imports of the file of a resource, by alias; for one alias the last path stays. -/
def imports (r : Resource) : List Import :=
  let byAlias := Dict.ofList (r.typeImports.entries.map fun e => (e.2, e.1))
  ((byAlias.insert coreAlias corePath).insert metav1Alias metav1Path).entries.map fun e =>
    .named e.1 e.2

/-- The file of a resource. -/
def apiFile (r : Resource) : String :=
  header ++ "package " ++ apiPackage ++ "\n\n" ++ Import.block r.imports ++
  "\n// " ++ r.kind ++ "Spec defines the desired state of " ++ r.kind ++ ".\n" ++
  r.specStruct.toText ++
  "\n// " ++ r.kind ++ "Status defines the observed state of " ++ r.kind ++ "\n" ++
  r.statusStruct.toText ++ "\n" ++ r.frame

/-- The names of the types that the file of a resource declares. -/
def declaredTypes (r : Resource) : List String :=
  [r.specStruct.name, r.statusStruct.name, r.kind, r.kind ++ "List"]

end Resource

/-! ## Type definitions -/

namespace TypeDef

/-- The structure of a type definition. -/
def toCode (d : TypeDef) : StructDecl :=
  ⟨d.typeName, d.attributes.values.map fun a => .ofNames a.names a.type⟩

/-- The file of the type definitions of a service. -/
def file (defs : List TypeDef) : String :=
  header ++ "package " ++ apiPackage ++ "\n" ++
  (if defs.any hasDateTime then "\n" ++ Import.block [.named metav1Alias metav1Path] else "") ++
  String.join (defs.map fun d => "\n" ++ d.toCode.toText)

end TypeDef

end ResourceGen
