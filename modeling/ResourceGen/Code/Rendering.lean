import ResourceGen.Code.Syntax
import ResourceGen.Identifier
import ResourceGen.Program
import ResourceGen.Resource

/-!
# Programs in Go

`Program.toCode` gives the Go statements of a program. A request is filled through the setters of
its type, a resource by plain assignment, where the metadata gets its own types. A temporary with
a scalar that is no blob is handed on by its address, since elements are pointers.

`Program.packages` lists the packages that the code needs besides those of the two families of
types.
-/

namespace ResourceGen.Code

/-! ## Packages -/

/-- The alias of the package of the service's own types. -/
def sdkAlias : String := "svcsdk"

/-- The alias of the package of the resource types. -/
def apiTypesAlias : String := "svcapitypes"

/-- The alias of the package of the types that all resources share. -/
def coreAlias : String := "ackv1alpha1"

/-- The package of timestamps in requests. -/
def timePackage : String := "time"

/-- The alias of the package of structures on the side that is written. -/
def structsAlias : Direction → String
  | .outbound => sdkAlias
  | .inbound => apiTypesAlias

/-- The package of timestamps on the side that is written. -/
def timeAlias : Direction → String
  | .outbound => timePackage
  | .inbound => metav1Alias

/-- The type of timestamps on the side that is written. -/
def timeType (d : Direction) : String := timeAlias d ++ ".Time"

/-- A type of the package that all resources share. -/
def coreType (name : String) : TypeExpr := .named (coreAlias ++ "." ++ name)

/-! ## Values -/

/-- The type of a field on the side that is written. -/
def fieldType (d : Direction) (t : FieldType) : TypeExpr :=
  .ofField (structsAlias d ++ ".") (timeType d) t

/-- The type of a scalar on the side that is written. -/
def scalarType (d : Direction) : ScalarType → TypeExpr
  | .string => .named "string"
  | .integer | .long => .named "int64"
  | .float | .double => .named "float64"
  | .boolean => .named "bool"
  | .timestamp => .named (timeType d)
  | .blob => .slice (.named "byte")

/-- A timestamp of a resource with the time at a path. -/
def wrappedTime (source : Accessor) : Expr :=
  .withMember (.named (timeType .inbound)) "Time" (.deref (.path source))

/-- The scalar that a path points to. -/
def scalarValue (d : Direction) (source : Accessor) : ScalarType → Expr
  | .blob => .path source
  | .timestamp =>
    match d with
    | .outbound => .path (source.field "Time")
    | .inbound => wrappedTime source
  | _ => .deref (.path source)

/-- The path up to its first step through the metadata. -/
def metadataPart (a : Accessor) : Accessor :=
  { a with segments := a.segments.take (a.segments.findIdx (Segment.isField metadataField) + 1) }

/-- Whether a path leads through the metadata to something in it. -/
def throughMetadata (a : Accessor) : Bool :=
  a.containsField metadataField && !a.last?.any (Segment.isField metadataField)

/-- The condition that a path is set. Before a place in the metadata the metadata itself is
looked at. -/
def presence (source : Accessor) : Expr :=
  let set := Expr.isSet (.path source)
  if throughMetadata source then .both (.isSet (.path (metadataPart source))) set else set

/-! ## Assignments -/

/-- The statement that sets part of a request. -/
def setRequest (dest : Accessor) (value : Expr) : Stmt :=
  match dest.parent?, dest.last? with
  | some object, some (.field name) => .callSetter (.path object) name value
  | _, _ => .assign (.path dest) value

/-- The value that an outbound assignment sets. -/
def requestValue (source : Accessor) : AssignKind → Expr
  | .scalar t => scalarValue .outbound source t
  | .value => .path source
  | .resourceArn | .ownerAccountId => .convert (.named "string") (.deref (.path source))

/-- The statements that make the metadata around a place, if there is any around it. -/
def makeMetadata (dest : Accessor) : List Stmt :=
  match dest.parent? with
  | none => []
  | some metadata =>
    [.when (.equal (.path metadata) .nil)
      [.assign (.path metadata) (.address (.empty (coreType "ResourceMetadata")))]]

/-- The statements that set a place in the metadata through a variable of its type. -/
def setMetadata (dest source : Accessor) (var type : String) : List Stmt :=
  makeMetadata dest ++
    [.define var (.convert (coreType type) (.deref (.path source))),
      .assign (.path dest) (.address (.var var))]

/-- The statements of an assignment. -/
def assignment (d : Direction) (dest source : Accessor) (kind : AssignKind) : List Stmt :=
  match d with
  | .outbound => [setRequest dest (requestValue source kind)]
  | .inbound =>
    match kind with
    | .scalar .timestamp => [.assign (.path dest) (.address (wrappedTime source))]
    | .scalar _ | .value => [.assign (.path dest) (.path source)]
    | .resourceArn => setMetadata dest source "arn" "AWSResourceName"
    | .ownerAccountId => setMetadata dest source "ownerAccountID" "AWSAccountID"

/-! ## Statements -/

/-- A temporary as an element: by address when it is one of the scalars. -/
def element (scalars : List String) (var : String) : Expr :=
  if scalars.contains var then .address (.var var) else .var var

mutual

/-- The Go statements of a statement, given the temporaries that hold scalars before it, and
those after it. -/
def statement (d : Direction) (scalars : List String) : Statement → List Stmt × List String
  | .newStruct var typeName =>
    ([.define var (.address (.empty (.named (structsAlias d ++ "." ++ typeName))))], scalars)
  | .newList var item => ([.define var (.empty (fieldType d (.list item)))], scalars)
  | .newMap var value => ([.define var (.empty (fieldType d (.map .string value)))], scalars)
  | .letScalar var source t =>
    ([.declare var (scalarType d t), .assign (.var var) (scalarValue d source t)],
      if t = .blob then scalars else var :: scalars)
  | .ifPresent source body =>
    let (inner, scalars) := statements d scalars body
    ([.when (presence source) inner], scalars)
  | .forEachElement source item body =>
    let (inner, scalars) := statements d scalars body
    ([.range "_" item (.path source) inner], scalars)
  | .forEachEntry source key value body =>
    let (inner, scalars) := statements d scalars body
    ([.range key value (.path source) inner], scalars)
  | .ifSingleElement source item body =>
    let (inner, scalars) := statements d scalars body
    ([.when (.equal (.length (.path source)) (.number 1))
      (.define item (.index (.path source) (.number 0)) :: inner)], scalars)
  | .append list value =>
    ([.assign (.var list) (.append (.var list) (element scalars value))], scalars)
  | .insert map key value =>
    ([.assign (.index (.var map) (.var key)) (element scalars value)], scalars)
  | .assign dest source kind => (assignment d dest source kind, scalars)

/-- The Go statements of statements, given the temporaries that hold scalars before them, and
those after them. -/
def statements (d : Direction) (scalars : List String) : List Statement → List Stmt × List String
  | [] => ([], scalars)
  | s :: rest =>
    let (one, scalars) := statement d scalars s
    let (more, scalars) := statements d scalars rest
    (one ++ more, scalars)

end

/-! ## Needed packages -/

/-- The packages of timestamps, when there are any. -/
def timePackages (d : Direction) (needed : Bool) : List String :=
  if needed then [timeAlias d] else []

/-- The packages that an assignment needs. -/
def assignmentPackages (d : Direction) (kind : AssignKind) : List String :=
  match d, kind with
  | .inbound, .scalar .timestamp => [metav1Alias]
  | .inbound, .resourceArn | .inbound, .ownerAccountId => [coreAlias]
  | _, _ => []

mutual

/-- The packages that a statement needs. -/
def statementPackages (d : Direction) : Statement → List String
  | .newList _ t | .newMap _ t => timePackages d t.containsDateTime
  | .letScalar _ _ t => timePackages d (t = .timestamp)
  | .assign _ _ kind => assignmentPackages d kind
  | .ifPresent _ body | .forEachElement _ _ body | .forEachEntry _ _ _ body
  | .ifSingleElement _ _ body => statementsPackages d body
  | .newStruct _ _ | .append _ _ | .insert _ _ _ => []

/-- The packages that statements need. -/
def statementsPackages (d : Direction) : List Statement → List String
  | [] => []
  | s :: rest => statementPackages d s ++ statementsPackages d rest

end

end ResourceGen.Code

namespace ResourceGen.Program

/-- The Go statements of a program. -/
def toCode (p : Program) : List Code.Stmt := (Code.statements p.direction [] p.statements).1

/-- The Go code of a program at a depth of blocks. -/
def codeText (p : Program) (depth : Nat) : String := Code.Stmt.textOf depth p.toCode

/-- The packages that the code of a program needs besides those of the two families of types,
ascending. -/
def packages (p : Program) : List String :=
  Dict.sortedKeys (Code.statementsPackages p.direction p.statements)

end ResourceGen.Program
