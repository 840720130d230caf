import ResourceGen.Code.Declaration
import ResourceGen.Schema

/-!
# Calls to the service

Every resource has a file with the functions that fill the requests of its operations and take
over their responses. A function that fills requests is there when the operation has an input;
one that takes over responses when it has an output that says something of the resource.
-/

namespace ResourceGen

open Code

/-- What a function does for an operation. -/
inductive CallPart where
  /-- It fills the request. -/
  | request
  /-- It takes over the response. -/
  | response
  deriving DecidableEq, Repr

/-- A function for an operation. -/
structure CallFunction where
  role : Role
  operation : String
  part : CallPart
  /-- The shape of the request or response. -/
  shape : String
  program : Program

/-- The name of a role in the names of functions. -/
def Role.functionName : Role → String
  | .get => "ReadOne"
  | .list => "ReadMany"
  | r => r.name

/-- The path of the resource in functions that fill requests. -/
def sourceObject : String := "r.ko"

/-- The variable of a request. -/
def requestVar : String := "res"

/-- The variable of a response. -/
def responseVar : String := "resp"

/-- The variable of the resource in functions that take over responses. -/
def objectVar : String := "ko"

namespace CallFunction

/-- The function as it is written. -/
def toText (kind : String) (f : CallFunction) : String :=
  let body := f.program.codeText 1
  match f.part with
  | .request =>
    let name := "new" ++ f.role.functionName ++ "RequestPayload"
    "\n// " ++ name ++ " returns an SDK-specific struct for the\n" ++
    "// HTTP request payload of the " ++ f.operation ++ " API call\n" ++
    "func (rm *resourceManager) " ++ name ++ "(\n" ++
    "\tctx context.Context,\n\tr *resource,\n" ++
    ") (*svcsdk." ++ f.shape ++ ", error) \x7b\n" ++
    "\tres := &svcsdk." ++ f.shape ++ "\x7b\x7d\n\n" ++ body ++
    "\n\treturn res, nil\n\x7d\n"
  | .response =>
    let name := "set" ++ f.role.functionName ++ "Output"
    "\n// " ++ name ++ " copies the " ++ f.operation ++ " response\n// onto ko\n" ++
    "func (rm *resourceManager) " ++ name ++ "(\n" ++
    "\tko *svcapitypes." ++ kind ++ ",\n\tresp *svcsdk." ++ f.shape ++ ",\n) \x7b\n" ++
    body ++ "\x7d\n"

end CallFunction

namespace Schema

/-- The program that fills the request of a role. -/
def requestProgram (s : Schema) (r : Resource) (role : Role) : Result Program :=
  match role with
  | .getAttributes => s.synthesizer.fillAttributesQuery r sourceObject requestVar
  | _ => s.synthesizer.fillRequest r role sourceObject requestVar

/-- The program that takes over the response of a role; none for a response that says nothing of
the resource. -/
def responseProgram (s : Schema) (r : Resource) (role : Role) : Option (Result Program) :=
  let status := objectVar ++ ".Status"
  match role with
  | .delete | .setAttributes => none
  | .getAttributes => some (s.synthesizer.adoptAttributes r responseVar status)
  | .list => some (s.synthesizer.adoptResponse r role responseVar (.resource objectVar))
  | _ => some (s.synthesizer.adoptResponse r role responseVar (.status status))

/-- The function that fills the request of an operation, if it has an input. -/
def requestFunction (s : Schema) (r : Resource) (role : Role) (o : Operation) :
    Result (Option CallFunction) :=
  match o.input with
  | none => .ok none
  | some shape => (s.requestProgram r role).map fun p => some ⟨role, o.name, .request, shape, p⟩

/-- The function that takes over the response of an operation, if there is anything in it. -/
def responseFunction (s : Schema) (r : Resource) (role : Role) (o : Operation) :
    Result (Option CallFunction) :=
  match o.output, s.responseProgram r role with
  | some shape, some program => program.map fun p => some ⟨role, o.name, .response, shape, p⟩
  | _, _ => .ok none

/-- The functions for the operation with a role. -/
def roleFunctions (s : Schema) (r : Resource) (role : Role) : Result (List CallFunction) := do
  match r.operations.get? role with
  | none => return []
  | some o =>
    let request ← s.requestFunction r role o
    let response ← s.responseFunction r role o
    return request.toList ++ response.toList

/-- The functions of a resource in the order of their roles. -/
def callFunctions (s : Schema) (r : Resource) : Result (List CallFunction) := do
  return (← Role.bound.mapM (s.roleFunctions r)).flatten

/-- The path of the package of the service's own types. -/
def sdkPath (s : Schema) : String := "github.com/aws/aws-sdk-go/service/" ++ s.model.packageName

/-- The path of the package of the resource types. -/
def apiTypesPath (s : Schema) : String :=
  "github.com/aws-controllers-k8s/" ++ s.model.packageName ++ "-controller/apis/v1alpha1"

/-- The imports of a file with the given functions. -/
def callImports (s : Schema) (functions : List CallFunction) : List Import :=
  let needed := functions.flatMap (·.program.packages)
  let own (name : String) (wanted : Bool) : List Import := if wanted then [⟨none, name⟩] else []
  let shared (name path : String) : List Import :=
    if needed.contains name then [.named name path] else []
  own "context" (functions.any (·.part = .request)) ++
    own timePackage (needed.contains timePackage) ++
    shared coreAlias corePath ++ shared metav1Alias metav1Path ++
    [.named apiTypesAlias s.apiTypesPath, .named sdkAlias s.sdkPath]

/-- The file of the functions of a resource. -/
def callFile (s : Schema) (r : Resource) : Result String := do
  let functions ← s.callFunctions r
  return header ++ "package " ++ r.names.snake ++ "\n\n" ++
    Import.block (s.callImports functions) ++
    String.join (functions.map (CallFunction.toText r.kind)) ++ "\n"

end Schema

end ResourceGen
