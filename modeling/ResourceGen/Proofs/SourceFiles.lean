import ResourceGen.Code.Calls
import ResourceGen.Proofs.Result

/-!
# Source files

The files that are generated, as syntax: imports and declarations, of which the text of a file is
the printed form. From the syntax one can tell which packages a file refers to. A package is
referred to by its name before a dot, where a path through a variable has the name of the variable
(`SourceFile.qualifiers`). Comments, the keys of maps and the tags of members are not names, so
nothing is told from them.

Results:
* `Schema.callFile_eq_ok_iff`: the file of the functions of a resource is the text of
  `Schema.callSource`.
* `TypeDef.file_eq`: the file of the type definitions is the text of `TypeDef.source`.
-/

namespace ResourceGen

/-! ## Names before a dot -/

/-- The variable of a path, when a dot follows it. -/
def Accessor.qualifiers (a : Accessor) : List String :=
  match a.segments with
  | .field _ :: _ => [a.root]
  | _ => []

namespace Code

/-- What stands before the first dot of a name, if there is a dot. -/
def qualifier (name : String) : List String :=
  if '.' ∈ name.toList then [String.ofList (name.toList.takeWhile (· ≠ '.'))] else []

/-- The names before a dot in a type. -/
def TypeExpr.qualifiers : TypeExpr → List String
  | named name => qualifier name
  | pointer t | slice t | map t => t.qualifiers

/-- The names before a dot in an expression. -/
def Expr.qualifiers : Expr → List String
  | path a => a.qualifiers
  | nil | number _ => []
  | deref e | address e | length e => e.qualifiers
  | empty type => type.qualifiers
  | withMember type _ e | convert type e => type.qualifiers ++ e.qualifiers
  | append a b | index a b | equal a b | unequal a b | both a b => a.qualifiers ++ b.qualifiers

/-- The names before a dot in an expression with a dot behind it. -/
def Expr.beforeDot : Expr → List String
  | path a => [a.root]
  | e => e.qualifiers

mutual

/-- The names before a dot in a statement. -/
def Stmt.qualifiers : Stmt → List String
  | .define _ value => value.qualifiers
  | .declare _ type => type.qualifiers
  | .assign dest value => dest.qualifiers ++ value.qualifiers
  | .callSetter object _ value =>
    object.beforeDot ++ value.qualifiers
  | .when condition body => condition.qualifiers ++ qualifiersOf body
  | .range _ _ source body => source.qualifiers ++ qualifiersOf body

/-- The names before a dot in statements. -/
def qualifiersOf : List Stmt → List String
  | [] => []
  | s :: rest => s.qualifiers ++ qualifiersOf rest

end

/-! ## Declarations -/

/-- A parameter of a function. -/
structure Param where
  name : String
  type : TypeExpr

/-- The parameter as it is written. -/
def Param.toText (p : Param) : String := p.name ++ " " ++ p.type.toText

/-- A method. -/
structure FuncDecl where
  comment : List String
  receiver : Param
  name : String
  params : List Param
  results : List TypeExpr
  /-- The parts of the body, with an empty line between them. -/
  body : List (List Stmt)
  /-- What the last part of the body returns; nothing where it only ends. -/
  returned : List Expr

namespace FuncDecl

/-- The lines of the parts of the body. -/
def parts (f : FuncDecl) : List String :=
  f.body.map (Stmt.textOf 1) ++
    if f.returned.isEmpty then []
    else [Stmt.line 1 ("return " ++ ", ".intercalate (f.returned.map Expr.toText))]

/-- The method as it is written. -/
def toText (f : FuncDecl) : String :=
  String.join (f.comment.map fun line => "// " ++ line ++ "\n") ++
  "func (" ++ f.receiver.toText ++ ") " ++ f.name ++ "(\n" ++
  String.join (f.params.map fun p => "\t" ++ p.toText ++ ",\n") ++ ") " ++
  (if f.results.isEmpty then ""
    else "(" ++ ", ".intercalate (f.results.map TypeExpr.toText) ++ ") ") ++
  "\x7b\n" ++ "\n".intercalate f.parts ++ "\x7d\n"

/-- The names before a dot in a method. -/
def qualifiers (f : FuncDecl) : List String :=
  f.receiver.type.qualifiers ++ f.params.flatMap (·.type.qualifiers) ++
    f.results.flatMap TypeExpr.qualifiers ++ f.body.flatMap qualifiersOf ++
    f.returned.flatMap Expr.qualifiers

end FuncDecl

/-- A declaration. -/
inductive Decl where
  | method (f : FuncDecl)
  | struct (s : StructDecl)

namespace Decl

/-- The declaration as it is written. -/
def toText : Decl → String
  | method f => f.toText
  | struct s => s.toText

/-- The names before a dot in a declaration. -/
def qualifiers : Decl → List String
  | method f => f.qualifiers
  | struct s => s.fields.flatMap (·.type.qualifiers)

end Decl

/-- The name that a package goes by in a file that imports it. -/
def Import.name (i : Import) : String := i.name?.getD i.path

/-- A source file. -/
structure SourceFile where
  package : String
  imports : List Import
  decls : List Decl

namespace SourceFile

/-- The file as it is written. -/
def toText (f : SourceFile) : String :=
  header ++ "package " ++ f.package ++ "\n" ++
  (if f.imports.isEmpty then "" else "\n" ++ Import.block f.imports) ++
  String.join (f.decls.map fun d => "\n" ++ d.toText)

/-- The names of the imported packages. -/
def imported (f : SourceFile) : List String := f.imports.map Import.name

/-- The names before a dot in a file. -/
def qualifiers (f : SourceFile) : List String := f.decls.flatMap Decl.qualifiers

/-- A package is imported exactly when the file refers to it. -/
def Exact (f : SourceFile) (p : String) : Prop := p ∈ f.imported ↔ p ∈ f.qualifiers

end SourceFile

end Code

open Code

/-! ## Functions for operations -/

/-- A type of the package of the service's own types. -/
def sdkType (name : String) : TypeExpr := .named (sdkAlias ++ "." ++ name)

namespace CallFunction

/-- The variable through which methods of the resource manager reach it. -/
def manager : Param := ⟨"rm", .pointer (.named "resourceManager")⟩

/-- The method of a function. -/
def toDecl (kind : String) (f : CallFunction) : FuncDecl :=
  match f.part with
  | .request =>
    let name := "new" ++ f.role.functionName ++ "RequestPayload"
    { comment := [name ++ " returns an SDK-specific struct for the",
        "HTTP request payload of the " ++ f.operation ++ " API call"]
      receiver := manager
      name := name
      params := [⟨"ctx", .named "context.Context"⟩, ⟨"r", .pointer (.named "resource")⟩]
      results := [.pointer (sdkType f.shape), .named "error"]
      body := [[.define requestVar (.address (.empty (sdkType f.shape)))], f.program.toCode]
      returned := [.var requestVar, .nil] }
  | .response =>
    let name := "set" ++ f.role.functionName ++ "Output"
    { comment := [name ++ " copies the " ++ f.operation ++ " response", "onto ko"]
      receiver := manager
      name := name
      params := [⟨objectVar, .pointer (.named (apiTypesAlias ++ "." ++ kind))⟩,
        ⟨responseVar, .pointer (sdkType f.shape)⟩]
      results := []
      body := [f.program.toCode]
      returned := [] }

set_option maxRecDepth 2000 in
/-- A function is written as its method, behind an empty line. -/
theorem toText_eq (kind : String) (f : CallFunction) :
    f.toText kind = "\n" ++ (f.toDecl kind).toText := by
  obtain ⟨role, operation, part, shape, program⟩ := f
  cases part with
  | request =>
    simp [← String.toList_inj, toText, toDecl, FuncDecl.toText, FuncDecl.parts, manager,
      Param.toText, TypeExpr.toText, sdkType, sdkAlias, Stmt.textOf, Stmt.toText, Stmt.line,
      requestVar, Expr.toText, Expr.var, Accessor.var, Accessor.toText, Program.codeText]
  | response =>
    simp [← String.toList_inj, toText, toDecl, FuncDecl.toText, FuncDecl.parts, manager,
      Param.toText, TypeExpr.toText, sdkType, sdkAlias, apiTypesAlias, objectVar, responseVar,
      Program.codeText]

end CallFunction

namespace Schema

/-- The source of the functions of a resource. -/
def callSource (s : Schema) (r : Resource) (functions : List CallFunction) : SourceFile where
  package := r.names.snake
  imports := s.callImports functions
  decls := functions.map fun f => .method (f.toDecl r.kind)

/-- **The file of the functions of a resource is their source**, with an empty line behind it. -/
theorem callFile_eq_ok_iff {s : Schema} {r : Resource} {text : String} :
    s.callFile r = .ok text ↔
      ∃ functions, s.callFunctions r = .ok functions ∧
        text = (s.callSource r functions).toText ++ "\n" := by
  have htext (functions : List CallFunction) :
      header ++ "package " ++ r.names.snake ++ "\n\n" ++
          Import.block (s.callImports functions) ++
          String.join (functions.map (CallFunction.toText r.kind)) ++ "\n" =
        (s.callSource r functions).toText ++ "\n" := by
    have himports : (s.callImports functions).isEmpty = false := by simp [callImports]
    have hdecls : functions.map (CallFunction.toText r.kind) =
        ((s.callSource r functions).decls.map fun d => "\n" ++ d.toText) := by
      simp [callSource, Decl.toText, CallFunction.toText_eq]
    rw [hdecls, SourceFile.toText]
    simp [callSource, himports, ← String.toList_inj]
  unfold callFile
  rw [Result.bind_eq_ok_iff]
  refine exists_congr fun functions => and_congr_right fun _ => ?_
  rw [Result.pure_eq_ok_iff, htext, eq_comm]

end Schema

/-! ## Type definitions -/

namespace TypeDef

/-- The source of the type definitions of a service. -/
def source (defs : List TypeDef) : SourceFile where
  package := apiPackage
  imports := if defs.any hasDateTime then [.named metav1Alias metav1Path] else []
  decls := defs.map fun d => .struct d.toCode

/-- **The file of the type definitions is their source.** -/
theorem file_eq (defs : List TypeDef) : file defs = (source defs).toText := by
  have hdecls : (defs.map fun d => "\n" ++ d.toCode.toText) =
      ((source defs).decls.map fun d => "\n" ++ d.toText) := by
    simp [source, Decl.toText]
  rw [file, SourceFile.toText, hdecls, source]
  cases defs.any hasDateTime <;> rfl

end TypeDef

end ResourceGen
