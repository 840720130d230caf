import ResourceGen.Accessor
import ResourceGen.FieldType

/-!
# Go code

The part of Go that programs are rendered to: types, expressions and statements, and how they
are written. Blocks are indented by tabs.
-/

namespace ResourceGen.Code

/-! ## Types -/

/-- A type. -/
inductive TypeExpr where
  /-- A named type, with its package if it has one. -/
  | named (name : String)
  | pointer (target : TypeExpr)
  | slice (element : TypeExpr)
  /-- A map with text keys. -/
  | map (value : TypeExpr)
  deriving DecidableEq, Repr

namespace TypeExpr

/-- The type as it is written. -/
def toText : TypeExpr → String
  | named name => name
  | pointer target => "*" ++ target.toText
  | slice element => "[]" ++ element.toText
  | map value => "map[string]" ++ value.toText

/-- The type of a field. Names of structures get `structs` in front; `time` is the type of
timestamps. -/
def ofField (structs time : String) : FieldType → TypeExpr
  | .string => pointer (named "string")
  | .integer => pointer (named "int64")
  | .float => pointer (named "float64")
  | .boolean => pointer (named "bool")
  | .dateTime => pointer (named time)
  | .blob => slice (named "byte")
  | .structure name => pointer (named (structs ++ name))
  | .list element => slice (ofField structs time element)
  | .map _ value => map (ofField structs time value)

end TypeExpr

/-! ## Expressions -/

/-- An expression. -/
inductive Expr where
  | path (a : Accessor)
  | nil
  /-- What a pointer points to. -/
  | deref (e : Expr)
  | address (e : Expr)
  /-- A value of a type without any parts given. -/
  | empty (type : TypeExpr)
  /-- A structure with one member given. -/
  | withMember (type : TypeExpr) (member : String) (value : Expr)
  | convert (type : TypeExpr) (e : Expr)
  | append (list item : Expr)
  | index (e key : Expr)
  | length (e : Expr)
  | number (n : Nat)
  | equal (a b : Expr)
  | unequal (a b : Expr)
  | both (a b : Expr)
  deriving DecidableEq, Repr

namespace Expr

/-- A variable. -/
def var (name : String) : Expr := path (.var name)

/-- The expression as it is written. -/
def toText : Expr → String
  | path a => a.toText
  | nil => "nil"
  | deref e => "*" ++ e.toText
  | address e => "&" ++ e.toText
  | empty type => type.toText ++ "\x7b\x7d"
  | withMember type member value =>
    type.toText ++ "\x7b" ++ member ++ ": " ++ value.toText ++ "\x7d"
  | convert type e => type.toText ++ "(" ++ e.toText ++ ")"
  | append list item => "append(" ++ list.toText ++ ", " ++ item.toText ++ ")"
  | index e key => e.toText ++ "[" ++ key.toText ++ "]"
  | length e => "len(" ++ e.toText ++ ")"
  | number n => toString n
  | equal a b => a.toText ++ " == " ++ b.toText
  | unequal a b => a.toText ++ " != " ++ b.toText
  | both a b => a.toText ++ " && " ++ b.toText

/-- The condition that an expression is not nil. -/
def isSet (e : Expr) : Expr := unequal e nil

end Expr

/-! ## Statements -/

/-- A statement. -/
inductive Stmt where
  /-- Declares a variable by its value. -/
  | define (var : String) (value : Expr)
  /-- Declares a variable by its type. -/
  | declare (var : String) (type : TypeExpr)
  | assign (dest value : Expr)
  /-- Calls the setter of a member. -/
  | callSetter (object : Expr) (member : String) (value : Expr)
  | when (condition : Expr) (body : List Stmt)
  /-- A loop over keys and values; a key that is not needed is `_`. -/
  | range (key value : String) (source : Expr) (body : List Stmt)
  deriving Repr

namespace Stmt

/-- A line of code at a depth of blocks. -/
def line (depth : Nat) (text : String) : String :=
  String.ofList (List.replicate depth '\t') ++ text ++ "\n"

mutual

/-- The statement as it is written at a depth of blocks. -/
def toText (depth : Nat) : Stmt → String
  | define var value => line depth (var ++ " := " ++ value.toText)
  | declare var type => line depth ("var " ++ var ++ " " ++ type.toText)
  | assign dest value => line depth (dest.toText ++ " = " ++ value.toText)
  | callSetter object member value =>
    line depth (object.toText ++ ".Set" ++ member ++ "(" ++ value.toText ++ ")")
  | when condition body =>
    line depth ("if " ++ condition.toText ++ " \x7b") ++
      textOf (depth + 1) body ++ line depth "\x7d"
  | range key value source body =>
    line depth ("for " ++ key ++ ", " ++ value ++ " := range " ++ source.toText ++ " \x7b") ++
      textOf (depth + 1) body ++ line depth "\x7d"

/-- Statements as they are written at a depth of blocks. -/
def textOf (depth : Nat) : List Stmt → String
  | [] => ""
  | s :: rest => toText depth s ++ textOf depth rest

end

end Stmt

end ResourceGen.Code
