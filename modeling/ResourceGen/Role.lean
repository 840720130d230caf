import ResourceGen.Error

/-!
# Roles of operations

The part an operation plays for a resource. `Role.ofWord?` reads a word in any case and in its
spellings with an underscore; `Role.ofKey?` reads the exact spellings of a configuration.
-/

namespace ResourceGen

/-- The role an operation plays for a resource. -/
inductive Role where
  | create
  /-- Creates several resources in one call; never a resource's Create. -/
  | createBatch
  /-- Reads one resource. -/
  | get
  /-- Reads many resources. -/
  | list
  | update
  | delete
  | getAttributes
  | setAttributes
  deriving DecidableEq, Repr, Inhabited

namespace Role

/-- The roles that a resource binds operations to. -/
def bound : List Role := [create, get, list, update, delete, getAttributes, setAttributes]

/-- All roles, in their order. -/
def all : List Role :=
  [create, createBatch, get, list, update, delete, getAttributes, setAttributes]

/-- The name of a role. -/
def name : Role → String
  | create => "Create"
  | createBatch => "CreateBatch"
  | get => "Get"
  | list => "List"
  | update => "Update"
  | delete => "Delete"
  | getAttributes => "GetAttributes"
  | setAttributes => "SetAttributes"

/-- The short label of a role in summaries. -/
def label : Role → String
  | create => "C"
  | createBatch => "CB"
  | get => "R"
  | list => "L"
  | update => "U"
  | delete => "D"
  | getAttributes => "GA"
  | setAttributes => "SA"

/-- The role that a lower-case word names. -/
def ofLower? : String → Option Role
  | "create" => some create
  | "createbatch" | "create_batch" => some createBatch
  | "get" | "readone" | "read_one" => some get
  | "list" | "readmany" | "read_many" => some list
  | "update" => some update
  | "delete" => some delete
  | "getattributes" | "get_attributes" => some getAttributes
  | "setattributes" | "set_attributes" => some setAttributes
  | _ => none

/-- The role that a word names, in any case. -/
def ofWord? (word : String) : Result Role :=
  let lower := word.toLower
  match ofLower? lower with
  | some r => .ok r
  | none => .error (.unknownRole lower)

/-- The role that a configuration spells. -/
def ofKey? : String → Option Role
  | "Create" => some create
  | "CreateBatch" => some createBatch
  | "Get" | "ReadOne" => some get
  | "List" | "ReadMany" => some list
  | "Update" => some update
  | "Delete" => some delete
  | "GetAttributes" => some getAttributes
  | "SetAttributes" => some setAttributes
  | _ => none

end Role

end ResourceGen
