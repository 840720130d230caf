import ResourceGen.Text.Quoted

/-!
# Accessors

A path from a variable through fields and map keys. `toText` writes it the way Go does, and
`parse` reads a dotted path.
-/

namespace ResourceGen

/-- One step of a path. -/
inductive Segment where
  /-- `.Name` -/
  | field (name : String)
  /-- `["key"]` -/
  | key (key : String)
  deriving DecidableEq, Repr

namespace Segment

/-- The name by which the step is looked up. -/
def name : Segment → String
  | field n | key n => n

/-- Whether the step is a field of a given name. -/
def isField (n : String) : Segment → Bool
  | field m => m == n
  | key _ => false

/-- The step as Go writes it. -/
def toText : Segment → String
  | field n => "." ++ n
  | key k => "[" ++ Text.quoted k ++ "]"

end Segment

/-- A variable and the steps from it. -/
structure Accessor where
  root : String
  segments : List Segment
  deriving DecidableEq, Repr

namespace Accessor

/-- A variable itself. -/
def var (name : String) : Accessor := ⟨name, []⟩

/-- One field further. -/
def field (a : Accessor) (name : String) : Accessor :=
  { a with segments := a.segments ++ [.field name] }

/-- One map key further. -/
def key (a : Accessor) (k : String) : Accessor := { a with segments := a.segments ++ [.key k] }

/-- The pieces of a text between dots, empty ones left out; `current` is the open one, reversed. -/
def pieces : (current : List Char) → List Char → List String
  | [], [] => []
  | current, [] => [String.ofList current.reverse]
  | current, c :: rest =>
    if c == '.' then
      (if current.isEmpty then pieces [] rest
      else String.ofList current.reverse :: pieces [] rest)
    else pieces (c :: current) rest

/-- Reads a dotted path. -/
def parse (path : String) : Accessor :=
  match pieces [] path.toList with
  | [] => ⟨"", []⟩
  | root :: rest => ⟨root, rest.map .field⟩

/-- The path without its last step; none when there is no step. -/
def parent? (a : Accessor) : Option Accessor :=
  if a.segments.isEmpty then none else some { a with segments := a.segments.dropLast }

/-- The last step. -/
def last? (a : Accessor) : Option Segment := a.segments.getLast?

/-- Whether some step is a field of a given name. -/
def containsField (a : Accessor) (name : String) : Bool := a.segments.any (Segment.isField name)

/-- The path as Go writes it. -/
def toText (a : Accessor) : String := a.root ++ String.join (a.segments.map Segment.toText)

end Accessor

end ResourceGen
