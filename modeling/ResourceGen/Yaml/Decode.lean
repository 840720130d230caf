import ResourceGen.Dict
import ResourceGen.Yaml.Node

/-!
# Decoding YAML nodes

A record is read from a mapping: a known key may occur once, an unknown one is skipped. A
record, list or dictionary may also be left empty. A text is any scalar, whatever it looks like,
and a truth value is one of six plain words.
-/

namespace ResourceGen.Yaml

/-- The tag of the null value. -/
def nullTag : String := "tag:yaml.org,2002:null"

/-- The tag of truth values. -/
def boolTag : String := "tag:yaml.org,2002:bool"

/-- Whether a plain scalar spells the null value. -/
def spellsNull (text : String) : Bool :=
  text == "null" || text == "Null" || text == "NULL" || text == "~"

/-- The truth value that a scalar spells. -/
def spelledBool? : String → Option Bool
  | "true" | "True" | "TRUE" => some true
  | "false" | "False" | "FALSE" => some false
  | _ => none

namespace Document

variable {α : Type}

/-- The node itself, or what an alias refers to. -/
def resolve (d : Document) : Node → Option Node
  | .reference n => d.targets.lookup n
  | n => some n

/-- Whether a node is left empty. -/
def isEmptyNode : Node → Bool
  | .scalar _ .plain text => text.isEmpty
  | _ => false

/-- The text of a scalar. -/
def text? (d : Document) (n : Node) : Option String := do
  match ← d.resolve n with
  | .scalar _ _ text => some text
  | _ => none

/-- A truth value. -/
def bool? (d : Document) (n : Node) : Option Bool := do
  match ← d.resolve n with
  | .scalar _ .plain text => spelledBool? text
  | .scalar (some tag) .literal text => if tag == boolTag then spelledBool? text else none
  | _ => none

/-- The items of a sequence. -/
def items? (d : Document) (n : Node) : Option (List Node) := do
  match ← d.resolve n with
  | .sequence _ items => some items
  | n => if isEmptyNode n then some [] else none

/-- The entries of a mapping with keys that are texts. -/
def entries? (d : Document) (n : Node) : Option (List (String × Node)) := do
  match ← d.resolve n with
  | .mapping _ entries => entries.mapM fun e => do some (← d.text? e.1, e.2)
  | n => if isEmptyNode n then some [] else none

/-- The value of a field, absent or given once. -/
def slot? (entries : List (String × Node)) (name : String) : Option (Option Node) :=
  match entries.filter (·.1 == name) with
  | [] => some none
  | [(_, n)] => some (some n)
  | _ => none

/-- The fields of a record. -/
def slots? (d : Document) (names : List String) (n : Node) : Option (List (Option Node)) := do
  names.mapM (slot? (← d.entries? n))

/-- A list, item by item. -/
def list? (d : Document) (read : Node → Option α) (n : Node) : Option (List α) := do
  (← d.items? n).mapM read

/-- A dictionary; of equal keys the last stays. -/
def dict? (d : Document) (read : Node → Option α) (n : Node) : Option (Dict α) := do
  let pairs ← (← d.entries? n).mapM fun e => do some (e.1, ← read e.2)
  some (Dict.ofList pairs)

/-- A value that may be null or left empty. -/
def optional? (d : Document) (read : Node → Option α) (n : Node) : Option (Option α) := do
  match ← d.resolve n with
  | .scalar none .plain text =>
    if text.isEmpty || spellsNull text then some none else (read n).map some
  | .scalar (some tag) .plain text =>
    if tag == nullTag then (if spellsNull text then some none else none) else (read n).map some
  | _ => (read n).map some

/-- A constant constructor: its name as a scalar, or as the local tag of an empty or null one. -/
def constant? (d : Document) (n : Node) : Option String := do
  match ← d.resolve n with
  | .scalar tag style text =>
    match tag.map String.toList with
    | some ('!' :: name) =>
      if style = .plain && (text.isEmpty || spellsNull text) then some (String.ofList name)
      else none
    | _ => some text
  | .mapping _ _ | .sequence _ _ | .reference _ => none

/-- A field that must be there. -/
def required (slot : Option Node) (read : Node → Option α) : Option α := slot.bind read

/-- A field with a default. -/
def withDefault (slot : Option Node) (read : Node → Option α) (default : α) : Option α :=
  match slot with
  | none => some default
  | some n => read n

end Document

end ResourceGen.Yaml
