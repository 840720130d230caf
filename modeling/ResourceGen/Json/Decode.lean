import ResourceGen.Json.Value

/-!
# Decoding JSON values

A record is read from an object, or from an array that lists its fields in declared order. A
declared field that occurs twice in the object is refused, an unknown one is skipped, and an
array may be shorter than the record but not longer. `Slot` is what a record finds for one of its
fields.

A sum is read from the name of a constant constructor, or from an object with one entry from a
constructor's name to its content (`variant?`).
-/

namespace ResourceGen.Json

/-- What a record finds for one of its fields. -/
abbrev Slot := Option Value

namespace Slot

variable {α : Type}

/-- A field that must be there. -/
def required (s : Slot) (read : Value → Option α) : Option α := s.bind read

/-- A field with a default. -/
def withDefault (s : Slot) (read : Value → Option α) (default : α) : Option α :=
  match s with
  | none => some default
  | some v => read v

/-- A field that may be missing or null. -/
def optional (s : Slot) (read : Value → Option α) : Option (Option α) :=
  match s with
  | none => some none
  | some .null => some none
  | some v => (read v).map some

end Slot

namespace Value

variable {α β : Type}

/-- The value of a field that occurs at most once; nothing at all when it occurs twice. -/
def slot? (entries : List (String × Value)) (name : String) : Option Slot :=
  match entries.filter (·.1 == name) with
  | [] => some none
  | [(_, v)] => some (some v)
  | _ => none

/-- The slots of a record with the given fields. -/
def slots? (names : List String) : Value → Option (List Slot)
  | obj entries => names.mapM (slot? entries)
  | arr items =>
    if items.length ≤ names.length then
      some (items.map some ++ List.replicate (names.length - items.length) none)
    else none
  | _ => none

/-- A truth value. -/
def toBool? : Value → Option Bool
  | bool b => some b
  | _ => none

/-- A list, item by item. -/
def toList? (read : Value → Option α) : Value → Option (List α)
  | arr items => items.mapM read
  | _ => none

/-- A dictionary; of equal keys the last stays. -/
def toDict? (read : Value → Option α) : Value → Option (Dict α)
  | obj entries => do
    let pairs ← entries.mapM fun e => do some (e.1, ← read e.2)
    some (Dict.ofList pairs)
  | _ => none

/-- A value kept as it is, in canonical form. -/
def kept? (v : Value) : Option Value := if v.sound then some v.canonical else none

/-- A constructor's name and its content; a bare name has no content. -/
def variant? : Value → Option (String × Option Value)
  | str name => some (name, none)
  | obj [(name, v)] => some (name, some v)
  | _ => none

/-- Whether the content of a constant constructor is none, or the null that stands for none. -/
def isUnit : Option Value → Bool
  | none => true
  | some v => v.isNull

end Value

end ResourceGen.Json
