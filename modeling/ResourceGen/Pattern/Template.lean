import ResourceGen.Pattern.Engine
import ResourceGen.Pattern.Reading
import ResourceGen.Pattern.Search

/-!
# Templates

A template names groups of a match. `$name` takes the longest run of letters, digits and
underscores, `${name}` whatever stands in the braces, and `$$` is a dollar sign. A group
that does not exist or took no part is empty, and any other dollar sign stands for itself.

With templates the engine of this library is complete (`PatternEngine.standard`).
-/

namespace ResourceGen

/-- Whether a character may stand in the bare name of a group. -/
def isGroupNameChar (c : Char) : Bool := c.isAlphanum || c == '_'

/-- The number that a group name writes, if it is one. -/
def groupNumber? (name : List Char) : Option Nat :=
  let digits := match name with
    | '+' :: ds => ds
    | ds => ds
  if digits.isEmpty || !digits.all Char.isDigit then none
  else
    let n := digits.foldl (fun n d => n * 10 + (d.toNat - 48)) 0
    if n < UInt64.size then some n else none

/-- The text of the group that a name means. -/
def PatternMatch.referred (m : PatternMatch) (name : List Char) : List Char :=
  match groupNumber? name with
  | some n => (m.group? n).getD []
  | none => (m.named? (String.ofList name)).getD []

/-- The group name behind a dollar sign and the template behind it. -/
def groupReference? (template : List Char) : Option (List Char × List Char) :=
  match template with
  | '\x7b' :: rest =>
    let name := rest.takeWhile (· != '\x7d')
    match rest.drop name.length with
    | _ :: after => some (name, after)
    | [] => none
  | rest =>
    let name := rest.takeWhile isGroupNameChar
    if name.isEmpty then none else some (name, rest.drop name.length)

/-- Fills in a template. -/
def PatternMatch.expandFrom (m : PatternMatch) : (fuel : Nat) → List Char → List Char
  | 0, _ => []
  | _, [] => []
  | fuel + 1, '$' :: '$' :: rest => '$' :: m.expandFrom fuel rest
  | fuel + 1, '$' :: rest =>
    match groupReference? rest with
    | some (name, after) => m.referred name ++ m.expandFrom fuel after
    | none => '$' :: m.expandFrom fuel rest
  | fuel + 1, c :: rest => c :: m.expandFrom fuel rest

/-- Fills in a template with the groups of a match. -/
def PatternMatch.expand (m : PatternMatch) (template : String) : String :=
  String.ofList (m.expandFrom (template.length + 1) template.toList)

/-- The engine of this library. -/
instance PatternEngine.standard : PatternEngine where
  Compiled := NamedPattern
  Match := PatternMatch
  compile? := NamedPattern.ofText?
  find? := NamedPattern.find?
  expand := PatternMatch.expand

end ResourceGen
