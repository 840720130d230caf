/-!
# Paths

A path is a text of names with slashes between. `Path.join` goes on from one path by another;
`Path.names` gives the names that lead to the place.
-/

namespace ResourceGen.Path

/-- One path continued by another; a path from the root stands for itself. -/
def join (base part : String) : String :=
  if part.startsWith '/' || base.isEmpty then part
  else if base.endsWith '/' then base ++ part
  else base ++ "/" ++ part

/-- Several paths in a row. -/
def joinAll (base : String) (parts : List String) : String := parts.foldl join base

/-- The pieces of a text between slashes; `current` is the open one, reversed. -/
def piecesFrom : (current : List Char) → List Char → List String
  | current, [] => [String.ofList current.reverse]
  | current, c :: rest =>
    if c = '/' then String.ofList current.reverse :: piecesFrom [] rest
    else piecesFrom (c :: current) rest

/-- The pieces of a path between slashes. -/
def pieces (path : String) : List String := piecesFrom [] path.toList

/-- Takes one piece of a path: an empty one and a dot stay, two dots go back. -/
def step (done : List String) (piece : String) : List String :=
  if piece = "" || piece = "." then done
  else if piece = ".." then done.dropLast
  else done ++ [piece]

/-- The names that lead from the root to a path that starts at `here`. -/
def names (here : List String) (path : String) : List String :=
  (pieces path).foldl step (if path.startsWith '/' then [] else here)

/-- Whether a path can only be one of a directory, by how it ends. -/
def endsInDirectory (path : String) : Bool :=
  ["", ".", ".."].contains ((pieces path).getLastD "")

/-- The largest number of bytes in a name. -/
def maxNameBytes : Nat := 255

/-- Whether a file or directory can have a name. -/
def isName (name : String) : Bool :=
  name.utf8ByteSize ≤ maxNameBytes && !name.toList.contains '\x00'

/-- Whether a name ends in an extension, which is not all of it. -/
def hasExtension (name extension : String) : Bool :=
  let ending := ("." ++ extension).toList
  ending.isSuffixOf name.toList && ending.length < name.length

end ResourceGen.Path
