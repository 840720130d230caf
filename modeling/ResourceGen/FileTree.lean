import ResourceGen.Dict
import ResourceGen.Path

/-!
# File trees

Directories and files in memory. A file is written into a directory that exists; directories are
made with those around them.
-/

namespace ResourceGen

/-- A file, or a directory with its entries in the order of their names. -/
inductive FileTree where
  | file (content : String)
  | directory (entries : List (String × FileTree))
  deriving Inhabited, Repr

namespace FileTree

/-- A directory without entries. -/
def empty : FileTree := directory []

/-- Whether there is a directory. -/
def isDirectory : FileTree → Bool
  | directory _ => true
  | file _ => false

/-- The content of a file. -/
def content? : FileTree → Option String
  | file content => some content
  | directory _ => none

/-- What stands at a place. -/
def get? : FileTree → List String → Option FileTree
  | t, [] => some t
  | directory entries, name :: rest => (Entries.get? entries name).bind fun t => t.get? rest
  | file _, _ :: _ => none

/-- Makes the directory at a place with those around it; nothing when a file is in the way or a
name cannot be given. -/
def makeDirectory? : FileTree → List String → Option FileTree
  | directory entries, [] => some (directory entries)
  | directory entries, name :: rest =>
    if Path.isName name then
      (((Entries.get? entries name).getD empty).makeDirectory? rest).map fun t =>
        directory (Entries.insert entries name t)
    else none
  | file _, _ => none

/-- Writes a file at a place; nothing when its directory does not exist, when a directory is in
the way or when a name cannot be given. -/
def write? (content : String) : FileTree → List String → Option FileTree
  | directory entries, [name] =>
    if Path.isName name && !(Entries.get? entries name).any isDirectory then
      some (directory (Entries.insert entries name (file content)))
    else none
  | directory entries, name :: rest =>
    (Entries.get? entries name).bind fun t =>
      (write? content t rest).map fun t => directory (Entries.insert entries name t)
  | directory _, [] => none
  | file _, _ => none

mutual

/-- The files of a tree with their paths below `path`, in the order of their names. -/
def files (path : String) : FileTree → List (String × String)
  | file content => [(path, content)]
  | directory entries => filesOf path entries

/-- The files of the entries of a directory. -/
def filesOf (path : String) : List (String × FileTree) → List (String × String)
  | [] => []
  | (name, t) :: rest => files (Path.join path name) t ++ filesOf path rest

end

end FileTree

end ResourceGen
