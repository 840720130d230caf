import ResourceGen.FileTree
import ResourceGen.Generation

/-!
# Hosts

A `Host` is what a command can do to the world: read and change files, and speak to the user.
Commands are written for any host. `Host.memory` keeps everything in memory, where a command is a
function like any other.
-/

namespace ResourceGen

/-- What a command can do. -/
structure Host (m : Type → Type) where
  /-- The content of a file; nothing when it cannot be read as text. -/
  read : String → m (Option String)
  /-- Whether there is something at a path. -/
  isThere : String → m Bool
  isFile : String → m Bool
  isDirectory : String → m Bool
  /-- The paths of all files below a directory, in the order of their names. -/
  filesBelow : String → m (List String)
  /-- Does a step on disk, and says whether it went well. -/
  perform : FileStep → m Bool
  /-- Tells the user a line. -/
  say : String → m Unit
  /-- Tells the user a line of what went wrong. -/
  complain : String → m Unit

namespace Host

variable {m : Type → Type} [Monad m]

/-- Tells the user several lines. -/
def sayAll (h : Host m) : List String → m Unit
  | [] => pure ()
  | line :: rest => do
    h.say line
    h.sayAll rest

/-- Tells the user several lines of what went wrong. -/
def complainAll (h : Host m) : List String → m Unit
  | [] => pure ()
  | line :: rest => do
    h.complain line
    h.complainAll rest

/-- Does the steps of a plan up to the first that goes wrong. -/
def performAll (h : Host m) : List FileStep → m Bool
  | [] => pure true
  | s :: rest => do if ← h.perform s then h.performAll rest else pure false

/-- Carries out a plan and gives the paths of the files written. -/
def carryOut (h : Host m) (p : Plan) : m (Result (List String)) := do
  if ← h.performAll p.steps then
    match p.failed with
    | none => return .ok p.written
    | some e => return .error e
  else return .error .unwritableOutput

/-- Generates a service below an output directory. -/
def generate (h : Host m) (s : Schema) (output : String) : m (Result (List String)) :=
  h.carryOut (s.plan output)

end Host

/-- A host in memory: its files, the directory that paths start from, and the lines said. -/
structure Memory where
  files : FileTree := .empty
  here : List String := []
  said : List String := []
  complaints : List String := []

namespace Memory

/-- What stands at a path. -/
def get? (s : Memory) (path : String) : Option FileTree :=
  (s.files.get? (Path.names s.here path)).filter fun t =>
    t.isDirectory || !Path.endsInDirectory path

/-- The content of a file. -/
def read? (s : Memory) (path : String) : Option String := (s.get? path).bind FileTree.content?

/-- The files after a step, if it goes well. -/
def perform? (s : Memory) : FileStep → Option FileTree
  | .makeDirectory path => s.files.makeDirectory? (Path.names s.here path)
  | .write path content =>
    if Path.endsInDirectory path then none
    else FileTree.write? content s.files (Path.names s.here path)

/-- The paths of the files below a directory. -/
def filesBelow (s : Memory) (path : String) : List String :=
  ((s.get? path).map fun t => (t.files path).map Prod.fst).getD []

end Memory

/-- The host that keeps everything in memory. -/
def Host.memory : Host (StateM Memory) where
  read path := do return (← get).read? path
  isThere path := do return ((← get).get? path).isSome
  isFile path := do return ((← get).get? path).any fun t => !t.isDirectory
  isDirectory path := do return ((← get).get? path).any (·.isDirectory)
  filesBelow path := do return (← get).filesBelow path
  perform step := do
    let s ← get
    match s.perform? step with
    | some files => do
      set { s with files := files }
      return true
    | none => return false
  say line := modify fun s => { s with said := s.said ++ [line] }
  complain line := modify fun s => { s with complaints := s.complaints ++ [line] }

end ResourceGen
