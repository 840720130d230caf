import ResourceGen.Command

/-!
# The program

The command line on the disk of the machine.
-/

namespace ResourceGen

/-- Whether an action goes well. -/
def succeeds {α : Type} (action : IO α) : IO Bool := do
  match ← action.toBaseIO with
  | .ok _ => return true
  | .error _ => return false

/-- A path as an entry of the current directory. -/
def entryAt (path : String) : IO.FS.DirEntry := ⟨".", path⟩

/-- Does a step on disk. -/
def performOnDisk : FileStep → IO Unit
  | .makeDirectory path => IO.FS.createDirAll path
  | .write path content => IO.FS.writeFile path content

/-- The paths of all files below a directory, in the order of their names. -/
partial def filesOnDisk (path : String) : IO (List String) := do
  let names := (← (entryAt path).path.readDir).toList.map (·.fileName)
  let mut found : List String := []
  for name in names.mergeSort do
    let here := Path.join path name
    if ← (entryAt here).path.isDir then found := found ++ (← filesOnDisk here)
    else found := found ++ [here]
  return found

/-- The disk of the machine, with its standard output and error. -/
def Host.disk : Host IO where
  read path := do
    match ← (IO.FS.readFile path).toBaseIO with
    | .ok text => return some text
    | .error _ => return none
  isThere path := (entryAt path).path.pathExists
  isFile path := do return (← (entryAt path).path.pathExists) && !(← (entryAt path).path.isDir)
  isDirectory path := (entryAt path).path.isDir
  filesBelow path := do
    match ← (filesOnDisk path).toBaseIO with
    | .ok paths => return paths
    | .error _ => return []
  perform step := succeeds (performOnDisk step)
  say line := IO.println line
  complain line := IO.eprintln line

end ResourceGen

/-- Runs the program. -/
def main (arguments : List String) : IO UInt32 := do
  return (← ResourceGen.CommandLine.execute ResourceGen.Host.disk arguments).toUInt32
