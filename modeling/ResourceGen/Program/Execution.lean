import ResourceGen.Error
import ResourceGen.Json.Value
import ResourceGen.Program

/-!
# Running programs

A program runs on named JSON values. A field is present when it exists and is not null. A write
makes the objects it needs on its way, and stops where a value is neither an object nor null.
A run that stops leaves the values as they are at that point.
-/

namespace ResourceGen

open Json (Value)

/-- Named values. -/
abbrev Env := Dict Value

namespace Env

/-- Follows names into a value. -/
def follow : Value → List String → Option Value
  | v, [] => some v
  | v, name :: rest => (v.field? name).bind fun w => follow w rest

/-- The value at a path, if every step exists. -/
def lookup (e : Env) (a : Accessor) : Option Value :=
  (e.get? a.root).bind fun v => follow v (a.segments.map Segment.name)

/-- The value at a path, null where there is none. -/
def read (e : Env) (a : Accessor) : Value := (e.lookup a).getD .null

/-- Whether a path holds a value other than null. -/
def isPresent (e : Env) (a : Accessor) : Bool := (e.lookup a).any fun v => !v.isNull

/-- The value with another one written at a path. The name of a step that leads into a value
that is neither an object nor null comes back as the error. -/
def write (new : Value) : Value → List String → Except String Value
  | _, [] => .ok new
  | .null, name :: rest => do return .obj [(name, ← write new .null rest)]
  | .obj entries, name :: rest => do
    let inner := (Entries.get? entries name).getD .null
    return .obj (Entries.insert entries name (← write new inner rest))
  | _, name :: _ => .error name

/-- Writes a value at a path. -/
def store (e : Env) (a : Accessor) (new : Value) : Result Env :=
  match write new ((e.get? a.root).getD .null) (a.segments.map Segment.name) with
  | .ok v => .ok (e.insert a.root v)
  | .error name => .error (.notAnObject a.toText name)

/-- The value of a variable that must have one. -/
def require (e : Env) (name : String) : Result Value :=
  match e.get? name with
  | some v => .ok v
  | none => .error (.unboundVariable name)

end Env

/-- What a run leaves: the values, and the error that stopped it. -/
structure Outcome where
  env : Env
  failed : Option GeneratorError

namespace Outcome

/-- A run that has not stopped. -/
def running (e : Env) : Outcome := ⟨e, none⟩

/-- Goes on unless the run has stopped. -/
def andThen (o : Outcome) (f : Env → Outcome) : Outcome :=
  match o.failed with
  | none => f o.env
  | some _ => o

/-- A single change of the values, which may be refused. -/
def ofResult (e : Env) (r : Result Env) : Outcome :=
  match r with
  | .ok e' => ⟨e', none⟩
  | .error err => ⟨e, some err⟩

/-- Runs a step for each item in turn. -/
def forEach {α : Type} (step : α → Env → Outcome) : List α → Env → Outcome
  | [], e => running e
  | x :: rest, e => (step x e).andThen (forEach step rest)

end Outcome

namespace Statement

/-- The items of a list value; any other value has none. -/
def itemsOf : Option Value → List Value
  | some (.arr items) => items
  | _ => []

/-- The entries of an object; any other value has none. -/
def entriesOf : Option Value → List (String × Value)
  | some (.obj entries) => entries
  | _ => []

/-- Appends the value of a variable to a list. -/
def runAppend (list value : String) (e : Env) : Result Env := do
  let item ← e.require value
  match e.get? list with
  | some (.arr items) => return e.insert list (.arr (items ++ [item]))
  | _ => .error (.notAList list)

/-- Enters the value of a variable into a map. -/
def runInsert (map key value : String) (e : Env) : Result Env := do
  match ← e.require key with
  | .str k =>
    let item ← e.require value
    match e.get? map with
    | some (.obj entries) => return e.insert map (.obj (Entries.insert entries k item))
    | _ => .error (.notAMap map)
  | _ => .error (.keyNotText key)

mutual

/-- Runs a statement. -/
def run : Statement → Env → Outcome
  | newStruct var _, e | newMap var _, e => .running (e.insert var (.obj []))
  | newList var _, e => .running (e.insert var (.arr []))
  | letScalar var source _, e => .running (e.insert var (e.read source))
  | ifPresent source body, e => if e.isPresent source then runAll body e else .running e
  | forEachElement source element body, e =>
    .forEach (fun item e => runAll body (e.insert element item)) (itemsOf (e.lookup source)) e
  | forEachEntry source key value body, e =>
    .forEach (fun entry e => runAll body ((e.insert key (.str entry.1)).insert value entry.2))
      (entriesOf (e.lookup source)) e
  | ifSingleElement source element body, e =>
    match itemsOf (e.lookup source) with
    | [only] => runAll body (e.insert element only)
    | _ => .running e
  | append list value, e => .ofResult e (runAppend list value e)
  | insert map key value, e => .ofResult e (runInsert map key value e)
  | assign dest source _, e => .ofResult e (e.store dest (e.read source))

/-- Runs statements in order. -/
def runAll : List Statement → Env → Outcome
  | [], e => .running e
  | s :: rest, e => (run s e).andThen (runAll rest)

end

end Statement

/-- Runs a program. -/
def Program.execute (p : Program) (e : Env) : Outcome := Statement.runAll p.statements e

end ResourceGen
