import ResourceGen.Format

/-!
# The command line

`CommandLine.read` reads the arguments of the program. An argument is an option in its long form
(`--model file`, `--model=file`), a cluster of short ones (`-m file`, `-mfile`, `-m=file`, `-vm
file`), or the name of a command. Arguments are taken from left to right, and the first one that
settles the outcome does: one that cannot be, or a call for help or for the version.
-/

namespace ResourceGen

/-- What the program is asked to do. -/
inductive Command where
  /-- Shows what a model defines. -/
  | parse (model : String) (format : Option ModelFormat)
  /-- Shows the resources of a model. -/
  | crds (model : String) (config : Option String) (format : Option ModelFormat)
  /-- Generates one service. -/
  | generate (model : String) (config : Option String) (format : Option ModelFormat)
      (output : String)
  /-- Generates every service with a model below a directory. -/
  | generateAll (models : String) (configs : Option String) (filter : Option (List String))
      (output : String)
  deriving DecidableEq, Repr

/-- Why the arguments lead to no command. -/
inductive CommandLineStop where
  /-- They ask for help. -/
  | help
  /-- They ask for the version. -/
  | version
  /-- They cannot be. -/
  | misuse
  deriving DecidableEq, Repr

namespace CommandLine

/-- What comes of reading arguments. -/
abbrev Outcome (α : Type) := Except CommandLineStop α

/-- What an option takes. -/
inductive OptionKind where
  /-- Nothing: it is there or not. -/
  | flag
  /-- A path. -/
  | path
  /-- The name of a format. -/
  | format
  /-- Texts between commas, in one place or several. -/
  | list
  /-- Nothing, and it ends the reading. -/
  | stop (reason : CommandLineStop)
  deriving DecidableEq, Repr

/-- An option. -/
structure OptionSpec where
  long : String
  short : Option Char
  kind : OptionKind
  required : Bool := false
  deriving DecidableEq, Repr

/-- The option for verbose logs, which stands everywhere. -/
def verbose : OptionSpec := ⟨"verbose", some 'v', .flag, false⟩

/-- The option for help, which stands everywhere. -/
def help : OptionSpec := ⟨"help", some 'h', .stop .help, false⟩

/-- The option for the version. -/
def version : OptionSpec := ⟨"version", some 'V', .stop .version, false⟩

/-- The options before the command. -/
def mainOptions : List OptionSpec := [verbose, help, version]

/-- The option for the file of a model. -/
def model : OptionSpec := ⟨"model", some 'm', .path, true⟩

/-- The option for the file of a configuration. -/
def config : OptionSpec := ⟨"config", some 'c', .path, false⟩

/-- The option for the format of a model. -/
def format : OptionSpec := ⟨"format", some 'f', .format, false⟩

/-- The option for the output directory. -/
def output : OptionSpec := ⟨"output", some 'o', .path, false⟩

/-- The option for the directory of models. -/
def modelsDir : OptionSpec := ⟨"models-dir", none, .path, true⟩

/-- The option for the directory of configurations. -/
def configDir : OptionSpec := ⟨"config-dir", none, .path, false⟩

/-- The option for the services to include. -/
def filter : OptionSpec := ⟨"filter", none, .list, false⟩

/-- The output directory when none is given. -/
def defaultOutput : String := "./output"

/-- The commands with their own options. -/
def commands : List (String × List OptionSpec) := [
  ("parse", [model, format]),
  ("crds", [model, config, format]),
  ("generate", [model, config, format, output]),
  ("generate-all", [modelsDir, configDir, filter, output])]

/-! ## Options -/

/-- The options read so far, with their values in the order given. -/
abbrev Given := List (String × String)

/-- The values of an option. -/
def valuesOf (g : Given) (o : OptionSpec) : List String :=
  (g.filter (·.1 == o.long)).map Prod.snd

/-- Whether an option is given. -/
def isGiven (g : Given) (o : OptionSpec) : Bool := g.any (·.1 == o.long)

/-- The format of a name; names are exact here. -/
def formatOf? : String → Option ModelFormat
  | "api" => some .api
  | "smithy" => some .smithy
  | _ => none

/-- Whether an option takes a value. -/
def takesValue (o : OptionSpec) : Bool := [OptionKind.path, .format, .list].contains o.kind

/-- Whether an option accepts a value. -/
def accepts (o : OptionSpec) (value : String) : Bool :=
  match o.kind with
  | .path => !value.isEmpty
  | .format => (formatOf? value).isSome
  | .list => true
  | .flag | .stop _ => false

/-- Enters a value of an option; most stand only once. -/
def enterValue (o : OptionSpec) (value : String) (g : Given) : Outcome Given :=
  if accepts o value && (o.kind = .list || !isGiven g o) then .ok (g ++ [(o.long, value)])
  else .error .misuse

/-- Enters an option without a value. -/
def enterFlag (o : OptionSpec) (g : Given) : Outcome Given :=
  match o.kind with
  | .flag => if isGiven g o then .error .misuse else .ok (g ++ [(o.long, "")])
  | .stop reason => .error reason
  | _ => .error .misuse

/-- Whether an argument looks like an option. -/
def isOption (argument : String) : Bool := argument.startsWith "-" && argument ≠ "-"

/-- Enters an option whose value is the next argument; gives the arguments behind it. -/
def enterNext (o : OptionSpec) (rest : List String) (g : Given) : Outcome (List String × Given) :=
  match rest with
  | value :: rest =>
    if isOption value then .error .misuse else (enterValue o value g).map (rest, ·)
  | [] => .error .misuse

/-- The text behind the first equals sign of an option, if it has one. -/
def splitValue (text : List Char) : String × Option String :=
  match text.span (· ≠ '=') with
  | (name, []) => (String.ofList name, none)
  | (name, _ :: value) => (String.ofList name, some (String.ofList value))

/-- Reads an option in its long form. -/
def readLong (specs : List OptionSpec) (text : List Char) (rest : List String) (g : Given) :
    Outcome (List String × Given) :=
  let (name, value) := splitValue text
  match specs.find? (·.long == name), value with
  | none, _ => .error .misuse
  | some o, some value => (enterValue o value g).map (rest, ·)
  | some o, none => if takesValue o then enterNext o rest g else (enterFlag o g).map (rest, ·)

/-- Reads a cluster of short options, of which only the last may take a value. -/
def readShort (specs : List OptionSpec) : List Char → List String → Given →
    Outcome (List String × Given)
  | [], rest, g => .ok (rest, g)
  | c :: more, rest, g =>
    match specs.find? (·.short == some c) with
    | none => .error .misuse
    | some o =>
      if takesValue o then
        match more with
        | [] => enterNext o rest g
        | '=' :: value => (enterValue o (String.ofList value) g).map (rest, ·)
        | value => (enterValue o (String.ofList value) g).map (rest, ·)
      else do readShort specs more rest (← enterFlag o g)

/-- Reads one option; gives the arguments behind it. -/
def readOption (specs : List OptionSpec) (argument : String) (rest : List String) (g : Given) :
    Outcome (List String × Given) :=
  match argument.toList with
  | '-' :: '-' :: name => readLong specs name rest g
  | '-' :: cluster => readShort specs cluster rest g
  | _ => .error .misuse

/-- Reads options until the first argument that is none; gives the arguments from there on. An
option takes at least one argument, so as many rounds as there are arguments are enough. -/
def readOptions (specs : List OptionSpec) : (rounds : Nat) → List String → Given →
    Outcome (List String × Given)
  | rounds + 1, argument :: rest, g =>
    if isOption argument && argument ≠ "--" then do
      let (rest, g) ← readOption specs argument rest g
      readOptions specs rounds rest g
    else .ok (argument :: rest, g)
  | _, rest, g => .ok (rest, g)

/-! ## Commands -/

/-- The only value of an option, if it is given. -/
def value? (g : Given) (o : OptionSpec) : Option String := (valuesOf g o).head?

/-- The value of an option that must be given. -/
def required (g : Given) (o : OptionSpec) : Outcome String :=
  match value? g o with
  | some v => .ok v
  | none => .error .misuse

/-- The command of a name with its options. -/
def commandOf (name : String) (g : Given) : Outcome Command := do
  let chosenFormat := (value? g format).bind formatOf?
  let directory := (value? g output).getD defaultOutput
  match name with
  | "parse" => return .parse (← required g model) chosenFormat
  | "crds" => return .crds (← required g model) (value? g config) chosenFormat
  | "generate" => return .generate (← required g model) (value? g config) chosenFormat directory
  | _ =>
    let services := if isGiven g filter then
        some ((valuesOf g filter).flatMap (·.splitOn ","))
      else none
    return .generateAll (← required g modelsDir) (value? g configDir) services directory

/-- Reads the arguments behind the name of a command. -/
def readCommand (name : String) (specs : List OptionSpec) (arguments : List String) :
    Outcome Command := do
  let (rest, g) ← readOptions (specs ++ [verbose, help]) arguments.length arguments []
  if rest = [] || rest = ["--"] then commandOf name g else .error .misuse

/-- Reads the arguments behind the word `help`. -/
def readHelp : List String → Outcome Command
  | [] => .error .help
  | [name] =>
    if name = "help" || commands.any (·.1 == name) then .error .help else .error .misuse
  | _ => .error .misuse

/-- Reads the arguments of the program. -/
def read (arguments : List String) : Outcome Command := do
  let (rest, _) ← readOptions mainOptions arguments.length arguments []
  match rest with
  | [] => .error .misuse
  | "help" :: rest => readHelp rest
  | name :: rest =>
    match commands.find? (·.1 == name) with
    | some (_, specs) => readCommand name specs rest
    | none => .error .misuse

end CommandLine

end ResourceGen
