import RowFactory.Command.Option

/-! # Arguments of the program

The arguments name one command, and everything behind its name is read by the rules of that command.
-/

namespace RowFactory.Command

def version : String := "0.1.0"

/-- What generation starts from. What is not given is taken from the settings. -/
structure Inputs where
  settings : Option String := none
  schema : Option String := none
  sources : Option String := none
  output : Option String := none
  runtime : Option String := none
  noDocs : Bool := false
  noModuleIndex : Bool := false
  deriving DecidableEq, Repr

inductive Request where
  | generate (inputs : Inputs) (dryRun : Bool)
  | check (inputs : Inputs)
  | inspect (table : String) (json : Bool) (settings schema : Option String)
  deriving DecidableEq, Repr

structure Arguments where
  verbosity : Nat
  request : Request
  deriving DecidableEq, Repr

def commonOptions : List Rule := [⟨"verbose", some 'v', .count⟩, ⟨"help", some 'h', .help⟩]

def topForm : Form := { options := commonOptions ++ [⟨"version", some 'V', .version⟩] }

def schemaOptions : List Rule := [⟨"config", some 'c', .path⟩, ⟨"schema", none, .path⟩]

def inputOptions : List Rule :=
  commonOptions ++ schemaOptions ++
    [⟨"src", none, .path⟩, ⟨"out", none, .path⟩, ⟨"runtime", none, .text⟩,
      ⟨"no-docs", none, .switch⟩, ⟨"no-module-index", none, .switch⟩]

def checkForm : Form := { options := inputOptions }

def generateForm : Form := { options := inputOptions ++ [⟨"dry-run", none, .switch⟩] }

def inspectForm : Form :=
  { options := commonOptions ++ schemaOptions ++ [⟨"json", none, .switch⟩], hasOperand := true }

def Given.inputs (g : Given) : Inputs :=
  { settings := g.value? "config"
    schema := g.value? "schema"
    sources := g.value? "src"
    output := g.value? "out"
    runtime := g.value? "runtime"
    noDocs := g.isGiven "no-docs"
    noModuleIndex := g.isGiven "no-module-index" }

inductive CommandName where
  | generate
  | check
  | inspect
  | help
  deriving DecidableEq, Repr

namespace CommandName

def ofText? : String → Option CommandName
  | "generate" => some .generate
  | "check" => some .check
  | "inspect" => some .inspect
  | "help" => some .help
  | _ => none

def request : CommandName → List String → Except UsageFault (Nat × Request)
  | .generate, arguments => do
    let g ← Given.addAll generateForm {} arguments
    return (g.count, .generate g.inputs (g.isGiven "dry-run"))
  | .check, arguments => do
    let g ← Given.addAll checkForm {} arguments
    return (g.count, .check g.inputs)
  | .inspect, arguments => do
    let g ← Given.addAll inspectForm {} arguments
    match g.operand with
    | some table =>
      return (g.count, .inspect table (g.isGiven "json") (g.value? "config") (g.value? "schema"))
    | none => throw .missingArgument
  | .help, [] => .error .help
  | .help, [name] => .error (if (ofText? name).isSome then .help else .invalidSubcommand)
  | .help, _ => .error .invalidSubcommand

end CommandName

def noCommand (g : Given) : UsageFault := if g.count = 0 then .nothingGiven else .missingSubcommand

def strayWord (word : String) : UsageFault :=
  if (CommandName.ofText? word).isSome then .unknownArgument else .invalidSubcommand

/-- Reads arguments up to the name of a command, and then the command. A count that is given behind the
name counts alone. -/
def Arguments.readFrom (g : Given) : List String → Except UsageFault Arguments
  | [] => .error (noCommand g)
  | argument :: rest =>
    match argument.toList with
    | ['-', '-'] => .error ((rest.head?.map strayWord).getD (noCommand g))
    | '-' :: '-' :: body => do readFrom (← g.addLong topForm body) rest
    | '-' :: letter :: letters => do readFrom (← g.addLetters topForm (letter :: letters)) rest
    | _ =>
      match CommandName.ofText? argument with
      | none => .error .invalidSubcommand
      | some name => do
        let (count, request) ← name.request rest
        return ⟨if count = 0 then g.count else count, request⟩

def Arguments.read (arguments : List String) : Except UsageFault Arguments := readFrom {} arguments

def logFilter (verbosity : Nat) : String :=
  match verbosity with
  | 0 => "warn"
  | 1 => "debug"
  | _ => "trace"

end RowFactory.Command
