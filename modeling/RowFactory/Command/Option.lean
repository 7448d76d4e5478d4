/-! # Options of a command

An option is given by a long name or by a letter, a switch at most once and a value either attached or in the
next argument. A value in the next argument is looked at only when something else is given, so that a fault
that shows earlier counts.
-/

namespace RowFactory.Command

inductive UsageFault where
  | unknownArgument
  | invalidSubcommand
  | missingSubcommand
  | invalidValue
  | missingArgument
  | conflict
  | tooManyValues
  | help
  | version
  | nothingGiven
  deriving DecidableEq, Repr

inductive Meaning where
  | help
  | version
  | count
  | switch
  | text
  | path
  deriving DecidableEq, Repr

def Meaning.takesValue : Meaning → Bool
  | .text | .path => true
  | _ => false

structure Rule where
  name : String
  letter : Option Char := none
  meaning : Meaning
  deriving DecidableEq, Repr

structure Form where
  options : List Rule
  hasOperand : Bool := false
  deriving DecidableEq, Repr

structure Given where
  values : List (String × String) := []
  count : Nat := 0
  operand : Option String := none
  /-- An option that has not been looked at, with its value if that has come. -/
  waiting : Option (Rule × Option String) := none
  deriving DecidableEq, Repr

def countLimit : Nat := 255

namespace Given

def value? (g : Given) (name : String) : Option String := g.values.lookup name

def isGiven (g : Given) (name : String) : Bool := (g.value? name).isSome

def note (g : Given) (name value : String) : Except UsageFault Given :=
  if g.isGiven name then .error .conflict else .ok { g with values := (name, value) :: g.values }

def accept (g : Given) (rule : Rule) (value? : Option String) : Except UsageFault Given :=
  match rule.meaning, value? with
  | .help, _ => .error .help
  | .version, _ => .error .version
  | .count, _ => .ok { g with count := min (g.count + 1) countLimit }
  | .switch, _ => g.note rule.name ""
  | .text, some value => g.note rule.name value
  | .path, some value => do
    let g ← g.note rule.name value
    if value.isEmpty then throw .invalidValue else return g
  | _, none => .error .invalidValue

def settle (g : Given) : Except UsageFault Given :=
  match g.waiting with
  | some (rule, value?) => { g with waiting := none }.accept rule value?
  | none => .ok g

def settleAndAccept (g : Given) (rule : Rule) (value? : Option String) : Except UsageFault Given := do
  (← g.settle).accept rule value?

def await (g : Given) (rule : Rule) : Except UsageFault Given := do
  return { ← g.settle with waiting := some (rule, none) }

def addOperand (form : Form) (g : Given) (argument : String) : Except UsageFault Given := do
  if form.hasOperand && g.operand.isNone then return { ← g.settle with operand := some argument }
  else throw .unknownArgument

def addPlain (form : Form) (g : Given) (argument : String) : Except UsageFault Given :=
  match g.waiting with
  | some (rule, none) => .ok { g with waiting := some (rule, some argument) }
  | _ => g.addOperand form argument

def addLong (form : Form) (g : Given) (body : List Char) : Except UsageFault Given :=
  let name := String.ofList (body.takeWhile (· ≠ '='))
  match form.options.find? (·.name = name), body.dropWhile (· ≠ '=') with
  | none, _ => .error .unknownArgument
  | some rule, [] => if rule.meaning.takesValue then g.await rule else g.settleAndAccept rule none
  | some rule, _ :: value =>
    if rule.meaning.takesValue then g.settleAndAccept rule (some (String.ofList value))
    else .error .tooManyValues

/-- Options by their letters. What follows an option with a value is its value. -/
def addLetters (form : Form) (g : Given) : List Char → Except UsageFault Given
  | [] => .ok g
  | letter :: rest =>
    match form.options.find? (·.letter = some letter) with
    | none => .error .unknownArgument
    | some rule =>
      if rule.meaning.takesValue then
        match rest with
        | [] => g.await rule
        | '=' :: value | value => g.settleAndAccept rule (some (String.ofList value))
      else do addLetters form (← g.settleAndAccept rule none) rest

/-- Reads the arguments of a command. Behind `--` there are no options. -/
def addAll (form : Form) (g : Given) : List String → Except UsageFault Given
  | [] => g.settle
  | argument :: rest =>
    match argument.toList with
    | ['-', '-'] => do (← rest.foldlM (addOperand form) g).settle
    | '-' :: '-' :: body => do addAll form (← g.addLong form body) rest
    | '-' :: letter :: letters => do addAll form (← g.addLetters form (letter :: letters)) rest
    | _ => do addAll form (← g.addPlain form argument) rest

end Given

end RowFactory.Command
