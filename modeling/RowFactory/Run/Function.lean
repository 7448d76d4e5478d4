import RowFactory.Run.Expression

/-! # What generated functions do

A function works on values, and on what a caller hands to it to be called back: blocks, persisters and
the makers of rows. Only statements change anything. A function that was not called as it has to be fails.
-/

namespace RowFactory.Run

open Code
open Rows (Defaults Row Persister)

variable {σ : Type}

/-- An action on the world that may fail. -/
abbrev Action (σ α : Type) := OptionT (StateM σ) α

inductive Argument (σ : Type) where
  | value (v : Value σ)
  | block (change : Value σ → Action σ (Value σ))
  | blocks (changes : List (Value σ → Action σ (Value σ)))
  | persister (p : Persister σ Row)
  | row (make : Action σ Row)

/-- What the names of a running function stand for. -/
abbrev Frame (σ : Type) := List (String × Argument σ)

namespace Frame

def scope (frame : Frame σ) : Scope σ :=
  frame.filterMap fun (name, a) =>
    match a with
    | .value v => some (name, v)
    | _ => none

def set (frame : Frame σ) (name : String) (v : Value σ) : Frame σ := (name, .value v) :: frame

end Frame

/-- The variable and the members that a place is made of. -/
def place? : Expr → Option (String × List String)
  | .path ⟨false, [⟨name, []⟩]⟩ => some (name.name, [])
  | .field base name => (place? base).map fun (root, members) => (root, members ++ [name.name])
  | _ => none

def changeAt (target : Expr) (change : Value σ → Action σ (Value σ)) (frame : Frame σ) :
    Action σ (Frame σ) := do
  let some (name, members) := place? target | failure
  let some root := frame.scope.lookup name | failure
  let some old := root.at? members | failure
  let new ← change old
  let some root := Value.replaceAt new members root | failure
  return frame.set name root

def setPersister (p : Persister σ Row) : Value σ → Action σ (Value σ)
  | .context c => do
    let c ← OptionT.lift (c.setPersister p)
    return .context c
  | _ => failure

def associate (key : String) (make : Action σ Row) : Value σ → Action σ (Value σ)
  | .context c => do
    let row ← make
    let c ← OptionT.lift (c.associate key row)
    return .context c
  | _ => failure

def argument? (frame : Frame σ) (e : Expr) : Option (Argument σ) := e.var? >>= fun i => frame.lookup i.name

def perform (calls : Calls σ) (frame : Frame σ) : Expr → Action σ (Frame σ)
  | .assign target e => do
    let some v := value calls frame.scope e | failure
    changeAt target (fun _ => pure v) frame
  | .call callee [.borrow target] =>
    match argument? frame callee with
    | some (.block change) => changeAt target change frame
    | _ => failure
  | .method target ⟨"set_persister", _⟩ _ [e] =>
    match argument? frame e with
    | some (.persister p) => changeAt target (setPersister p) frame
    | _ => failure
  | .method target ⟨"associate_with_persist", _⟩ _ [.text key, e] =>
    match argument? frame e with
    | some (.row make) => changeAt target (associate key make) frame
    | _ => failure
  | .method configuration ⟨"apply", _⟩ _ [target] =>
    match argument? frame configuration with
    | some (.block change) => changeAt target change frame
    | _ => failure
  | _ => failure

def performAll (calls : Calls σ) (frame : Frame σ) (body : List Expr) : Action σ (Frame σ) :=
  body.foldlM (perform calls) frame

/-- Runs the statements of a function and gives its result and what has become of its frame. -/
def runBody (calls : Calls σ) (frame : Frame σ) : List Stmt → Action σ (Value σ × Frame σ)
  | [] => return (.unit, frame)
  | .give e :: _ => do
    let some v := value calls frame.scope e | failure
    return (v, frame)
  | .bind _ name e :: rest => do
    let some v := value calls frame.scope e | failure
    runBody calls (frame.set name.name v) rest
  | .run e :: rest => do
    let frame ← perform calls frame e
    runBody calls frame rest
  | .each name e body :: rest => do
    let some (.blocks changes) := argument? frame e | failure
    let frame ← changes.foldlM (fun frame change =>
      performAll calls ((name.name, .block change) :: frame) body) frame
    runBody calls frame rest

def startFrame (f : Function) (self? : Option (Value σ)) (arguments : List (Argument σ)) :
    Option (Frame σ) :=
  if f.signature.parameters.length ≠ arguments.length then none
  else
    let named := (f.signature.parameters.map fun (name, _) => name.name).zip arguments
    match f.signature.receiver, self? with
    | none, none => some named
    | some _, some v => some (("self", .value v) :: named)
    | _, _ => none

def bodyValue (calls : Calls σ) (scope : Scope σ) : List Stmt → Option (Value σ)
  | [.give e] => value calls scope e
  | .bind _ name e :: rest => do
    let v ← value calls scope e
    bodyValue calls ((name.name, v) :: scope) rest
  | _ => none

def functionValue (calls : Calls σ) (f : Function) (arguments : List (Value σ)) : Option (Value σ) := do
  let body ← f.body
  let frame ←
    match f.signature.receiver, arguments with
    | some _, self :: arguments => startFrame f (some self) (arguments.map .value)
    | _, _ => startFrame f none (arguments.map .value)
  bodyValue calls frame.scope body

/-- Gives a result the type that its function says it has. -/
def Method.stamp (m : Method) (v : Value σ) : Value σ :=
  match m.resultType? with
  | some type => v.withType type
  | none => v

/-- The calls of a unit, up to a number of calls inside of one another. -/
def callsOf (items : List Item) (d : Defaults) : Nat → Calls σ
  | 0 => ⟨fun _ _ _ => none, d⟩
  | depth + 1 =>
    { defaults := d
      function := fun type? name arguments =>
        match type? with
        | some type => do
          let m ← method? items type name
          let v ← functionValue (callsOf items d depth) m.function arguments
          return m.stamp v
        | none => do
          let f ← function? items name
          functionValue (callsOf items d depth) f arguments }

/-- Calls inside of one another in generated code: a factory function, and the builder's functions in
it. -/
def callDepth : Nat := 2

/-- Calls the function of a name that a type has. Gives its result, and the value that it was called on as
it is afterwards. -/
def callMethod (items : List Item) (d : Defaults) (type : Ty) (name : String) (self? : Option (Value σ))
    (arguments : List (Argument σ)) : Action σ (Value σ × Option (Value σ)) := do
  let some m := method? items type name | failure
  let some body := m.function.body | failure
  let some frame := startFrame m.function self? arguments | failure
  let (result, frame) ← runBody (callsOf items d callDepth) frame body
  return (m.stamp result, frame.scope.lookup "self")

def callFunction (items : List Item) (d : Defaults) (name : String) (arguments : List (Argument σ)) :
    Action σ (Value σ) := do
  let some f := function? items name | failure
  let some body := f.body | failure
  let some frame := startFrame f none arguments | failure
  let (result, _) ← runBody (callsOf items d callDepth) frame body
  return result

end RowFactory.Run
