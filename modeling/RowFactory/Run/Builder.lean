import RowFactory.Factory.Associations
import RowFactory.Factory.StateBuilder
import RowFactory.Run.Function

/-! # Generated builders at work

What can be done with the builders of a plan, each step a call of one of their generated functions.
-/

namespace RowFactory.Run

open Code
open Factory (Plan)
open Rows (Defaults Row Persister)

variable {σ : Type}

/-- The generated code of a table, and the record type that it is about. -/
structure Program where
  plan : Plan
  defaults : Defaults := {}

instance : Coe Plan Program := ⟨fun plan => { plan }⟩

/-- Something that a block does with the association context of its builder. -/
inductive Entry (σ : Type) where
  /-- A generated method makes the row of a column. -/
  | method (name : String) (make : Action σ Row)
  /-- A row is kept as it is. -/
  | register (key : String) (row : Row)

inductive Operation (σ : Type) where
  | assign (field : String) (value : Value σ)
  | persistWith (p : Persister σ Row)
  | associate (entries : List (Entry σ))
  | configure (change : Value σ → Action σ (Value σ))
  | configureAll (changes : List (Value σ → Action σ (Value σ)))

def changeBy (g : Program) (type : Ty) (name : String) (arguments : List (Argument σ)) (v : Value σ) :
    Action σ (Value σ) := do
  let (_, some v) ← callMethod (Factory.blockUnit g.plan) g.defaults type name (some v) arguments | failure
  return v

namespace Entry

def apply (g : Program) (e : Entry σ) (v : Value σ) : Action σ (Value σ) :=
  match e, v with
  | .method name make, v => changeBy g g.plan.contextTy name [.row make] v
  | .register key row, .context c => pure (.context (c.register key row))
  | _, _ => failure

end Entry

def blockType (p : Plan) : Ty := .ofIdent p.blockBuilder

namespace Operation

def apply (g : Program) (o : Operation σ) (builder : Value σ) : Action σ (Value σ) :=
  let call (name : String) (argument : Argument σ) := changeBy g (blockType g.plan) name [argument] builder
  match o with
  | .assign field v => (Value.replaceAt v [field] builder).elim failure pure
  | .persistWith persister => call "persist_with" (.persister persister)
  | .associate entries =>
    call "associate" (.block fun context => entries.foldlM (fun v e => e.apply g v) context)
  | .configure change => call "apply_trait" (.block change)
  | .configureAll changes => call "apply_traits" (.blocks changes)

end Operation

def applyAll (g : Program) (operations : List (Operation σ)) (builder : Value σ) : Action σ (Value σ) :=
  operations.foldlM (fun builder o => o.apply g builder) builder

def makeRow (g : Program) (arguments : List (Value σ)) : Action σ Row := do
  let v ← callFunction (Factory.blockUnit g.plan) g.defaults g.plan.factory.name (arguments.map .value)
  v.row?.elim failure pure

def makeRowWith (g : Program) (arguments : List (Value σ)) (operations : List (Operation σ)) :
    Action σ Row := do
  let v ← callFunction (Factory.blockUnit g.plan) g.defaults g.plan.factoryWith.name
    (arguments.map .value ++ [.block (applyAll g operations)])
  v.row?.elim failure pure

def startState (g : Program) : Action σ (Value σ) := do
  let type := g.plan.builderIn g.plan.unsetState
  let (builder, _) ← callMethod (Factory.stateUnit g.plan) g.defaults type "new" none []
  return builder

def setField (g : Program) (field : Factory.Field) (v : Value σ) : Value σ → Action σ (Value σ)
  | .object type members => do
    let (builder, _) ← callMethod (Factory.stateUnit g.plan) g.defaults type field.setter.name
      (some (.object type members)) [.value v]
    return builder
  | _ => failure

/-- The record of a builder, which only a complete one has. -/
def build (g : Program) : Value σ → Action σ (Value σ)
  | .object type members => do
    let (record, _) ←
      callMethod (Factory.stateUnit g.plan) g.defaults type "build" (some (.object type members)) []
    return record
  | _ => failure

def finish (g : Program) (builder : Value σ) : Action σ Row := do
  let record ← build g builder
  record.row?.elim failure pure

/-- The required fields whose slots are still empty, in their order. -/
def missingFields (p : Plan) : Value σ → List Factory.Field
  | .object (.named _ [.tuple slots]) _ =>
    (p.requiredFields.zip slots).filterMap fun (field, slot) =>
      match slot with
      | .tuple [] => some field
      | _ => none
  | _ => []

end RowFactory.Run
