import RowFactory.Rows.Factory

/-! # Sequences

Persisters that number the rows they save, and a factory that counts the rows it builds. Both note what
they do.
-/

namespace RowFactory.Rows

structure NamedRow where
  id : Option Int
  name : String
  deriving DecidableEq, Repr

inductive Event where
  | saved (key : String) (number : Int)
  | built (name : String)
  | before (row : NamedRow)
  | after (row : NamedRow)
  deriving DecidableEq, Repr

/-- The last number of every sequence, and what was noted. -/
structure Ledger where
  numbers : List Int := []
  log : List Event := []
  deriving DecidableEq, Repr

namespace Ledger

def note (event : Event) : StateM Ledger Unit := modify fun l => { l with log := l.log ++ [event] }

def start (number : Int) : StateM Ledger Nat := do
  let l ← get
  set { l with numbers := l.numbers ++ [number] }
  return l.numbers.length

def next (place : Nat) : StateM Ledger Int := do
  let l ← get
  let number := (l.numbers.getD place 0 + 1).bmod (Nat.pow 2 64)
  set { l with numbers := l.numbers.set place number }
  return number

def during {α : Type} (step : StateM Ledger α) : StateM Ledger (α × List Event) := do
  modify fun l => { l with log := [] }
  let result ← step
  return (result, (← get).log)

end Ledger

/-- A persister that gives each row the next number of a sequence. -/
def Persister.numbering {ρ : Type} (place : Nat) (assign : Int → ρ → ρ) : Persister Ledger ρ :=
  fun key row => do
    let number ← Ledger.next place
    Ledger.note (.saved key number)
    return assign number row

def Persister.starting {ρ : Type} (number : Int) (assign : Int → ρ → ρ) :
    StateM Ledger (Persister Ledger ρ) := do
  return .numbering (← Ledger.start number) assign

namespace NamedRow

def setId (number : Int) (row : NamedRow) : NamedRow := { row with id := some number }

def mark (note : NamedRow → Event) (text : String) (row : NamedRow) : StateM Ledger NamedRow := do
  Ledger.note (note row)
  return { row with name := row.name ++ text }

end NamedRow

/-- A factory that names each row after the table and a count, and marks it before and after it is saved
if that is wanted. -/
def Factory.counting (table : String) (place : Nat) (marks : Bool) : Factory (StateM Ledger) NamedRow where
  table := table
  build := do
    let name := table ++ toString (← Ledger.next place)
    Ledger.note (.built name)
    return ⟨none, name⟩
  beforeCreate row := if marks then row.mark .before "<" else pure row
  afterCreate row := if marks then row.mark .after ">" else pure row

end RowFactory.Rows
