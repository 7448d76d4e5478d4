import RowFactory.Ascending
import RowFactory.Text.Quoted

/-! # Association contexts

A context keeps the rows that a row depends on, under the names of its columns. A persister saves every
row that was built for the context, either at once or as soon as it is set; a row that was registered is
never saved. Persisters act on a world `σ` of their own.
-/

namespace RowFactory.Rows

/-- Saves a row under a key and gives what became of it. -/
abbrev Persister (σ ρ : Type) := String → ρ → StateM σ ρ

def Persister.idle {σ ρ : Type} : Persister σ ρ := fun _ row => pure row

structure Context (σ ρ : Type) where
  rows : List (String × ρ) := []
  persister : Option (Persister σ ρ) := none
  /-- Keys of the rows that wait for a persister, ascending. -/
  pending : List String := []

namespace Context

variable {σ ρ : Type}

def saveRow (p : Persister σ ρ) (key : String) (rows : List (String × ρ)) :
    StateM σ (List (String × ρ)) :=
  match rows.lookup key with
  | some row => do
    let row ← p key row
    return Ascending.put key row rows
  | none => pure rows

def saveRows (p : Persister σ ρ) : List String → List (String × ρ) → StateM σ (List (String × ρ))
  | [], rows => pure rows
  | key :: keys, rows => do saveRows p keys (← saveRow p key rows)

/-- Replaces the persister and saves the rows that wait for one. -/
def setPersister (c : Context σ ρ) (p : Persister σ ρ) : StateM σ (Context σ ρ) := do
  let rows ← saveRows p c.pending c.rows
  return { rows, persister := some p, pending := [] }

def ofPersister (p : Persister σ ρ) : StateM σ (Context σ ρ) := setPersister {} p

/-- Keeps a row, in place of an older one. -/
def register (c : Context σ ρ) (key : String) (row : ρ) : Context σ ρ :=
  { c with rows := Ascending.put key row c.rows, pending := c.pending.filter (· ≠ key) }

/-- Keeps a row that was built for the context, and saves it if a persister is set. -/
def associate (c : Context σ ρ) (key : String) (row : ρ) : StateM σ (Context σ ρ) :=
  match c.persister with
  | some p => do
    let row ← p key row
    return c.register key row
  | none =>
    let c := c.register key row
    -- `register` has taken the key out; it waits again.
    pure { c with pending := Ascending.insert key c.pending }

def row? (c : Context σ ρ) (key : String) : Option ρ := c.rows.lookup key

def update (c : Context σ ρ) (key : String) (change : ρ → ρ) : Context σ ρ :=
  { c with rows := c.rows.map fun (k, row) => if k = key then (k, change row) else (k, row) }

def contains (c : Context σ ρ) (key : String) : Bool := (c.row? key).isSome

def keys (c : Context σ ρ) : List String := c.rows.map (·.1)

def size (c : Context σ ρ) : Nat := c.rows.length

def isEmpty (c : Context σ ρ) : Bool := c.rows.isEmpty

def hasPersister (c : Context σ ρ) : Bool := c.persister.isSome

def describe (c : Context σ ρ) : String :=
  let list (texts : List String) := ", ".intercalate (texts.map Text.quoted)
  "AssociationContext \x7b keys: [" ++ list c.keys ++ "], persister: " ++ toString c.hasPersister ++
    ", pending: \x7b" ++ list c.pending ++ "\x7d \x7d"

end Context

end RowFactory.Rows
