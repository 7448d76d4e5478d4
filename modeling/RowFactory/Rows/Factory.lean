import RowFactory.Rows.Context

/-! # Factories

A factory makes rows of one table on demand, saved or not.
-/

namespace RowFactory.Rows

variable {m : Type → Type} [Monad m] {σ ρ α : Type}

def buildEach (count : Nat) (make : Nat → m α) : m (List α) := (List.range count).mapM make

structure Factory (m : Type → Type) (ρ : Type) where
  /-- Key under which rows are saved. -/
  table : String
  build : m ρ
  beforeCreate : ρ → m ρ
  afterCreate : ρ → m ρ

namespace Factory

def plain (table : String) (build : m ρ) : Factory m ρ := ⟨table, build, pure, pure⟩

def buildList (f : Factory m ρ) (count : Nat) : m (List ρ) := buildEach count fun _ => f.build

variable [MonadLiftT (StateM σ) m]

def create (f : Factory m ρ) (p : Persister σ ρ) : m ρ := do
  let row ← f.beforeCreate (← f.build)
  let row ← p f.table row
  f.afterCreate row

def createList (f : Factory m ρ) (p : Persister σ ρ) (count : Nat) : m (List ρ) :=
  buildEach count fun _ => f.create p

end Factory

end RowFactory.Rows
