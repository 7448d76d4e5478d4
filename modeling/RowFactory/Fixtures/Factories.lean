import RowFactory.Fixtures.Tables
import RowFactory.Rows.Factory
import RowFactory.Run.Builder

/-! # Factories of the small schema

Each makes the same row again and again with the generated functions of its table.
-/

namespace RowFactory.Fixtures

open Rows (Row Factory)
open Run (Action Value Operation)

variable {σ : Type}

def textValue (text : String) : Value σ := .datum (.text text)

def row (table : String) (arguments : List (Value σ)) : Action σ Row :=
  (plan? table).elim failure fun p => Run.makeRow p arguments

def rowWith (table : String) (arguments : List (Value σ)) (operations : List (Operation σ)) :
    Action σ Row :=
  (plan? table).elim failure fun p => Run.makeRowWith p arguments operations

def numberRow (number : Int) (r : Row) : Row := r.setColumn primaryKeyColumn (some (.integer number))

def userFactory : Factory (Action σ) Row :=
  .plain "users" (row "users" [textValue "Alice", textValue "alice@example.com"])

/-- Posts are drafts until they are saved. -/
def postFactory : Factory (Action σ) Row :=
  { table := "posts"
    build := rowWith "posts" [textValue "Hello", textValue "First post"]
      [.assign "published" (.present (.datum (.flag false)))]
    beforeCreate := fun r => pure (r.setColumn "published" (some (.flag true)))
    afterCreate := pure }

end RowFactory.Fixtures
