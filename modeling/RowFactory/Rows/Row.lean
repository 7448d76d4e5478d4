import RowFactory.Ascending
import RowFactory.Code.Path

/-! # Rows of test data

A row has the type of its record and a value for every column, which may be missing. The type of the record is not
part of the generated code, nor is what it gives by default.
-/

namespace RowFactory.Rows

inductive Datum where
  | integer (n : Int)
  | flag (value : Bool)
  | text (text : String)
  | moment (text : String)
  deriving DecidableEq, Repr

structure Row where
  type : Code.Path
  /-- Values by ascending column; a column that is not listed has none. -/
  columns : List (String × Datum) := []
  deriving DecidableEq, Repr

namespace Row

def column? (r : Row) (name : String) : Option Datum := r.columns.lookup name

def setColumn (r : Row) (name : String) (value : Option Datum) : Row :=
  match value with
  | some d => { r with columns := Ascending.put name d r.columns }
  | none => { r with columns := r.columns.filter (·.1 ≠ name) }

end Row

/-- The columns that a record type has by default. -/
structure Defaults where
  columns : List (String × Datum) := []
  ascending : columns.Pairwise fun a b => a.1 < b.1 := by decide

def Defaults.column? (d : Defaults) (name : String) : Option Datum := d.columns.lookup name

end RowFactory.Rows
