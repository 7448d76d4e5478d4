import RowFactory.Code.Tree
import RowFactory.Rows.Context
import RowFactory.Rows.Row

/-! # Values of generated code

What the names of generated code stand for when it runs: data, rows, builders and the association
contexts inside of builders.
-/

namespace RowFactory.Run

open Rows (Datum Row Context)

inductive Value (σ : Type) where
  | unit
  | datum (d : Datum)
  | absent
  | present (value : Value σ)
  | context (c : Context σ Row)
  /-- A row or a builder, by its ascending members. A member that is not listed is absent. -/
  | object (type : Code.Ty) (members : List (String × Value σ))

namespace Value

variable {σ : Type}

def member? (name : String) : Value σ → Option (Value σ)
  | .object _ members => some ((members.lookup name).getD .absent)
  | _ => none

def at? : List String → Value σ → Option (Value σ)
  | [], v => some v
  | name :: names, v => v.member? name >>= at? names

def replaceAt (new : Value σ) : List String → Value σ → Option (Value σ)
  | [], _ => some new
  | name :: names, .object type members => do
    let member ← replaceAt new names ((members.lookup name).getD .absent)
    return .object type (Ascending.put name member members)
  | _ :: _, _ => none

/-- Gives an object the type that it is seen to have. -/
def withType (type : Code.Ty) : Value σ → Value σ
  | .object _ members => .object type members
  | v => v

def ofDatum? : Option Datum → Value σ
  | some d => .present (.datum d)
  | none => .absent

def datum? : Value σ → Option Datum
  | .present (.datum d) => some d
  | _ => none

def members (columns : List (String × Datum)) : List (String × Value σ) :=
  columns.map fun (name, d) => (name, .present (.datum d))

def ofRow (r : Row) : Value σ := .object (.ofPath r.type) (members r.columns)

def row? : Value σ → Option Row
  | .object (.named type []) members =>
    some ⟨type, members.filterMap fun (name, v) => v.datum?.map fun d => (name, d)⟩
  | _ => none

end Value

end RowFactory.Run
