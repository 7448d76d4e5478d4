import RowFactory.Naming

/-! # Catalogs of tables

What is known about the tables of a database: their columns, which of them may be empty, and which
refer to other tables. Tables and columns keep the order of their declaration.
-/

namespace RowFactory.Schema

structure Column where
  name : String
  nullable : Bool := false
  primaryKey : Bool := false
  deriving DecidableEq, Repr

namespace Column

def key : Column := ⟨primaryKeyColumn, false, true⟩

def isKey (c : Column) : Bool := c.primaryKey || c.name = primaryKeyColumn

end Column

structure Reference where
  field : String
  references : String
  deriving DecidableEq, Repr

structure Table where
  name : String
  /-- Singular form, where dropping a trailing `s` gets it wrong. -/
  singular : Option String := none
  columns : List Column := []
  /-- Nothing if references are not declared but follow from column names. -/
  foreignKeys : Option (List Reference) := none
  deriving DecidableEq, Repr

namespace Table

def addColumn (t : Table) (c : Column) : Table := { t with columns := t.columns ++ [c] }

/-- Declares a reference; from then on column names say nothing. -/
def addReference (t : Table) (r : Reference) : Table :=
  { t with foreignKeys := some (t.foreignKeys.getD [] ++ [r]) }

def column? (t : Table) (name : String) : Option Column := t.columns.find? (·.name = name)

def position? (t : Table) (name : String) : Option Nat := t.columns.findIdx? (·.name = name)

end Table

structure Catalog where
  tables : List Table := []
  deriving DecidableEq, Repr

namespace Catalog

def table? (c : Catalog) (name : String) : Option Table := c.tables.find? (·.name = name)

def contains (c : Catalog) (name : String) : Bool := (c.table? name).isSome

def singular? (c : Catalog) (name : String) : Option String := c.table? name >>= (·.singular)

def names (c : Catalog) : List String := c.tables.map (·.name)

def modifyFirst (name : String) (f : Table → Table) : List Table → List Table
  | [] => []
  | t :: rest => if t.name = name then f t :: rest else t :: modifyFirst name f rest

def insertColumn (tables : List Table) (name : String) (column : Column) : List Table :=
  if tables.any (·.name = name) then modifyFirst name (·.addColumn column) tables
  else tables ++ [⟨name, none, [column], none⟩]

/-- A catalog from flat rows. If reference rows are given at all, every table has declared references,
and a row for an unknown table is dropped. -/
def ofRows (columns : List (String × Column)) (references : Option (List (String × Reference))) :
    Catalog :=
  let tables := columns.foldl (fun tables (table, column) => insertColumn tables table column) []
  match references with
  | none => ⟨tables⟩
  | some rows =>
    let declared := tables.map fun t => { t with foreignKeys := some [] }
    ⟨rows.foldl (fun tables (table, r) => modifyFirst table (·.addReference r) tables) declared⟩

end Catalog

end RowFactory.Schema
