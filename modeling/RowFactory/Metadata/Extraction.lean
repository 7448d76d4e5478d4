import RowFactory.Metadata.Table
import RowFactory.Schema.Catalog
import RowFactory.Error

/-! # Metadata from a catalog

Key columns are left out, columns that may be empty are optional and the others required. Where a table
declares its references they count, even if there are none; otherwise a column `user_id` refers to
`users`.
-/

namespace RowFactory.Metadata

def stem? (column : String) : Option String :=
  match (column.toList.reverse.drop foreignKeySuffix.length).reverse with
  | [] => none
  | stem =>
    let stem := String.ofList stem
    if column = stem ++ foreignKeySuffix then some stem else none

def ForeignKey.ofColumn? (column : Schema.Column) : Option ForeignKey :=
  if column.isKey then none
  else (stem? column.name).map fun stem => .between column.name (stem ++ "s")

def inferForeignKeys (table : Schema.Table) : List ForeignKey :=
  table.columns.filterMap ForeignKey.ofColumn?

/-- Order of two places in a declaration; what has no place comes last. -/
def placeLe : Option Nat → Option Nat → Bool
  | some i, some j => i ≤ j
  | some _, none => true
  | none, some _ => false
  | none, none => true

def declaredForeignKeys (table : Schema.Table) : List ForeignKey :=
  let placed := (table.foreignKeys.getD []).map fun r =>
    (table.position? r.field, ForeignKey.between r.field r.references)
  -- The sort is stable: references of one column stay as they are declared.
  (placed.mergeSort fun a b => placeLe a.1 b.1).map (·.2)

/-- The references of a table, with the singular forms that the catalog declares. -/
def foreignKeysOf (catalog : Schema.Catalog) (table : Schema.Table) : List ForeignKey :=
  let keys := if table.foreignKeys.isSome then declaredForeignKeys table else inferForeignKeys table
  keys.map fun key => { key with singular := catalog.singular? key.table }

def ofTable (catalog : Schema.Catalog) (table : Schema.Table) : Table :=
  let columns := table.columns.filter (!·.isKey)
  { name := table.name
    required := (columns.filter (!·.nullable)).map (·.name)
    optional := (columns.filter (·.nullable)).map (·.name)
    foreignKeys := foreignKeysOf catalog table
    singular := table.singular }

def ofName (catalog : Schema.Catalog) (name : String) : Table :=
  match catalog.table? name with
  | some table => ofTable catalog table
  | none => { name }

def resolve (catalog : Schema.Catalog) (name declaredBy : String) : Except Error Table :=
  match catalog.table? name with
  | some table => .ok (ofTable catalog table)
  | none => .error (.unresolvableTable name declaredBy)

def ofCatalog (catalog : Schema.Catalog) : List Table := catalog.tables.map (ofTable catalog)

end RowFactory.Metadata
