import RowFactory.Naming

/-! # What a factory knows about its table

The fields that have to be given, those that may be left out, and the references among them.
-/

namespace RowFactory.Metadata

structure ForeignKey where
  field : String
  table : String
  recordType : String
  singular : Option String := none
  deriving DecidableEq, Repr

namespace ForeignKey

def between (field table : String) : ForeignKey := ⟨field, table, recordTypeName table, none⟩

def singularName (k : ForeignKey) : String := k.singular.getD (singularize k.table)

end ForeignKey

structure Table where
  name : String
  required : List String := []
  optional : List String := []
  foreignKeys : List ForeignKey := []
  singular : Option String := none
  deriving DecidableEq, Repr

namespace Table

def fields (t : Table) : List String := t.required ++ t.optional

def isEmpty (t : Table) : Bool :=
  t.required.isEmpty && t.optional.isEmpty && t.foreignKeys.isEmpty

def foreignKey? (t : Table) (field : String) : Option ForeignKey :=
  t.foreignKeys.find? (·.field = field)

def isForeignKey (t : Table) (field : String) : Bool := (t.foreignKey? field).isSome

/-- The fields that a new row cannot do without: a reference may be filled in later. -/
def constructorFields (t : Table) : List String := t.required.filter (!t.isForeignKey ·)

def singularName (t : Table) : String := t.singular.getD (singularize t.name)

def baseName (t : Table) : String := RowFactory.baseName t.name

def recordTypeName (t : Table) : String := RowFactory.recordTypeName t.name

def fieldKind (t : Table) (field : String) : FieldKind := .classify field (t.isForeignKey field)

def addForeignKey (t : Table) (k : ForeignKey) : Table := { t with foreignKeys := t.foreignKeys ++ [k] }

end Table

end RowFactory.Metadata
