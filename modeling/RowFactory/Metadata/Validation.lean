import RowFactory.Metadata.Table
import RowFactory.Error

/-! # Consistent metadata

A row's key is no field, a field is listed once, and every reference belongs to a field of its own. The
first entry that breaks a rule is the one reported: required fields, optional fields, references.
-/

namespace RowFactory.Metadata

inductive Violation where
  | keyIsField
  | repeatedField (field : String)
  | unknownField (key : ForeignKey)
  | repeatedKey (field : String)
  deriving DecidableEq, Repr

namespace Violation

def message : Violation → String
  | .keyIsField => "the primary key column must not be a builder field"
  | .repeatedField field => s!"field '{field}' is listed more than once"
  | .unknownField key =>
    s!"foreign key '{key.field}' → '{key.table}' does not refer to a field of the table"
  | .repeatedKey field => s!"field '{field}' has more than one foreign key"

end Violation

/-- The first field that is the row's key or one of the fields before it. -/
def fieldViolation? (before : List String) : List String → Option Violation
  | [] => none
  | field :: rest =>
    if field = primaryKeyColumn then some .keyIsField
    else if field ∈ before then some (.repeatedField field)
    else fieldViolation? (field :: before) rest

/-- The first reference of an unknown field or of a field that one of the references before it has. -/
def keyViolation? (fields before : List String) : List ForeignKey → Option Violation
  | [] => none
  | key :: rest =>
    if key.field ∉ fields then some (.unknownField key)
    else if key.field ∈ before then some (.repeatedKey key.field)
    else keyViolation? fields (key.field :: before) rest

namespace Table

def violation? (t : Table) : Option Violation :=
  fieldViolation? [] t.fields <|> keyViolation? t.fields [] t.foreignKeys

def validate (t : Table) : Except Error Unit :=
  match t.violation? with
  | some v => .error (.invalidMetadata t.name v.message)
  | none => .ok ()

end Table

end RowFactory.Metadata
