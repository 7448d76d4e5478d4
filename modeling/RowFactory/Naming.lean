import RowFactory.Text.Casing

/-! # Names derived from a table

A table name gives the singular of its rows, the base of its generated types and the type of its
records.
-/

namespace RowFactory

def primaryKeyColumn : String := "id"

def foreignKeySuffix : String := "_id"

def recordSuffix : String := "Record"

/-- Drops one trailing `s`, unless nothing or an underscore would end the name. -/
def singularize (table : String) : String :=
  match table.toList.reverse with
  | 's' :: c :: stem => if c = '_' then table else String.ofList (c :: stem).reverse
  | _ => table

/-- `blog_posts` as `BlogPosts`. -/
def baseName (table : String) : String := Text.pascalCase table

/-- `users` as `UsersRecord`. -/
def recordTypeName (table : String) : String := baseName table ++ recordSuffix

inductive FieldKind where
  | integer
  | boolean
  | timestamp
  | foreignKey
  | text
  deriving DecidableEq, Repr

namespace FieldKind

/-- Kind of a column: a foreign key holds the referenced row's id, any other column goes by its name. -/
def classify (column : String) (isForeignKey : Bool) : FieldKind :=
  if isForeignKey then .foreignKey
  else if column = "age" then .integer
  else if column = "published" then .boolean
  else if column.endsWith "_at" then .timestamp
  else .text

def typeName : FieldKind → String
  | .integer => "i32"
  | .boolean => "bool"
  | .timestamp => "::chrono::NaiveDateTime"
  | .foreignKey => "i64"
  | .text => "String"

def label : FieldKind → String
  | .integer => "integer"
  | .boolean => "boolean"
  | .timestamp => "timestamp"
  | .foreignKey => "foreign key"
  | .text => "text"

def tag : FieldKind → String
  | .integer => "integer"
  | .boolean => "boolean"
  | .timestamp => "timestamp"
  | .foreignKey => "foreign_key"
  | .text => "text"

def all : List FieldKind := [.integer, .boolean, .timestamp, .foreignKey, .text]

end FieldKind

inductive SchemaFormat where
  | json
  | toml
  deriving DecidableEq, Repr

namespace SchemaFormat

def extension : SchemaFormat → String
  | .json => "json"
  | .toml => "toml"

/-- The format that a file extension names, in any letter case. -/
def ofExtension? (extension : String) : Option SchemaFormat :=
  match extension.toLower with
  | "json" => some .json
  | "toml" => some .toml
  | _ => none

end SchemaFormat

end RowFactory
