import RowFactory.Factory.Plan
import RowFactory.Metadata.Extraction

/-! # A small schema

Users, categories, posts and comments. Posts declare their references, comments leave them to be inferred.
-/

namespace RowFactory.Fixtures

open Schema (Catalog)

def requiredColumn (name : String) : Schema.Column := { name }

def optionalColumn (name : String) : Schema.Column := { name, nullable := true }

def users : Schema.Table :=
  { name := "users"
    columns := [.key, requiredColumn "name", requiredColumn "email", optionalColumn "age",
      optionalColumn "created_at"] }

def categories : Schema.Table :=
  { name := "categories"
    singular := some "category"
    columns := [.key, requiredColumn "name"]
    foreignKeys := some [] }

def posts : Schema.Table :=
  { name := "posts"
    columns := [.key, requiredColumn "user_id", requiredColumn "title", requiredColumn "content",
      optionalColumn "category_id", optionalColumn "published", optionalColumn "created_at"]
    foreignKeys := some [⟨"category_id", "categories"⟩, ⟨"user_id", "users"⟩] }

def comments : Schema.Table :=
  { name := "comments"
    columns := [.key, requiredColumn "post_id", requiredColumn "user_id", requiredColumn "body"] }

def catalog : Catalog := ⟨[users, categories, posts, comments]⟩

/-- Factories and records have a module each. -/
def package : Metadata.Package := ⟨"crate::factories", "crate::records", Metadata.defaultRuntimePath, []⟩

def plan? (table : String) : Option Factory.Plan :=
  (Factory.Plan.ofTable (Metadata.ofName catalog table) package {}).toOption

def field? (table column : String) : Option Factory.Field :=
  plan? table >>= fun p => p.fields.find? (·.name = column)

def columnsOf (table : String) : List String :=
  ((catalog.table? table).map fun t => t.columns.map (·.name)).getD []

end RowFactory.Fixtures
