import RowFactory.Disk.Files
import RowFactory.Schema.Reading

/-! # Schema files -/

namespace RowFactory.Schema

variable {m : Type → Type} [Monad m] [Disk.Files m]

def faultOfText (path : String) : Error → Error
  | .json error => .fileRead path (.noSchema (Error.json error).message)
  | .toml => .fileRead path (.noSchema Error.toml.message)
  | other => other

/-- The catalog that a file describes. Its extension says in which format. -/
def Catalog.ofFile (path : String) : ExceptT Error m Catalog := do
  if !(← (Disk.Files.isThere path : m Bool)) then throw (.schemaNotFound path)
  match Disk.Path.extension? path >>= SchemaFormat.ofExtension? with
  | none => throw (.unsupportedSchemaFormat path)
  | some format =>
    match ← (Disk.Files.readText path : m _) with
    | .error reason => throw (.fileRead path (.system reason))
    | .ok text => (Catalog.ofText format text).mapError (faultOfText path)

end RowFactory.Schema
