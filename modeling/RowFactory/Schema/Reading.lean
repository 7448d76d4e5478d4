import RowFactory.Error
import RowFactory.Json.Reader
import RowFactory.Schema.Coding
import RowFactory.Toml.Reader

/-! # Schema descriptions

A description is the text of a catalog in one of two formats.
-/

namespace RowFactory.Schema

def Catalog.ofText (format : SchemaFormat) (text : String) : Except Error Catalog :=
  match format with
  | .json => (Json.decodeWhole decodeCatalog (Json.read text)).mapError .json
  | .toml =>
    match Toml.decode? decodeCatalog text with
    | some catalog => .ok catalog
    | none => .error .toml

def Catalog.toText (c : Catalog) : String := Json.write (encodeCatalog c)

end RowFactory.Schema
