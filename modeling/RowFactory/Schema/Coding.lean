import RowFactory.Schema.Catalog
import RowFactory.Json.Decoding
import RowFactory.Json.Writer

/-! # Catalogs in data files

Decoding fills absent parts with their defaults and passes over unknown members; a record may also be
given as the list of its parts in order. Encoding leaves out what is not declared.
-/

namespace RowFactory.Schema

open Json

structure ColumnDraft where
  name : Option String := none
  nullable : Option Bool := none
  primaryKey : Option Bool := none

def ColumnDraft.place : String → Option (ColumnDraft → Document → Except Json.Error ColumnDraft)
  | "name" => some fun s d => return { s with name := ← fillPlace "name" decodeText s.name d }
  | "nullable" => some fun s d =>
    return { s with nullable := ← fillPlace "nullable" decodeFlag s.nullable d }
  | "primary_key" => some fun s d =>
    return { s with primaryKey := ← fillPlace "primary_key" decodeFlag s.primaryKey d }
  | _ => none

def decodeColumn : Decoder Column :=
  decodeRecord "ColumnSchema" ColumnDraft.place {}
    (fun s => return ⟨← requirePlace "name" s.name, s.nullable.getD false, s.primaryKey.getD false⟩)
    (fun p => do
      let (name, p) ← p.require decodeText 0 "struct ColumnSchema with 3 elements"
      let (nullable, p) ← p.optional decodeFlag false
      let (primaryKey, p) ← p.optional decodeFlag false
      return (⟨name, nullable, primaryKey⟩, p))
    3

structure ReferenceDraft where
  field : Option String := none
  references : Option String := none

def ReferenceDraft.place :
    String → Option (ReferenceDraft → Document → Except Json.Error ReferenceDraft)
  | "field" => some fun s d => return { s with field := ← fillPlace "field" decodeText s.field d }
  | "references" => some fun s d =>
    return { s with references := ← fillPlace "references" decodeText s.references d }
  | _ => none

def decodeReference : Decoder Reference :=
  decodeRecord "ForeignKeyDecl" ReferenceDraft.place {}
    (fun s => return ⟨← requirePlace "field" s.field, ← requirePlace "references" s.references⟩)
    (fun p => do
      let (field, p) ← p.require decodeText 0 "struct ForeignKeyDecl with 2 elements"
      let (references, p) ← p.require decodeText 1 "struct ForeignKeyDecl with 2 elements"
      return (⟨field, references⟩, p))
    2

structure TableDraft where
  name : Option String := none
  singular : Option (Option String) := none
  columns : Option (List Column) := none
  foreignKeys : Option (Option (List Reference)) := none

def TableDraft.place : String → Option (TableDraft → Document → Except Json.Error TableDraft)
  | "name" => some fun s d => return { s with name := ← fillPlace "name" decodeText s.name d }
  | "singular" => some fun s d =>
    return { s with singular := ← fillPlace "singular" (decodeOption decodeText) s.singular d }
  | "columns" => some fun s d =>
    return { s with columns := ← fillPlace "columns" (decodeList decodeColumn) s.columns d }
  | "foreign_keys" => some fun s d =>
    return { s with
      foreignKeys :=
        ← fillPlace "foreign_keys" (decodeOption (decodeList decodeReference)) s.foreignKeys d }
  | _ => none

def decodeTable : Decoder Table :=
  decodeRecord "TableSchema" TableDraft.place {}
    (fun s =>
      return ⟨← requirePlace "name" s.name, s.singular.getD none, s.columns.getD [],
        s.foreignKeys.getD none⟩)
    (fun p => do
      let (name, p) ← p.require decodeText 0 "struct TableSchema with 4 elements"
      let (singular, p) ← p.optional (decodeOption decodeText) none
      let (columns, p) ← p.optional (decodeList decodeColumn) []
      let (foreignKeys, p) ← p.optional (decodeOption (decodeList decodeReference)) none
      return (⟨name, singular, columns, foreignKeys⟩, p))
    4

def decodeCatalog : Decoder Catalog :=
  decodeRecord "SchemaCatalog"
    (fun key =>
      if key = "tables" then some (fillPlace "tables" (decodeList decodeTable)) else none)
    none
    (fun tables => return ⟨tables.getD []⟩)
    (fun p => do
      let (tables, p) ← p.optional (decodeList decodeTable) []
      return (⟨tables⟩, p))
    1

def encodeColumn (c : Column) : Document :=
  .record [
    ("name", some (.text c.name)),
    ("nullable", some (.bool c.nullable)),
    ("primary_key", some (.bool c.primaryKey))]

def encodeReference (r : Reference) : Document :=
  .record [("field", some (.text r.field)), ("references", some (.text r.references))]

def encodeTable (t : Table) : Document :=
  .record [
    ("name", some (.text t.name)),
    ("singular", t.singular.map .text),
    ("columns", some (.list (t.columns.map encodeColumn))),
    ("foreign_keys", t.foreignKeys.map fun keys => .list (keys.map encodeReference))]

def encodeCatalog (c : Catalog) : Document :=
  .record [("tables", some (.list (c.tables.map encodeTable)))]

end RowFactory.Schema
