import RowFactory.Metadata.Table
import RowFactory.Metadata.Package
import RowFactory.Json.Decoding
import RowFactory.Json.Writer

/-! # Metadata in data files -/

namespace RowFactory.Metadata

open Json

structure ForeignKeyDraft where
  field : Option String := none
  table : Option String := none
  recordType : Option String := none
  singular : Option (Option String) := none

def ForeignKeyDraft.place :
    String → Option (ForeignKeyDraft → Document → Except Json.Error ForeignKeyDraft)
  | "field_name" => some fun s d =>
    return { s with field := ← fillPlace "field_name" decodeText s.field d }
  | "referenced_table" => some fun s d =>
    return { s with table := ← fillPlace "referenced_table" decodeText s.table d }
  | "referenced_record_type" => some fun s d =>
    return { s with recordType := ← fillPlace "referenced_record_type" decodeText s.recordType d }
  | "referenced_singular" => some fun s d =>
    return { s with
      singular := ← fillPlace "referenced_singular" (decodeOption decodeText) s.singular d }
  | _ => none

def decodeForeignKey : Decoder ForeignKey :=
  decodeRecord "ForeignKeyConstraint" ForeignKeyDraft.place {}
    (fun s =>
      return ⟨← requirePlace "field_name" s.field, ← requirePlace "referenced_table" s.table,
        ← requirePlace "referenced_record_type" s.recordType, s.singular.getD none⟩)
    (fun p => do
      let whole := "struct ForeignKeyConstraint with 4 elements"
      let (field, p) ← p.require decodeText 0 whole
      let (table, p) ← p.require decodeText 1 whole
      let (recordType, p) ← p.require decodeText 2 whole
      let (singular, p) ← p.optional (decodeOption decodeText) none
      return (⟨field, table, recordType, singular⟩, p))
    4

structure TableDraft where
  name : Option String := none
  required : Option (List String) := none
  optional : Option (List String) := none
  foreignKeys : Option (List ForeignKey) := none
  singular : Option (Option String) := none

def TableDraft.place : String → Option (TableDraft → Document → Except Json.Error TableDraft)
  | "table_name" => some fun s d =>
    return { s with name := ← fillPlace "table_name" decodeText s.name d }
  | "required_fields" => some fun s d =>
    return { s with required := ← fillPlace "required_fields" (decodeList decodeText) s.required d }
  | "optional_fields" => some fun s d =>
    return { s with optional := ← fillPlace "optional_fields" (decodeList decodeText) s.optional d }
  | "foreign_keys" => some fun s d =>
    return { s with
      foreignKeys := ← fillPlace "foreign_keys" (decodeList decodeForeignKey) s.foreignKeys d }
  | "singular" => some fun s d =>
    return { s with singular := ← fillPlace "singular" (decodeOption decodeText) s.singular d }
  | _ => none

def decodeTable : Decoder Table :=
  decodeRecord "TableMetadata" TableDraft.place {}
    (fun s =>
      return ⟨← requirePlace "table_name" s.name, s.required.getD [], s.optional.getD [],
        s.foreignKeys.getD [], s.singular.getD none⟩)
    (fun p => do
      let (name, p) ← p.require decodeText 0 "struct TableMetadata with 5 elements"
      let (required, p) ← p.optional (decodeList decodeText) []
      let (optional, p) ← p.optional (decodeList decodeText) []
      let (foreignKeys, p) ← p.optional (decodeList decodeForeignKey) []
      let (singular, p) ← p.optional (decodeOption decodeText) none
      return (⟨name, required, optional, foreignKeys, singular⟩, p))
    5

/-- Texts under keys, by ascending key. The last one of a repeated key counts. -/
def decodeTextMap : Decoder (List (String × String))
  | .object members ending => do
    let entries ← members.foldlM (fun entries (key, value) => do
      let key ←
        match key with
        | .string text => pure text
        | d => mismatch d "a string"
      let value ← decodeText value
      return Ascending.put key value entries) []
    ending.finish
    return entries
  | d => mismatch d "a map"

structure PackageDraft where
  factoryModule : Option String := none
  recordModule : Option String := none
  runtimePath : Option String := none
  recordModules : Option (List (String × String)) := none

def PackageDraft.place : String → Option (PackageDraft → Document → Except Json.Error PackageDraft)
  | "factory_module" => some fun s d =>
    return { s with factoryModule := ← fillPlace "factory_module" decodeText s.factoryModule d }
  | "record_module" => some fun s d =>
    return { s with recordModule := ← fillPlace "record_module" decodeText s.recordModule d }
  | "runtime_path" => some fun s d =>
    return { s with runtimePath := ← fillPlace "runtime_path" decodeText s.runtimePath d }
  | "referenced_record_modules" => some fun s d =>
    return { s with
      recordModules := ← fillPlace "referenced_record_modules" decodeTextMap s.recordModules d }
  | _ => none

def decodePackage : Decoder Package :=
  decodeRecord "PackageInfo" PackageDraft.place {}
    (fun s =>
      return ⟨← requirePlace "factory_module" s.factoryModule,
        ← requirePlace "record_module" s.recordModule, ← requirePlace "runtime_path" s.runtimePath,
        s.recordModules.getD []⟩)
    (fun p => do
      let whole := "struct PackageInfo with 4 elements"
      let (factoryModule, p) ← p.require decodeText 0 whole
      let (recordModule, p) ← p.require decodeText 1 whole
      let (runtimePath, p) ← p.require decodeText 2 whole
      let (recordModules, p) ← p.optional decodeTextMap []
      return (⟨factoryModule, recordModule, runtimePath, recordModules⟩, p))
    4

def encodeForeignKey (k : ForeignKey) : Document :=
  .record [
    ("field_name", some (.text k.field)),
    ("referenced_table", some (.text k.table)),
    ("referenced_record_type", some (.text k.recordType)),
    ("referenced_singular", k.singular.map .text)]

def encodeTexts (texts : List String) : Document := .list (texts.map .text)

def encodeTable (t : Table) : Document :=
  .record [
    ("table_name", some (.text t.name)),
    ("required_fields", some (encodeTexts t.required)),
    ("optional_fields", some (encodeTexts t.optional)),
    ("foreign_keys", some (.list (t.foreignKeys.map encodeForeignKey))),
    ("singular", t.singular.map .text)]

def encodePackage (p : Package) : Document :=
  .record [
    ("factory_module", some (.text p.factoryModule)),
    ("record_module", some (.text p.recordModule)),
    ("runtime_path", some (.text p.runtimePath)),
    ("referenced_record_modules",
      some (.record (p.recordModules.map fun (key, value) => (key, some (.text value)))))]

end RowFactory.Metadata
