import Mathlib.Data.List.Perm.Basic
import RowFactory.Metadata.Extraction
import RowFactory.Proofs.Metadata.Validation

/-! # What extraction makes of a table

The fields are the columns that are no keys, parted by whether they may be empty. What is said of the references
of a table becomes its foreign keys, in another order at most, and what is inferred refers to fields only. So
the metadata is consistent just if the columns and the declared references are.
-/

namespace RowFactory.Metadata

def plainColumns (table : Schema.Table) : List Schema.Column :=
  table.columns.filter fun c => !c.primaryKey && c.name ≠ primaryKeyColumn

theorem plainColumns_eq (table : Schema.Table) : plainColumns table = table.columns.filter (!·.isKey) :=
  List.filter_congr fun c _ => by simp [Schema.Column.isKey]

theorem required_ofTable (catalog : Schema.Catalog) (table : Schema.Table) :
    (ofTable catalog table).required = ((plainColumns table).filter (!·.nullable)).map (·.name) := by
  rw [plainColumns_eq]
  rfl

theorem optional_ofTable (catalog : Schema.Catalog) (table : Schema.Table) :
    (ofTable catalog table).optional = ((plainColumns table).filter (·.nullable)).map (·.name) := by
  rw [plainColumns_eq]
  rfl

theorem perm_fields_ofTable (catalog : Schema.Catalog) (table : Schema.Table) :
    (ofTable catalog table).fields.Perm ((plainColumns table).map (·.name)) := by
  have hParts : ((plainColumns table).filter (·.nullable) ++ (plainColumns table).filter (!·.nullable)).Perm
      (plainColumns table) := by
    simpa using List.filter_append_perm (·.nullable) (plainColumns table)
  rw [Table.fields, required_ofTable, optional_ofTable, ← List.map_append]
  exact (List.perm_append_comm.trans hParts).map _

theorem fieldViolation?_ofTable (catalog : Schema.Catalog) (table : Schema.Table) :
    fieldViolation? [] (ofTable catalog table).fields = none ↔ ((plainColumns table).map (·.name)).Nodup := by
  have hPerm := perm_fields_ofTable catalog table
  have hKey : primaryKeyColumn ∉ (plainColumns table).map (·.name) := by
    intro hMem
    obtain ⟨c, hc, hName⟩ := List.mem_map.mp hMem
    simp [plainColumns, hName] at hc
  rw [fieldViolation?_eq_none_iff, hPerm.nodup_iff, hPerm.mem_iff]
  simp [hKey]

theorem ForeignKey.ofColumn?_eq_some {c : Schema.Column} {key : ForeignKey} :
    ForeignKey.ofColumn? c = some key ↔
      c.isKey = false ∧ ∃ stem, stem? c.name = some stem ∧ key = .between c.name (stem ++ "s") := by
  rw [ForeignKey.ofColumn?]
  cases c.isKey
  · simp [Option.map_eq_some_iff, @eq_comm _ key]
  · simp

theorem field_inferForeignKeys_sublist (table : Schema.Table) :
    ((inferForeignKeys table).map (·.field)).Sublist ((plainColumns table).map (·.name)) := by
  rw [inferForeignKeys, plainColumns_eq]
  induction table.columns with
  | nil => exact .slnil
  | cons c rest ih =>
    cases hKey : ForeignKey.ofColumn? c with
    -- A column that refers to nothing may be a field all the same.
    | none =>
      rw [List.filterMap_cons_none hKey, List.filter_cons]
      split
      · exact ih.cons _
      · exact ih
    | some key =>
      obtain ⟨hPlain, stem, _, rfl⟩ := ForeignKey.ofColumn?_eq_some.mp hKey
      rw [List.filterMap_cons_some hKey, List.filter_cons_of_pos (by simp [hPlain])]
      exact ih.cons_cons _

theorem perm_declaredForeignKeys (table : Schema.Table) :
    (declaredForeignKeys table).Perm
      ((table.foreignKeys.getD []).map fun r => .between r.field r.references) := by
  -- Sorting only permutes, and the places that it sorts by are dropped again.
  have hSorted := List.mergeSort_perm
    ((table.foreignKeys.getD []).map fun r =>
      (table.position? r.field, ForeignKey.between r.field r.references))
    (fun a b => placeLe a.1 b.1)
  have hMap := hSorted.map (·.2)
  rw [List.map_map] at hMap
  exact hMap

theorem eq_of_mem_foreignKeysOf {catalog : Schema.Catalog} {table : Schema.Table} {key : ForeignKey}
    (h : key ∈ foreignKeysOf catalog table) :
    key = ⟨key.field, key.table, recordTypeName key.table, catalog.singular? key.table⟩ := by
  obtain ⟨plain, hPlain, rfl⟩ := List.mem_map.mp h
  obtain ⟨field, table, rfl⟩ : ∃ field table, plain = .between field table := by
    split at hPlain
    · obtain ⟨r, _, rfl⟩ := List.mem_map.mp ((perm_declaredForeignKeys table).mem_iff.mp hPlain)
      exact ⟨_, _, rfl⟩
    · obtain ⟨c, _, hKey⟩ := List.mem_filterMap.mp hPlain
      obtain ⟨_, stem, _, rfl⟩ := ForeignKey.ofColumn?_eq_some.mp hKey
      exact ⟨_, _, rfl⟩
  rfl

theorem field_foreignKeysOf (catalog : Schema.Catalog) (table : Schema.Table) :
    (foreignKeysOf catalog table).map (·.field) =
      (if table.foreignKeys.isSome then declaredForeignKeys table else inferForeignKeys table).map (·.field) := by
  rw [foreignKeysOf, List.map_map]
  rfl

theorem name_ofName (catalog : Schema.Catalog) (name : String) : (ofName catalog name).name = name := by
  rw [ofName]
  cases hTable : catalog.table? name with
  | none => rfl
  | some table =>
    have hName : table.name = name := by simpa using List.find?_some hTable
    exact hName

theorem singular_ofName (catalog : Schema.Catalog) (name : String) :
    (ofName catalog name).singular = catalog.singular? name := by
  rw [ofName, Schema.Catalog.singular?]
  cases catalog.table? name <;> rfl

theorem keyViolation?_of_inferred {catalog : Schema.Catalog} {table : Schema.Table} (h : table.foreignKeys = none)
    (hNodup : ((plainColumns table).map (·.name)).Nodup) :
    keyViolation? (ofTable catalog table).fields [] (ofTable catalog table).foreignKeys = none := by
  have hFields : (ofTable catalog table).foreignKeys.map (·.field) = (inferForeignKeys table).map (·.field) := by
    rw [ofTable, field_foreignKeysOf, h]
    rfl
  have hSublist := field_inferForeignKeys_sublist table
  rw [← hFields] at hSublist
  refine keyViolation?_eq_none_iff.mpr ⟨fun key hKey => ?_, hNodup.sublist hSublist, fun _ _ => List.not_mem_nil⟩
  exact (perm_fields_ofTable catalog table).mem_iff.mpr (hSublist.subset (List.mem_map_of_mem hKey))

theorem keyViolation?_of_declared {catalog : Schema.Catalog} {table : Schema.Table}
    {references : List Schema.Reference} (h : table.foreignKeys = some references) :
    keyViolation? (ofTable catalog table).fields [] (ofTable catalog table).foreignKeys = none ↔
      (∀ r ∈ references, r.field ∈ (plainColumns table).map (·.name)) ∧ (references.map (·.field)).Nodup := by
  have hFields : ((ofTable catalog table).foreignKeys.map (·.field)).Perm (references.map (·.field)) := by
    have hPerm := (perm_declaredForeignKeys table).map (·.field)
    rw [h, Option.getD_some, List.map_map] at hPerm
    rw [ofTable, field_foreignKeysOf, h]
    exact hPerm
  have hMem : (∀ key ∈ (ofTable catalog table).foreignKeys, key.field ∈ (ofTable catalog table).fields) ↔
      ∀ r ∈ references, r.field ∈ (plainColumns table).map (·.name) := by
    rw [← List.forall_mem_map (f := ForeignKey.field) (P := (· ∈ (ofTable catalog table).fields)),
      ← List.forall_mem_map (f := Schema.Reference.field) (P := (· ∈ (plainColumns table).map (·.name)))]
    simp only [hFields.mem_iff, (perm_fields_ofTable catalog table).mem_iff]
  rw [keyViolation?_eq_none_iff, hFields.nodup_iff, hMem]
  simp

theorem validate_of_inferred {catalog : Schema.Catalog} {table : Schema.Table} (h : table.foreignKeys = none) :
    (ofTable catalog table).validate = { ofTable catalog table with foreignKeys := [] }.validate := by
  have hViolation : (ofTable catalog table).violation? =
      { ofTable catalog table with foreignKeys := [] }.violation? := by
    change (fieldViolation? [] (ofTable catalog table).fields <|> keyViolation? _ [] _) =
      (fieldViolation? [] (ofTable catalog table).fields <|> none)
    cases hFields : fieldViolation? [] (ofTable catalog table).fields with
    | some v => rfl
    | none => rw [keyViolation?_of_inferred h ((fieldViolation?_ofTable catalog table).mp hFields)]
  rw [Table.validate, Table.validate, hViolation]

/-- The fields are the columns that are no keys, each once, and those that may be empty are optional. The metadata is
consistent just if these columns have different names and every declared reference belongs to one of them, and to
another one each; what is inferred from column names is consistent whenever the fields are. -/
theorem extraction_consistent_iff (catalog : Schema.Catalog) (table : Schema.Table) :
    let t := ofTable catalog table
    let names := (plainColumns table).map (·.name)
    (t.required = ((plainColumns table).filter (!·.nullable)).map (·.name) ∧
      t.optional = ((plainColumns table).filter (·.nullable)).map (·.name) ∧ t.fields.Perm names) ∧
    (t.validate = .ok () ↔ names.Nodup ∧ ∀ references, table.foreignKeys = some references →
      (∀ r ∈ references, r.field ∈ names) ∧ (references.map (·.field)).Nodup) ∧
    (table.foreignKeys = none → t.validate = { t with foreignKeys := [] }.validate) := by
  intro t names
  refine ⟨⟨required_ofTable catalog table, optional_ofTable catalog table, perm_fields_ofTable catalog table⟩, ?_,
    validate_of_inferred⟩
  rw [Table.validate_eq_ok_iff, Table.violation?_eq_none_iff, fieldViolation?_ofTable]
  refine and_congr_right fun hNodup => ?_
  cases hKeys : table.foreignKeys with
  | none =>
    have hFine : keyViolation? t.fields [] t.foreignKeys = none := keyViolation?_of_inferred hKeys hNodup
    simp [hFine]
  | some references =>
    simp only [Option.some.injEq, forall_eq']
    exact keyViolation?_of_declared hKeys

end RowFactory.Metadata
