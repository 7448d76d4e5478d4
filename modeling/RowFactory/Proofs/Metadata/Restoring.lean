import RowFactory.Metadata.Coding
import RowFactory.Proofs.Schema.Restoring

/-! # Metadata that their texts restore -/

namespace RowFactory.Metadata

open Json

theorem restores_foreignKey (k : ForeignKey) : Restores decodeForeignKey (encodeForeignKey k) k := by
  refine Fills.restores (t := ⟨some k.field, some k.table, some k.recordType, k.singular.map some⟩) ?_ ?_
  · refine .member (ForeignKeyDraft.mk · none none none) rfl (fun _ => rfl) (restores_text k.field) ?_
    refine .member (ForeignKeyDraft.mk _ · none none) rfl (fun _ => rfl) (restores_text k.table) ?_
    refine .member (ForeignKeyDraft.mk _ _ · none) rfl (fun _ => rfl) (restores_text k.recordType) ?_
    refine .optional (ForeignKeyDraft.mk _ _ _ ·) rfl (fun _ => rfl) restores_some_text ?_
    exact .nil _
  · obtain ⟨field, table, recordType, singular⟩ := k
    cases singular <;> rfl

theorem restores_texts (texts : List String) : Restores (decodeList decodeText) (encodeTexts texts) texts :=
  restores_list fun text _ => restores_text text

theorem restores_table (t : Table) : Restores decodeTable (encodeTable t) t := by
  refine Fills.restores
    (t := ⟨some t.name, some t.required, some t.optional, some t.foreignKeys, t.singular.map some⟩) ?_ ?_
  · refine .member (TableDraft.mk · none none none none) rfl (fun _ => rfl) (restores_text t.name) ?_
    refine .member (TableDraft.mk _ · none none none) rfl (fun _ => rfl) (restores_texts t.required) ?_
    refine .member (TableDraft.mk _ _ · none none) rfl (fun _ => rfl) (restores_texts t.optional) ?_
    refine .member (TableDraft.mk _ _ _ · none) rfl (fun _ => rfl) (restores_list fun k _ => restores_foreignKey k) ?_
    refine .optional (TableDraft.mk _ _ _ _ ·) rfl (fun _ => rfl) restores_some_text ?_
    exact .nil _
  · obtain ⟨name, required, optional, foreignKeys, singular⟩ := t
    cases singular <;> rfl

/-- A catalog is restored from its description, and the metadata of a table from their text. -/
theorem descriptions_restored :
    (∀ c : Schema.Catalog, Schema.Catalog.ofText .json c.toText = .ok c) ∧
      ∀ t : Table, decodeWhole decodeTable (read (write (encodeTable t))) = .ok t := by
  refine ⟨fun c => ?_, fun t => (restores_table t).decodeWhole_read_write⟩
  rw [Schema.Catalog.toText, Schema.Catalog.ofText, (Schema.restores_catalog c).decodeWhole_read_write]
  rfl

end RowFactory.Metadata
