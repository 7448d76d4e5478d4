import RowFactory.Proofs.Json.Records
import RowFactory.Schema.Reading

/-! # Catalogs that their descriptions restore

The members of a record are followed in the order in which they are written; a member that is left out leaves its
place empty, and an empty place stands for what is not declared.
-/

namespace RowFactory.Schema

open Json

theorem restores_column (c : Column) : Restores decodeColumn (encodeColumn c) c := by
  refine Fills.restores (t := ⟨some c.name, some c.nullable, some c.primaryKey⟩) ?_ rfl
  refine .member (ColumnDraft.mk · none none) rfl (fun _ => rfl) (restores_text c.name) ?_
  refine .member (ColumnDraft.mk _ · none) rfl (fun _ => rfl) (restores_flag c.nullable) ?_
  refine .member (ColumnDraft.mk _ _ ·) rfl (fun _ => rfl) (restores_flag c.primaryKey) ?_
  exact .nil _

theorem restores_reference (r : Reference) : Restores decodeReference (encodeReference r) r := by
  refine Fills.restores (t := ⟨some r.field, some r.references⟩) ?_ rfl
  refine .member (ReferenceDraft.mk · none) rfl (fun _ => rfl) (restores_text r.field) ?_
  refine .member (ReferenceDraft.mk _ ·) rfl (fun _ => rfl) (restores_text r.references) ?_
  exact .nil _

theorem restores_table (t : Table) : Restores decodeTable (encodeTable t) t := by
  refine Fills.restores (t := ⟨some t.name, t.singular.map some, some t.columns, t.foreignKeys.map some⟩) ?_ ?_
  · refine .member (TableDraft.mk · none none none) rfl (fun _ => rfl) (restores_text t.name) ?_
    refine .optional (TableDraft.mk _ · none none) rfl (fun _ => rfl) restores_some_text ?_
    refine .member (TableDraft.mk _ _ · none) rfl (fun _ => rfl) (restores_list fun c _ => restores_column c) ?_
    refine .optional (TableDraft.mk _ _ _ ·) rfl (fun _ => rfl)
      (fun keys => restores_some_list fun r _ => restores_reference r) ?_
    exact .nil _
  · obtain ⟨name, singular, columns, foreignKeys⟩ := t
    cases singular <;> cases foreignKeys <;> rfl

theorem restores_catalog (c : Catalog) : Restores decodeCatalog (encodeCatalog c) c := by
  have hTables := restores_list fun t (_ : t ∈ c.tables) => restores_table t
  refine Fills.restores (t := some c.tables) ?_ rfl
  exact .present hTables.plain (if_pos rfl) (fillPlace_none "tables" hTables.decodes) (.nil _)

end RowFactory.Schema
