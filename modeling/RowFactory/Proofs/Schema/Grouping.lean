import Mathlib.Data.List.Induction
import Mathlib.Data.List.Nodup
import RowFactory.Schema.Catalog

/-! # Catalogs from flat rows

Rows of several tables may stand in any order. A catalog made from them has one table for each table name, in the
order in which the names are first met, and each table has just the rows of its name, in their order.
-/

namespace RowFactory.Schema

def rowsOf {α : Type} (name : String) (rows : List (String × α)) : List α := (rows.filter (·.1 = name)).map (·.2)

section Rows

variable {α : Type} {name : String}

theorem rowsOf_concat_self (rows : List (String × α)) (row : α) :
    rowsOf name (rows ++ [(name, row)]) = rowsOf name rows ++ [row] := by
  simp [rowsOf]

theorem rowsOf_concat_of_ne {other : String} (h : other ≠ name) (rows : List (String × α)) (row : α) :
    rowsOf name (rows ++ [(other, row)]) = rowsOf name rows := by
  simp [rowsOf, h]

theorem rowsOf_eq_nil {rows : List (String × α)} (h : name ∉ rows.map (·.1)) : rowsOf name rows = [] := by
  rw [rowsOf, List.filter_eq_nil_iff.mpr, List.map_nil]
  intro row hRow hName
  exact h (List.mem_map.mpr ⟨row, hRow, of_decide_eq_true hName⟩)

end Rows

def namesOf {α : Type} (rows : List (String × α)) : List String := (rows.map (·.1)).eraseDups

section Names

variable {α : Type} {name : String} {rows : List (String × α)}

theorem mem_namesOf : name ∈ namesOf rows ↔ name ∈ rows.map (·.1) := List.mem_eraseDups

theorem namesOf_concat_of_mem (h : name ∈ namesOf rows) (row : α) : namesOf (rows ++ [(name, row)]) = namesOf rows := by
  rw [mem_namesOf] at h
  rw [namesOf, List.map_append, List.eraseDups_append, List.map_singleton]
  simp [List.removeAll, h, namesOf]

theorem namesOf_concat_of_not_mem (h : name ∉ namesOf rows) (row : α) :
    namesOf (rows ++ [(name, row)]) = namesOf rows ++ [name] := by
  rw [mem_namesOf] at h
  rw [namesOf, List.map_append, List.eraseDups_append, List.map_singleton]
  simp [List.removeAll, h, namesOf, List.eraseDups_cons]

theorem nodup_namesOf (rows : List (String × α)) : (namesOf rows).Nodup := by
  induction rows using List.reverseRecOn with
  | nil => exact List.nodup_nil
  | append_singleton rows row ih =>
    obtain ⟨name, row⟩ := row
    by_cases h : name ∈ namesOf rows
    · rw [namesOf_concat_of_mem h]
      exact ih
    · rw [namesOf_concat_of_not_mem h, List.nodup_append]
      refine ⟨ih, List.nodup_singleton name, fun a ha b hb => ?_⟩
      rw [List.mem_singleton.mp hb]
      rintro rfl
      exact h ha

end Names

theorem modifyFirst_map {names : List String} (hNodup : names.Nodup) {table : String → Table}
    (hName : ∀ n ∈ names, (table n).name = n) (name : String) (f : Table → Table) :
    Catalog.modifyFirst name f (names.map table) = names.map fun n => if n = name then f (table n) else table n := by
  induction names with
  | nil => rfl
  | cons n rest ih =>
    obtain ⟨hNew, hRest⟩ := List.nodup_cons.mp hNodup
    rw [List.map_cons, List.map_cons, Catalog.modifyFirst, hName n List.mem_cons_self]
    split
    · rename_i hSame
      -- The name is not met again, so that the others stay as they are.
      have hOthers : rest.map (fun n => if n = name then f (table n) else table n) = rest.map table := by
        refine List.map_congr_left fun m hm => if_neg ?_
        rintro rfl
        exact hNew (hSame ▸ hm)
      rw [hOthers]
    · rw [ih hRest fun m hm => hName m (List.mem_cons_of_mem n hm)]

/-- The table that the rows of one name make up. -/
def tableOf (columns : List (String × Column)) (references : Option (List (String × Reference))) (name : String) :
    Table :=
  { name, columns := rowsOf name columns, foreignKeys := references.map (rowsOf name) }

theorem insertColumn_tables (columns : List (String × Column)) (name : String) (column : Column) :
    Catalog.insertColumn ((namesOf columns).map (tableOf columns none)) name column =
      (namesOf (columns ++ [(name, column)])).map (tableOf (columns ++ [(name, column)]) none) := by
  have hOther (n : String) (h : n ≠ name) : tableOf (columns ++ [(name, column)]) none n = tableOf columns none n := by
    rw [tableOf, rowsOf_concat_of_ne h.symm, tableOf]
  have hKnown : ((namesOf columns).map (tableOf columns none)).any (·.name = name) ↔ name ∈ namesOf columns := by
    rw [List.any_map, List.any_eq_true]
    constructor
    · rintro ⟨n, hn, hName⟩
      exact (of_decide_eq_true hName : n = name) ▸ hn
    · exact fun h => ⟨name, h, decide_eq_true rfl⟩
  rw [Catalog.insertColumn]
  by_cases hMem : name ∈ namesOf columns
  · rw [if_pos (hKnown.mpr hMem), namesOf_concat_of_mem hMem, modifyFirst_map (nodup_namesOf _) fun _ _ => rfl]
    refine List.map_congr_left fun n _ => ?_
    split
    · rename_i hName
      rw [hName, tableOf, tableOf, rowsOf_concat_self]
      rfl
    · rename_i hName
      exact (hOther n hName).symm
  · rw [if_neg (mt hKnown.mp hMem), namesOf_concat_of_not_mem hMem, List.map_append, List.map_singleton, tableOf,
      rowsOf_concat_self, rowsOf_eq_nil (mt mem_namesOf.mpr hMem)]
    refine congrArg (· ++ _) (List.map_congr_left fun n hn => (hOther n ?_).symm)
    rintro rfl
    exact hMem hn

theorem foldl_insertColumn (columns : List (String × Column)) :
    columns.foldl (fun tables (name, column) => Catalog.insertColumn tables name column) [] =
      (namesOf columns).map (tableOf columns none) := by
  induction columns using List.reverseRecOn with
  | nil => rfl
  | append_singleton columns row ih =>
    obtain ⟨name, column⟩ := row
    rw [List.foldl_append, ih]
    exact insertColumn_tables columns name column

theorem foldl_addReference (columns : List (String × Column)) (rows : List (String × Reference)) :
    rows.foldl (fun tables (name, r) => Catalog.modifyFirst name (·.addReference r) tables)
        ((namesOf columns).map (tableOf columns (some []))) =
      (namesOf columns).map (tableOf columns (some rows)) := by
  induction rows using List.reverseRecOn with
  | nil => rfl
  | append_singleton rows row ih =>
    obtain ⟨name, r⟩ := row
    rw [List.foldl_append, ih]
    change Catalog.modifyFirst name (·.addReference r) _ = _
    rw [modifyFirst_map (nodup_namesOf _) fun _ _ => rfl]
    refine List.map_congr_left fun n _ => ?_
    rw [tableOf, tableOf, Option.map_some, Option.map_some]
    split
    · rename_i hName
      rw [hName, rowsOf_concat_self]
      rfl
    · rename_i hName
      rw [rowsOf_concat_of_ne (Ne.symm hName)]

theorem ofRows_eq (columns : List (String × Column)) (references : Option (List (String × Reference))) :
    Catalog.ofRows columns references = ⟨(namesOf columns).map (tableOf columns references)⟩ := by
  cases references with
  | none => exact congrArg Catalog.mk (foldl_insertColumn columns)
  | some rows =>
    rw [← foldl_addReference columns rows]
    change Catalog.mk (rows.foldl _ (List.map _ (columns.foldl _ []))) = _
    rw [foldl_insertColumn, List.map_map]
    rfl

/-- A catalog from rows has a table for each name among the column rows, once and in the order of their first
appearance. The columns of a table are its column rows in their order. If there are rows of references, its declared
references are those of its name in their order, and otherwise none are declared. Rows of references with an unknown
name make no difference. -/
theorem ofRows_groups (columns : List (String × Column)) (references : Option (List (String × Reference))) :
    let catalog := Catalog.ofRows columns references
    (catalog.names.Nodup ∧ catalog.names = namesOf columns) ∧
    (∀ t ∈ catalog.tables, t.columns = rowsOf t.name columns ∧ t.foreignKeys = references.map (rowsOf t.name) ∧
      t.singular = none) ∧
    catalog = Catalog.ofRows columns (references.map fun rows => rows.filter (·.1 ∈ catalog.names)) := by
  intro catalog
  have hCatalog : catalog = ⟨(namesOf columns).map (tableOf columns references)⟩ := ofRows_eq columns references
  have hNames : catalog.names = namesOf columns := by
    rw [hCatalog, Catalog.names, List.map_map]
    exact List.map_id _
  refine ⟨⟨hNames ▸ nodup_namesOf _, hNames⟩, fun t ht => ?_, ?_⟩
  · rw [hCatalog] at ht
    obtain ⟨name, _, rfl⟩ := List.mem_map.mp ht
    exact ⟨rfl, rfl, rfl⟩
  · rw [ofRows_eq, hNames]
    refine hCatalog.trans (congrArg Catalog.mk (List.map_congr_left fun name hName => ?_))
    have hRows (rows : List (String × Reference)) :
        rowsOf name (rows.filter (·.1 ∈ namesOf columns)) = rowsOf name rows := by
      rw [rowsOf, rowsOf, List.filter_filter]
      refine congrArg _ (List.filter_congr fun row _ => ?_)
      by_cases hRow : row.1 = name
      · simp [hRow, hName]
      · simp [hRow]
    cases references with
    | none => rfl
    | some rows => rw [tableOf, tableOf, Option.map_some, Option.map_some, Option.map_some, hRows]

end RowFactory.Schema
