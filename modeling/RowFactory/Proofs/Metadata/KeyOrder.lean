import Mathlib.Data.List.Nodup
import RowFactory.Fixtures.Tables
import RowFactory.Proofs.Metadata.Extraction

/-! # The order of foreign keys

Declared references become foreign keys in the order of the columns that they name, whatever the order of their
declaration; only references of one column, and those of no column, stay as they were declared. What is inferred
stands in this order already, so that it makes no difference to declare it.
-/

namespace RowFactory.Metadata

theorem placeLe_iff {a b : Option Nat} : placeLe a b ↔ ∀ j, b = some j → ∃ i ≤ j, a = some i := by
  cases a <;> cases b <;> simp [placeLe]

theorem placeLe_trans (a b c : Option Nat) (hab : placeLe a b) (hbc : placeLe b c) : placeLe a c := by
  rw [placeLe_iff] at hab hbc ⊢
  intro k hk
  obtain ⟨j, hjk, hj⟩ := hbc k hk
  obtain ⟨i, hij, hi⟩ := hab j hj
  exact ⟨i, Nat.le_trans hij hjk, hi⟩

theorem placeLe_total (a b : Option Nat) : placeLe a b || placeLe b a := by
  cases a <;> cases b <;> simp [placeLe, Nat.le_total]

theorem placeLe_antisymm {a b : Option Nat} (hab : placeLe a b) (hba : placeLe b a) : a = b := by
  cases a <;> cases b <;> simp_all [placeLe, Nat.le_antisymm_iff]

def placeOf (table : Schema.Table) (key : ForeignKey) : Option Nat := table.position? key.field

/-- Keys in the order of the columns of a table: a key of a column comes after keys of columns only, none of which is a
later one. Keys of one place stand as they were declared. -/
structure FollowsColumns (table : Schema.Table) (declared keys : List ForeignKey) : Prop where
  perm : keys.Perm declared
  ordered : keys.Pairwise fun a b => ∀ j, placeOf table b = some j → ∃ i ≤ j, placeOf table a = some i
  stable : ∀ place, keys.filter (placeOf table · = place) = declared.filter (placeOf table · = place)

def keysOf (references : List Schema.Reference) : List ForeignKey :=
  references.map fun r => .between r.field r.references

theorem declaredForeignKeys_eq (table : Schema.Table) :
    declaredForeignKeys table =
      (keysOf (table.foreignKeys.getD [])).mergeSort fun a b => placeLe (placeOf table a) (placeOf table b) := by
  rw [declaredForeignKeys, List.map_mergeSort, List.map_map]
  · rfl
  · intro a ha b hb
    obtain ⟨_, _, rfl⟩ := List.mem_map.mp ha
    obtain ⟨_, _, rfl⟩ := List.mem_map.mp hb
    rfl

theorem followsColumns_mergeSort (table : Schema.Table) (declared : List ForeignKey) :
    FollowsColumns table declared
      (declared.mergeSort fun a b => placeLe (placeOf table a) (placeOf table b)) := by
  have hTrans (a b c : ForeignKey) := placeLe_trans (placeOf table a) (placeOf table b) (placeOf table c)
  have hTotal (a b : ForeignKey) := placeLe_total (placeOf table a) (placeOf table b)
  have hPerm := List.mergeSort_perm declared fun a b => placeLe (placeOf table a) (placeOf table b)
  refine ⟨hPerm, (List.pairwise_mergeSort hTrans hTotal declared).imp placeLe_iff.mp, fun place => ?_⟩
  -- Keys of one place are in order as they stand, so that sorting keeps them, and it adds none.
  have hPart : (declared.filter (placeOf table · = place)).Pairwise
      fun a b => placeLe (placeOf table a) (placeOf table b) := by
    refine List.pairwise_of_forall_mem_list fun a ha b hb => ?_
    rw [of_decide_eq_true (List.mem_filter.mp ha).2, of_decide_eq_true (List.mem_filter.mp hb).2]
    exact placeLe_iff.mpr fun j hj => ⟨j, Nat.le_refl j, hj⟩
  have hSublist := (List.sublist_mergeSort hTrans hTotal hPart List.filter_sublist).filter (placeOf table · = place)
  rw [List.filter_filter] at hSublist
  simp only [Bool.and_self] at hSublist
  exact (hSublist.eq_of_length ((hPerm.filter _).length_eq).symm).symm

def ForeignKey.toReference (key : ForeignKey) : Schema.Reference := ⟨key.field, key.table⟩

theorem keysOf_inferred (table : Schema.Table) :
    keysOf ((inferForeignKeys table).map (·.toReference)) = inferForeignKeys table := by
  rw [keysOf, List.map_map]
  refine (List.map_congr_left fun key hKey => ?_).trans (List.map_id _)
  obtain ⟨c, _, hColumn⟩ := List.mem_filterMap.mp hKey
  obtain ⟨_, stem, _, rfl⟩ := ForeignKey.ofColumn?_eq_some.mp hColumn
  rfl

theorem field_inferred_sublist (table : Schema.Table) :
    ((inferForeignKeys table).map (·.field)).Sublist (table.columns.map (·.name)) :=
  (field_inferForeignKeys_sublist table).trans (List.filter_sublist.map _)

section Inferred

variable {table : Schema.Table} (hNodup : (table.columns.map (·.name)).Nodup)

include hNodup

theorem position?_of_getElem {i : Nat} (hi : i < table.columns.length) :
    table.position? table.columns[i].name = some i := by
  rw [Schema.Table.position?, List.findIdx?_eq_some_iff_getElem]
  refine ⟨hi, decide_eq_true rfl, fun j hj hName => ?_⟩
  have hDiffer := List.pairwise_iff_getElem.mp (List.pairwise_map.mp hNodup) j i (Nat.lt_trans hj hi) hi hj
  exact hDiffer (of_decide_eq_true hName)

theorem pairwise_inferred :
    (inferForeignKeys table).Pairwise fun a b => placeLe (placeOf table a) (placeOf table b) := by
  have hColumns : (table.columns.map (·.name)).Pairwise fun a b => placeLe (table.position? a) (table.position? b) := by
    rw [List.pairwise_map, List.pairwise_iff_getElem]
    intro i j hi hj hij
    rw [position?_of_getElem hNodup hi, position?_of_getElem hNodup hj]
    exact decide_eq_true (Nat.le_of_lt hij)
  exact List.pairwise_map.mp (hColumns.sublist (field_inferred_sublist table))

theorem eq_of_place_eq {a b : ForeignKey} (ha : a ∈ inferForeignKeys table) (hb : b ∈ inferForeignKeys table)
    (hPlace : placeOf table a = placeOf table b) : a = b := by
  have hSublist := field_inferred_sublist table
  have hColumn {key : ForeignKey} (hKey : key ∈ inferForeignKeys table) :
      ∃ i, ∃ hi : i < table.columns.length, table.columns[i].name = key.field := by
    obtain ⟨c, hc, hName⟩ := List.mem_map.mp (hSublist.subset (List.mem_map_of_mem hKey))
    obtain ⟨i, hi, rfl⟩ := List.mem_iff_getElem.mp hc
    exact ⟨i, hi, hName⟩
  obtain ⟨i, hi, hField⟩ := hColumn ha
  obtain ⟨j, hj, hOther⟩ := hColumn hb
  rw [placeOf, placeOf, ← hField, ← hOther, position?_of_getElem hNodup hi, position?_of_getElem hNodup hj] at hPlace
  cases Option.some.inj hPlace
  exact List.inj_on_of_nodup_map (hNodup.sublist hSublist) ha hb (hField.symm.trans hOther)

end Inferred

def undeclared (table : Schema.Table) : Schema.Table := { table with foreignKeys := none }

def declaring (table : Schema.Table) (references : List Schema.Reference) : Schema.Table :=
  { table with foreignKeys := some references }

theorem declaredForeignKeys_declaring (table : Schema.Table) (references : List Schema.Reference) :
    declaredForeignKeys (declaring table references) =
      (keysOf references).mergeSort fun a b => placeLe (placeOf table a) (placeOf table b) :=
  declaredForeignKeys_eq (declaring table references)

theorem declaredForeignKeys_of_inferred {table : Schema.Table} (hNodup : (table.columns.map (·.name)).Nodup)
    {references : List Schema.Reference} (h : references.Perm ((inferForeignKeys table).map (·.toReference))) :
    declaredForeignKeys (declaring table references) = inferForeignKeys table := by
  have hFollows := followsColumns_mergeSort table (keysOf references)
  have hInferred : (keysOf references).Perm (inferForeignKeys table) := by
    rw [← keysOf_inferred table]
    exact h.map _
  rw [declaredForeignKeys_declaring]
  refine (hFollows.perm.trans hInferred).eq_of_pairwise (fun a b ha hb hab hba => ?_)
    (hFollows.ordered.imp placeLe_iff.mpr) (pairwise_inferred hNodup)
  have hMem := (hFollows.perm.trans hInferred).mem_iff.mp ha
  exact eq_of_place_eq hNodup hMem hb (placeLe_antisymm hab hba)

/-- Declared references become foreign keys in the order of the columns. When the columns of a table have different
names, the references that their names tell can be declared in any order, and in every catalog the metadata of the
table stays the same. -/
theorem declared_follow_columns (table : Schema.Table) (references : List Schema.Reference) :
    FollowsColumns table (keysOf references) (declaredForeignKeys (declaring table references)) ∧
    ((table.columns.map (·.name)).Nodup →
      references.Perm ((inferForeignKeys table).map (·.toReference)) →
        ∀ catalog, ofTable catalog (declaring table references) = ofTable catalog (undeclared table)) := by
  refine ⟨?_, fun hNodup hPerm catalog => ?_⟩
  · rw [declaredForeignKeys_declaring]
    exact followsColumns_mergeSort table (keysOf references)
  · have hKeys : foreignKeysOf catalog (declaring table references) = foreignKeysOf catalog (undeclared table) := by
      change (declaredForeignKeys (declaring table references)).map _ = (inferForeignKeys table).map _
      rw [declaredForeignKeys_of_inferred hNodup hPerm]
    exact congrArg (fun keys => { ofTable catalog (undeclared table) with foreignKeys := keys }) hKeys

theorem declared_follow_columns_comments :
    let references : List Schema.Reference := [⟨"user_id", "users"⟩, ⟨"post_id", "posts"⟩]
    (Fixtures.comments.columns.map (·.name)).Nodup ∧
      references.Perm ((inferForeignKeys Fixtures.comments).map (·.toReference)) ∧
      ofTable Fixtures.catalog (declaring Fixtures.comments references) =
        ofTable Fixtures.catalog Fixtures.comments := by
  intro references
  have hNodup : (Fixtures.comments.columns.map (·.name)).Nodup := by decide
  have hPerm : references.Perm ((inferForeignKeys Fixtures.comments).map (·.toReference)) := by decide +kernel
  exact ⟨hNodup, hPerm, (declared_follow_columns Fixtures.comments references).2 hNodup hPerm Fixtures.catalog⟩

end RowFactory.Metadata
