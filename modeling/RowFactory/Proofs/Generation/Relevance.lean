import RowFactory.Fixtures.Tables
import RowFactory.Proofs.Generation.Accounting
import RowFactory.Proofs.Generation.Records

/-! # What a run takes from a catalog

A run looks up the tables that are declared, and of the tables to which these refer it takes the singular forms.
Catalogs that agree there have the same outcome, whatever else they hold and in whatever order.
-/

namespace RowFactory.Generation

open Source (Declaration Index)
open Schema (Catalog)

variable {catalog other : Catalog} {options : Options} {index : Index}

/-- The catalogs have the same first entry for every declared table, and the same singular form for every table
to which such an entry refers. -/
structure Agree (index : Index) (catalog other : Catalog) : Prop where
  entry : ∀ d ∈ index.declarations, other.table? d.table = catalog.table? d.table
  singular : ∀ d ∈ index.declarations, ∀ table, catalog.table? d.table = some table →
    ∀ key ∈ Metadata.foreignKeysOf catalog table, other.singular? key.table = catalog.singular? key.table

theorem foreignKeysOf_congr {table : Schema.Table}
    (h : ∀ key ∈ Metadata.foreignKeysOf catalog table, other.singular? key.table = catalog.singular? key.table) :
    Metadata.foreignKeysOf other table = Metadata.foreignKeysOf catalog table := by
  rw [Metadata.foreignKeysOf] at h
  rw [Metadata.foreignKeysOf, Metadata.foreignKeysOf]
  refine List.map_congr_left fun key hKey => ?_
  rw [h _ (List.mem_map_of_mem hKey)]

theorem Agree.resolve_eq (h : Agree index catalog other) {d : Declaration} (hd : d ∈ index.declarations) :
    Metadata.resolve other d.table d.declaredBy = Metadata.resolve catalog d.table d.declaredBy := by
  rw [Metadata.resolve, Metadata.resolve, h.entry d hd]
  cases hTable : catalog.table? d.table with
  | none => rfl
  | some table =>
    change Except.ok (Metadata.ofTable other table) = Except.ok (Metadata.ofTable catalog table)
    rw [Metadata.ofTable, Metadata.ofTable, foreignKeysOf_congr (h.singular d hd table hTable)]

theorem Agree.generateTable_eq (h : Agree index catalog other) {d : Declaration} (hd : d ∈ index.declarations) :
    generateTable other options index d = generateTable catalog options index d := by
  rw [generateTable, generateTable, h.resolve_eq hd]

theorem attempts_congr {declarations : List Declaration}
    (h : ∀ d ∈ declarations, generateTable other options index d = generateTable catalog options index d)
    (earlier : List Declaration) :
    attempts other options index earlier declarations = attempts catalog options index earlier declarations := by
  induction declarations generalizing earlier with
  | nil => rfl
  | cons d rest ih =>
    have hAttempt : attempt other options index earlier d = attempt catalog options index earlier d := by
      rw [attempt, attempt, h d List.mem_cons_self]
    rw [attempts, attempts, hAttempt, ih fun e he => h e (List.mem_cons_of_mem d he)]

theorem Agree.process_eq (h : Agree index catalog other) :
    process other options index = process catalog options index := by
  rw [process, process, attempts_congr fun d hd => h.generateTable_eq hd]

def relevantNames (catalog : Catalog) (index : Index) : List String :=
  index.declarations.flatMap fun d =>
    d.table :: (((catalog.table? d.table).map (Metadata.foreignKeysOf catalog)).getD []).map (·.table)

theorem agree_of_relevant (h : ∀ name ∈ relevantNames catalog index, other.table? name = catalog.table? name) :
    Agree index catalog other where
  entry d hd := h d.table (List.mem_flatMap.mpr ⟨d, hd, List.mem_cons_self⟩)
  singular d hd table hTable key hKey := by
    have hName : key.table ∈ relevantNames catalog index := by
      refine List.mem_flatMap.mpr ⟨d, hd, List.mem_cons_of_mem _ ?_⟩
      rw [hTable]
      exact List.mem_map_of_mem hKey
    rw [Catalog.singular?, Catalog.singular?, h key.table hName]

def tablesNamed (catalog : Catalog) (names : List String) : List Schema.Table :=
  catalog.tables.filter fun table => table.name ∈ names

theorem find?_tablesNamed (catalog : Catalog) {names : List String} {name : String} (hName : name ∈ names) :
    (tablesNamed catalog names).find? (·.name = name) = catalog.table? name := by
  rw [tablesNamed, List.find?_filter, Catalog.table?]
  refine congrArg (List.find? · catalog.tables) (funext fun table => ?_)
  by_cases hTable : table.name = name
  · simp [hTable, hName]
  · simp [hTable]

theorem agree_of_tablesNamed
    (h : tablesNamed other (relevantNames catalog index) = tablesNamed catalog (relevantNames catalog index)) :
    Agree index catalog other :=
  agree_of_relevant fun name hName => by rw [← find?_tablesNamed other hName, h, find?_tablesNamed catalog hName]

theorem table?_eq_some_iff (hNames : catalog.names.Nodup) {name : String} {table : Schema.Table} :
    catalog.table? name = some table ↔ table ∈ catalog.tables ∧ table.name = name := by
  constructor
  · intro h
    exact ⟨List.mem_of_find?_eq_some h, by simpa using List.find?_some h⟩
  · rintro ⟨hTable, rfl⟩
    cases hFound : catalog.table? table.name with
    | none => simpa using List.find?_eq_none.mp hFound table hTable
    | some found =>
      have hSame : found.name = table.name := by simpa using List.find?_some hFound
      exact congrArg some (List.inj_on_of_nodup_map hNames (List.mem_of_find?_eq_some hFound) hTable hSame)

theorem table?_of_perm (hNames : catalog.names.Nodup) (hPerm : other.tables.Perm catalog.tables) (name : String) :
    other.table? name = catalog.table? name := by
  have hOther : other.names.Nodup := (hPerm.map Schema.Table.name).nodup_iff.mpr hNames
  refine Option.ext fun table => ?_
  rw [table?_eq_some_iff hOther, table?_eq_some_iff hNames, hPerm.mem_iff]

/-- A run with another catalog has the same outcome if the catalogs agree; in particular if the tables have other
places and no name is there twice, and if the catalogs differ only in tables that are not declared and to which no
declared one refers. -/
theorem process_relevant (catalog other : Catalog) (options : Options) (index : Index) :
    (Agree index catalog other → process other options index = process catalog options index) ∧
      (catalog.names.Nodup → other.tables.Perm catalog.tables →
        process other options index = process catalog options index) ∧
      (tablesNamed other (relevantNames catalog index) = tablesNamed catalog (relevantNames catalog index) →
        process other options index = process catalog options index) := by
  refine ⟨Agree.process_eq, fun hNames hPerm => ?_, fun hTables => (agree_of_tablesNamed hTables).process_eq⟩
  have hAgree : Agree index catalog other := agree_of_relevant fun name _ => table?_of_perm hNames hPerm name
  exact hAgree.process_eq

def backwardsCatalog : Catalog := ⟨Fixtures.catalog.tables.reverse⟩

/-- The small schema with another table of categories, to which comments do not refer, and with audits, to which
nobody refers. -/
def changedCatalog : Catalog :=
  ⟨[{ name := "audits", columns := [.key, Fixtures.requiredColumn "actor_id"] }, Fixtures.users,
    { name := "categories", singular := some "kind" }, Fixtures.posts, Fixtures.comments]⟩

/-- The small schema without categories, and with no more than the names of the tables to which comments refer. -/
def slimCatalog : Catalog := ⟨[{ name := "users" }, { name := "posts" }, Fixtures.comments]⟩

theorem process_relevant_comments :
    Agree splitIndex Fixtures.catalog slimCatalog ∧ Fixtures.catalog.names.Nodup ∧
      backwardsCatalog.tables.Perm Fixtures.catalog.tables ∧
      relevantNames Fixtures.catalog splitIndex = ["comments", "posts", "users"] ∧
      (process Fixtures.catalog {} splitIndex).tables = ["comments"] ∧
      ∀ other ∈ [slimCatalog, backwardsCatalog, changedCatalog],
        process other {} splitIndex = process Fixtures.catalog {} splitIndex := by
  have hAgree : Agree splitIndex Fixtures.catalog slimCatalog := by
    constructor
    case entry => decide +kernel
    case singular =>
      intro d hd table hTable
      cases List.mem_singleton.mp hd
      cases hTable
      decide +kernel
  have hNames : Fixtures.catalog.names.Nodup := by decide +kernel
  have hPerm : backwardsCatalog.tables.Perm Fixtures.catalog.tables := List.reverse_perm _
  refine ⟨hAgree, hNames, hPerm, by decide +kernel, by decide +kernel, ?_⟩
  intro other hOther
  simp only [List.mem_cons, List.not_mem_nil, or_false] at hOther
  rcases hOther with rfl | rfl | rfl
  · exact (process_relevant Fixtures.catalog slimCatalog {} splitIndex).1 hAgree
  · exact (process_relevant Fixtures.catalog backwardsCatalog {} splitIndex).2.1 hNames hPerm
  · exact (process_relevant Fixtures.catalog changedCatalog {} splitIndex).2.2 (by decide +kernel)

end RowFactory.Generation
