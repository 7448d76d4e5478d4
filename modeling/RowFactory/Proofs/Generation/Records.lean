import RowFactory.Fixtures.Tables
import RowFactory.Proofs.Ascending
import RowFactory.Proofs.Generation.Accounting
import RowFactory.Proofs.Generation.Placement
import RowFactory.Proofs.Metadata.Extraction
import RowFactory.Proofs.Factory.Plans

/-! # Records of tables

A table needs its own record and the record of every table that it refers to. Each is taken from the first module that
the index lists for it; the first one that is nowhere stops the declaration, and there is a warning for each one that is
in several modules.
-/

namespace RowFactory.Generation

open Source (Declaration Index)

variable {options : Options} {index : Index} {d : Declaration} {t : Metadata.Table}
  {package : Metadata.Package} {warnings : List String}

theorem pairwise_referencedTypes (t : Metadata.Table) : (referencedTypes t).Pairwise (· < ·) := by
  have hFold (keys : List Metadata.ForeignKey) {types : List String} (hTypes : types.Pairwise (· < ·)) :
      (keys.foldl (fun names key => Ascending.insert key.recordType names) types).Pairwise (· < ·) := by
    induction keys generalizing types with
    | nil => exact hTypes
    | cons key rest ih => exact ih (Ascending.pairwise_insert hTypes)
  exact hFold t.foreignKeys List.Pairwise.nil

theorem mem_referencedTypes {type : String} :
    type ∈ referencedTypes t ↔ ∃ key ∈ t.foreignKeys, key.recordType = type := by
  have hFold (keys : List Metadata.ForeignKey) (types : List String) :
      type ∈ keys.foldl (fun names key => Ascending.insert key.recordType names) types ↔
        type ∈ types ∨ ∃ key ∈ keys, key.recordType = type := by
    induction keys generalizing types with
    | nil => simp
    | cons key rest ih =>
      rw [List.foldl_cons, ih, Ascending.mem_insert, List.exists_mem_cons_iff, or_assoc, or_left_comm, eq_comm]
  rw [referencedTypes, hFold]
  simp

def neededTypes (t : Metadata.Table) : List String := t.recordTypeName :: referencedTypes t

def IsMissing (index : Index) (type : String) : Prop := index.modulesOf type = []

instance (index : Index) (type : String) : Decidable (IsMissing index type) :=
  inferInstanceAs (Decidable (index.modulesOf type = []))

def ambiguity? (index : Index) (type : String) : Option String :=
  match index.modulesOf type with
  | first :: second :: others =>
    let modules := ", ".intercalate (first :: second :: others)
    some s!"record type '{type}' is declared in {modules}; using {first}"
  | _ => none

theorem isSome_ambiguity? {type : String} : (ambiguity? index type).isSome ↔ 1 < (index.modulesOf type).length := by
  rw [ambiguity?]
  rcases index.modulesOf type with _ | ⟨first, _ | ⟨second, others⟩⟩ <;> simp

section Locating

variable {table type : String} {types : List String}

theorem locate_eq_ok {moduleName : String} :
    locate index table type = .ok (moduleName, warnings) ↔
      (index.modulesOf type).head? = some moduleName ∧ warnings = (ambiguity? index type).toList := by
  rw [locate, ambiguity?]
  rcases index.modulesOf type with _ | ⟨first, _ | ⟨second, others⟩⟩ <;> simp [eq_comm]

theorem locate_of_missing (h : IsMissing index type) :
    locate index table type = .error (.missingRecordType table type) := by
  rw [locate, h]

theorem exists_locate (h : ¬ IsMissing index type) (table : String) :
    ∃ moduleName, locate index table type = .ok (moduleName, (ambiguity? index type).toList) := by
  obtain ⟨first, others, hModules⟩ := List.exists_cons_of_ne_nil h
  exact ⟨first, locate_eq_ok.mpr ⟨by rw [hModules]; rfl, rfl⟩⟩

theorem lookup_addRecord (package : Metadata.Package) (type moduleName other : String) :
    (package.addRecord type moduleName).recordModules.lookup other =
      if other = type then some moduleName else package.recordModules.lookup other :=
  Ascending.lookup_put type moduleName package.recordModules other

/-- All types have been found: their modules are in the package, and there is a warning for each doubtful one. -/
theorem locateAll_eq_ok {changed : Metadata.Package}
    (h : locateAll index table types package = .ok (changed, warnings)) :
    changed.recordModule = package.recordModule ∧ warnings = types.filterMap (ambiguity? index) ∧
      (∀ type ∈ types, (index.modulesOf type).head? = changed.recordModules.lookup type ∧ ¬ IsMissing index type) ∧
      ∀ type ∉ types, changed.recordModules.lookup type = package.recordModules.lookup type := by
  induction types generalizing package warnings with
  | nil =>
    cases h
    exact ⟨rfl, rfl, fun _ hType => absurd hType List.not_mem_nil, fun _ _ => rfl⟩
  | cons first rest ih =>
    obtain ⟨⟨moduleName, _⟩, hFirst, h⟩ := Results.bind_eq_ok.mp h
    obtain ⟨⟨_, _⟩, hRest, h⟩ := Results.bind_eq_ok.mp h
    cases h
    obtain ⟨hModule, rfl⟩ := locate_eq_ok.mp hFirst
    obtain ⟨hOwn, rfl, hListed, hOther⟩ := ih hRest
    refine ⟨hOwn, ?_, fun type hType => ?_, fun type hType => ?_⟩
    · rw [List.filterMap_cons]
      cases ambiguity? index first <;> rfl
    · -- A type that comes again is put into the package again, with the same module.
      by_cases hMem : type ∈ rest
      · exact hListed type hMem
      · have hSame : type = first := (List.mem_cons.mp hType).resolve_right hMem
        rw [hOther type hMem, lookup_addRecord, if_pos hSame, hSame]
        refine ⟨hModule, fun hMissing => ?_⟩
        rw [hMissing] at hModule
        cases hModule
    · rw [List.mem_cons, not_or] at hType
      rw [hOther type hType.2, lookup_addRecord, if_neg hType.1]

theorem locateAll_of_missing {missing : String} (h : types.find? (IsMissing index ·) = some missing) :
    locateAll index table types package = .error (.missingRecordType table missing) := by
  induction types generalizing package with
  | nil => cases h
  | cons first rest ih =>
    rw [locateAll]
    by_cases hFirst : IsMissing index first
    · rw [List.find?_cons_of_pos (by simpa using hFirst)] at h
      cases h
      rw [locate_of_missing hFirst]
      rfl
    · rw [List.find?_cons_of_neg (by simpa using hFirst)] at h
      obtain ⟨moduleName, hModule⟩ := exists_locate hFirst table
      rw [hModule]
      change (locateAll index table rest (package.addRecord first moduleName) >>= _) = _
      rw [ih h]
      rfl

end Locating

/-- The records of a table and of all that it refers to are taken where the index has them first. -/
structure Located (index : Index) (t : Metadata.Table) (package : Metadata.Package) (warnings : List String) :
    Prop where
  own : (index.modulesOf t.recordTypeName).head? = some package.recordModule
  /-- No type is left to the module of the own record for want of another one. -/
  listed : ∀ key ∈ t.foreignKeys, package.recordModules.lookup key.recordType = (index.modulesOf key.recordType).head?
  found : ∀ type ∈ neededTypes t, ¬ IsMissing index type
  warnings : warnings = (neededTypes t).filterMap (ambiguity? index)

theorem located_of_packageOf (h : packageOf options index d t = .ok (package, warnings)) :
    Located index t package warnings := by
  obtain ⟨⟨recordModule, _⟩, hOwn, h⟩ := Results.bind_eq_ok.mp h
  obtain ⟨⟨_, _⟩, hAll, h⟩ := Results.bind_eq_ok.mp h
  cases h
  obtain ⟨hModule, rfl⟩ := locate_eq_ok.mp hOwn
  obtain ⟨hSame, rfl, hListed, _⟩ := locateAll_eq_ok hAll
  have hFound : ¬ IsMissing index t.recordTypeName := by
    intro hMissing
    rw [hMissing] at hModule
    cases hModule
  constructor
  case own => rw [hSame, hModule]
  case listed =>
    intro key hKey
    exact (hListed _ (mem_referencedTypes.mpr ⟨key, hKey, rfl⟩)).1.symm
  case found => exact List.forall_mem_cons.mpr ⟨hFound, fun type hType => (hListed type hType).2⟩
  case warnings =>
    rw [neededTypes, List.filterMap_cons]
    cases ambiguity? index t.recordTypeName <;> rfl

theorem packageOf_of_missing {missing : String} (h : (neededTypes t).find? (IsMissing index ·) = some missing) :
    packageOf options index d t = .error (.missingRecordType t.name missing) := by
  rw [packageOf]
  by_cases hOwn : IsMissing index t.recordTypeName
  · rw [neededTypes, List.find?_cons_of_pos (by simpa using hOwn)] at h
    cases h
    rw [locate_of_missing hOwn]
    rfl
  · rw [neededTypes, List.find?_cons_of_neg (by simpa using hOwn)] at h
    obtain ⟨moduleName, hModule⟩ := exists_locate hOwn t.name
    rw [hModule]
    change (locateAll index t.name (referencedTypes t) _ >>= _) = _
    rw [locateAll_of_missing h]
    rfl

theorem Located.moduleOf_eq (h : Located index t package warnings) {key : Metadata.ForeignKey}
    (hKey : key ∈ t.foreignKeys) : (index.modulesOf key.recordType).head? = some (package.moduleOf key.recordType) := by
  have hFound := h.found _ (List.mem_cons_of_mem _ (mem_referencedTypes.mpr ⟨key, hKey, rfl⟩))
  obtain ⟨first, others, hModules⟩ := List.exists_cons_of_ne_nil hFound
  rw [Metadata.Package.moduleOf, h.listed key hKey, hModules]
  rfl

def IsAbout (type text : String) : Prop := ("record type '" ++ type ++ "' ").toList <+: text.toList

theorem noQuote_recordTypeName (table : String) : '\'' ∉ (recordTypeName table).toList := by
  rw [recordTypeName, String.toList_append, List.mem_append, not_or]
  exact ⟨fun hQuote => absurd (Text.wordly_of_mem_pascalCase hQuote (by decide)) (by decide), by decide⟩

theorem recordType_of_mem_foreignKeys {catalog : Schema.Catalog} {table declaredBy : String} {key : Metadata.ForeignKey}
    (h : Metadata.resolve catalog table declaredBy = .ok t) (hKey : key ∈ t.foreignKeys) :
    key.recordType = recordTypeName key.table := by
  rw [Metadata.resolve] at h
  split at h
  · cases h
    rw [Metadata.eq_of_mem_foreignKeysOf hKey]
  · cases h

theorem exists_table_of_needed {catalog : Schema.Catalog} {table declaredBy type : String}
    (h : Metadata.resolve catalog table declaredBy = .ok t) (hType : type ∈ neededTypes t) :
    ∃ other, type = recordTypeName other := by
  rcases List.mem_cons.mp hType with rfl | hType
  · exact ⟨t.name, rfl⟩
  · obtain ⟨key, hKey, rfl⟩ := mem_referencedTypes.mp hType
    exact ⟨key.table, recordType_of_mem_foreignKeys h hKey⟩

theorem eq_of_delimited {c : Char} {a b x y : List Char} (ha : c ∉ a) (hb : c ∉ b)
    (h : a ++ c :: x <+: b ++ c :: y) : a = b := by
  have hTake {text : List Char} (hText : c ∉ text) (rest : List Char) :
      (text ++ c :: rest).takeWhile (· ≠ c) = text := by
    rw [List.takeWhile_append_of_pos fun d hd => decide_eq_true (ne_of_mem_of_not_mem hd hText),
      List.takeWhile_cons_of_neg (by simp), List.append_nil]
  obtain ⟨more, hMore⟩ := h
  rw [← hTake ha (x ++ more), ← hTake hb y, ← hMore, List.append_assoc, List.cons_append]

theorem ambiguity?_about {type other text : String} (h : ambiguity? index other = some text)
    (hType : '\'' ∉ type.toList) (hOther : '\'' ∉ other.toList) : IsAbout type text ↔ type = other := by
  obtain ⟨rest, hText⟩ :
      ∃ rest, text.toList = "record type ".toList ++ '\'' :: (other.toList ++ '\'' :: ' ' :: rest) := by
    rw [ambiguity?] at h
    split at h
    · rename_i first second others _
      cases h
      refine ⟨("is declared in " ++ ", ".intercalate (first :: second :: others) ++ "; using " ++ first).toList, ?_⟩
      simp only [String.toList_append, List.append_assoc]
      rfl
    · cases h
  have hStart : ("record type '" ++ type ++ "' ").toList =
      "record type ".toList ++ '\'' :: (type.toList ++ '\'' :: [' ']) := by
    simp only [String.toList_append, List.append_assoc]
    rfl
  rw [IsAbout, hText, hStart, List.prefix_append_right_inj, List.cons_prefix_cons, and_iff_right rfl]
  constructor
  · intro hPrefix
    exact String.toList_inj.mp (eq_of_delimited hType hOther hPrefix)
  · rintro rfl
    rw [List.prefix_append_right_inj]
    exact ⟨rest, rfl⟩

theorem head?_message_invalidIdentifier (table name : String) :
    (Error.invalidIdentifier table name).message.toList.head? = some 'I' := by
  have hMessage : (Error.invalidIdentifier table name).message =
      "Invalid identifier '" ++ name ++ "' in table '" ++ table ++ "'" := rfl
  have hStart : "Invalid identifier '".toList = 'I' :: "nvalid identifier '".toList := rfl
  rw [hMessage, String.toList_append, String.toList_append, String.toList_append, String.toList_append, hStart]
  rfl

theorem head?_message_render (unit reason : String) : (Error.render unit reason).message.toList.head? = some 'F' := by
  have hMessage : (Error.render unit reason).message = "Failed to render '" ++ unit ++ "': " ++ reason := rfl
  have hStart : "Failed to render '".toList = 'F' :: "ailed to render '".toList := rfl
  rw [hMessage, String.toList_append, String.toList_append, String.toList_append, hStart]
  rfl

theorem not_isAbout_of_error {type : String} {files : List GeneratedFile} {error : Error}
    (h : indexFiles files = .error error) : ¬ IsAbout type error.message := by
  have hMessage : error.message.toList.head? ≠ some 'r' := by
    obtain ⟨⟨directory, names⟩, _, hFile⟩ := Results.exists_of_mapM_eq_error h
    rcases Results.bind_eq_error.mp hFile with hIdents | ⟨idents, _, hFile⟩
    · obtain ⟨name, _, hName⟩ := Results.exists_of_mapM_eq_error hIdents
      rw [Code.ident] at hName
      split at hName
      · cases hName
      · cases hName
        exact head?_message_invalidIdentifier _ _ ▸ by decide
    · rcases Results.bind_eq_error.mp hFile with hContent | ⟨content, _, hFile⟩
      · rw [Code.renderFile] at hContent
        split at hContent
        · cases hContent
        · cases hContent
          exact head?_message_render _ _ ▸ by decide
      · cases hFile
  intro hAbout
  obtain ⟨rest, hRest⟩ := hAbout
  apply hMessage
  rw [← hRest]
  simp only [String.toList_append]
  rfl

theorem mem_warnings {catalog : Schema.Catalog} {w type : String}
    (h : w ∈ (process catalog options index).output.warnings) (hAbout : IsAbout type w) :
    ∃ other, ambiguity? index (recordTypeName other) = some w := by
  rw [process_output] at h
  rcases List.mem_append.mp h with h | h
  · obtain ⟨⟨d, error | output⟩, hMem, hw⟩ := List.mem_flatMap.mp h
    · cases hw
    · obtain ⟨t, package, plan, hResolve, _, hPackage, _⟩ := generated_of_mem hMem
      change w ∈ output.warnings at hw
      rw [(located_of_packageOf hPackage).warnings] at hw
      obtain ⟨type, hType, hText⟩ := List.mem_filterMap.mp hw
      obtain ⟨other, rfl⟩ := exists_table_of_needed hResolve hType
      exact ⟨other, hText⟩
  · rw [indexWarnings] at h
    split at h
    · rename_i hFiles
      rw [List.mem_singleton.mp h] at hAbout
      exact absurd hAbout (not_isAbout_of_error hFiles)
    · cases h

def recordText (moduleName type : String) : String :=
  if moduleName = "" then type else moduleName ++ "::" ++ type

/-- The path is what is written for the record type and the first module that the index lists for it. -/
def LeadsTo (index : Index) (type : String) (p : Code.Path) : Prop :=
  ∃ moduleName, (index.modulesOf type).head? = some moduleName ∧ Code.Path.parse (recordText moduleName type) = .ok p

/-- The record type that stops a table: its own one, or else the least one that it refers to. -/
def IsFirstMissing (index : Index) (t : Metadata.Table) (type : String) : Prop :=
  IsMissing index type ∧ (type = t.recordTypeName ∨ ¬ IsMissing index t.recordTypeName ∧
    (∃ key ∈ t.foreignKeys, key.recordType = type) ∧
    ∀ key ∈ t.foreignKeys, IsMissing index key.recordType → type ≤ key.recordType)

theorem leadsTo_of_ofType {type moduleName : String} {p : Code.Path}
    (hModule : (index.modulesOf type).head? = some moduleName) (h : Code.Path.ofType moduleName type = .ok p) :
    LeadsTo index type p := by
  refine ⟨moduleName, hModule, ?_⟩
  rw [← h, Code.Path.ofType, recordText]
  by_cases hEmpty : moduleName = ""
  · subst hEmpty
    rfl
  · rw [if_neg hEmpty, if_neg (by simpa using hEmpty)]
    rfl

theorem exists_find_missing (h : ∃ type ∈ neededTypes t, IsMissing index type) :
    ∃ type, (neededTypes t).find? (IsMissing index ·) = some type ∧ IsFirstMissing index t type := by
  obtain ⟨missing, hFind⟩ : ∃ missing, (neededTypes t).find? (IsMissing index ·) = some missing := by
    rw [← Option.isSome_iff_exists, List.find?_isSome]
    simpa using h
  have hMissing : IsMissing index missing := by simpa using List.find?_some hFind
  refine ⟨missing, hFind, hMissing, ?_⟩
  by_cases hOwn : IsMissing index t.recordTypeName
  · rw [neededTypes, List.find?_cons_of_pos (by simpa using hOwn)] at hFind
    exact .inl (Option.some.inj hFind).symm
  · rw [neededTypes, List.find?_cons_of_neg (by simpa using hOwn)] at hFind
    refine .inr ⟨hOwn, mem_referencedTypes.mp (List.mem_of_find?_eq_some hFind), fun key hKey hOther => ?_⟩
    obtain ⟨_, before, after, hSplit, hBefore⟩ := List.find?_eq_some_iff_append.mp hFind
    have hMem : key.recordType ∈ before ++ missing :: after := hSplit ▸ mem_referencedTypes.mpr ⟨key, hKey, rfl⟩
    -- The types are searched in ascending order, so that the first one missing is the least.
    have hOrder := pairwise_referencedTypes t
    rw [hSplit] at hOrder
    rcases List.mem_append.mp hMem with hMem | hMem
    · exact absurd hOther (by simpa using hBefore _ hMem)
    · rcases List.mem_cons.mp hMem with hSame | hMem
      · exact le_of_eq hSame.symm
      · exact le_of_lt ((List.pairwise_cons.mp (List.pairwise_append.mp hOrder).2.1).1 _ hMem)

section Runs

variable {catalog : Schema.Catalog} {before after : List Declaration}

theorem attempts_of_first (hDeclarations : index.declarations = before ++ d :: after)
    (hFirst : ∀ e ∈ before, e.table ≠ d.table) :
    attempts catalog options index [] index.declarations =
      attempts catalog options index [] before ++
        (d, generateTable catalog options index d) :: attempts catalog options index (before ++ [d]) after := by
  rw [hDeclarations, attempts_append, List.nil_append, attempts, attempt_of_first hFirst]

theorem exists_declaration_of_succeeded {earlier declarations : List Declaration} {table : String}
    (h : table ∈ succeeded (attempts catalog options index earlier declarations)) :
    ∃ e ∈ declarations, e.table = table := by
  obtain ⟨success, hSuccess, rfl⟩ := List.mem_map.mp h
  obtain ⟨⟨e, error | output⟩, hMem, hVerdict⟩ := List.mem_filterMap.mp hSuccess
  · cases hVerdict
  · cases hVerdict
    exact ⟨e, declaration_of_mem_attempts hMem, rfl⟩

theorem mem_tables_of_first (hDeclarations : index.declarations = before ++ d :: after)
    (hFirst : ∀ e ∈ before, e.table ≠ d.table) :
    d.table ∈ (process catalog options index).tables ↔
      ∃ output, generateTable catalog options index d = .ok output := by
  have hTables : (process catalog options index).tables =
      succeeded (attempts catalog options index [] index.declarations) := rfl
  rw [hTables, attempts_of_first hDeclarations hFirst, succeeded, List.filterMap_append, List.map_append,
    List.mem_append]
  cases hTable : generateTable catalog options index d with
  | ok output => simp
  | error error =>
    simp only [reduceCtorEq, exists_false, iff_false, not_or]
    constructor
    · intro hEarlier
      obtain ⟨e, he, hSame⟩ := exists_declaration_of_succeeded hEarlier
      exact hFirst e he hSame
    · -- A later declaration of the table fails, whatever has become of this one.
      intro hLater
      have hSelf : d ∈ before ++ [d] := List.mem_append_right before List.mem_cons_self
      exact (nodup_succeeded (before ++ [d]) after).2 d.table hLater d hSelf rfl

theorem warned_iff {output : TableOutput}
    (hVerdict : (d, .ok output) ∈ attempts catalog options index [] index.declarations)
    (hOutput : output.warnings = (neededTypes t).filterMap (ambiguity? index)) {type table : String}
    (hTable : type = recordTypeName table) (hType : type ∈ neededTypes t) :
    (∃ w ∈ (process catalog options index).output.warnings, IsAbout type w) ↔ 1 < (index.modulesOf type).length := by
  have hQuote := noQuote_recordTypeName table
  rw [← hTable] at hQuote
  rw [← isSome_ambiguity?]
  constructor
  · rintro ⟨w, hw, hAbout⟩
    obtain ⟨other, hOther⟩ := mem_warnings hw hAbout
    rw [(ambiguity?_about hOther hQuote (noQuote_recordTypeName other)).mp hAbout, hOther]
    rfl
  · intro hSome
    obtain ⟨w, hw⟩ := Option.isSome_iff_exists.mp hSome
    refine ⟨w, ?_, (ambiguity?_about hw hQuote hQuote).mpr rfl⟩
    rw [process_output]
    refine List.mem_append_left _ (List.mem_flatMap.mpr ⟨_, hVerdict, ?_⟩)
    change w ∈ output.warnings
    rw [hOutput]
    exact List.mem_filterMap.mpr ⟨type, hType, hw⟩

theorem leadsTo_of_plan {plan : Factory.Plan} (hResolve : Metadata.resolve catalog d.table d.declaredBy = .ok t)
    (hPackage : packageOf options index d t = .ok (package, warnings))
    (hPlan : Factory.Plan.ofTable t package options = .ok plan) :
    LeadsTo index (recordTypeName d.table) plan.record ∧
      List.Forall₂ (fun key a => a.field = key.field ∧ key.recordType = recordTypeName key.table ∧
        (package.recordModules.lookup key.recordType).isSome ∧ LeadsTo index (recordTypeName key.table) a.record)
          t.foreignKeys plan.associations := by
  have hLocated := located_of_packageOf hPackage
  have hDrafted := Factory.Plan.drafted (Factory.Plan.ofTable_eq_ok.mp hPlan).1
  constructor
  · rw [← name_of_resolve hResolve]
    exact leadsTo_of_ofType hLocated.own hDrafted.record
  · refine ((List.forall₂_and_left _ _).mpr ⟨fun _ => id, hDrafted.associations⟩).imp ?_
    rintro key a ⟨hKey, hAssociation⟩
    obtain ⟨method, _, hAssociation⟩ := Results.bind_eq_ok.mp hAssociation
    obtain ⟨record, hRecord, hAssociation⟩ := Results.bind_eq_ok.mp hAssociation
    cases hAssociation
    have hModule := hLocated.moduleOf_eq hKey
    have hType := recordType_of_mem_foreignKeys hResolve hKey
    refine ⟨rfl, hType, ?_, ?_⟩
    · rw [hLocated.listed key hKey, hModule]
      rfl
    · rw [← hType]
      exact leadsTo_of_ofType hModule hRecord

theorem generateTable_of_missing {type : String} (hResolve : Metadata.resolve catalog d.table d.declaredBy = .ok t)
    (hValid : t.validate = .ok ()) (h : (neededTypes t).find? (IsMissing index ·) = some type) :
    generateTable catalog options index d = .error (.missingRecordType d.table type) := by
  rw [generateTable, hResolve]
  change (t.validate >>= _) = _
  rw [hValid]
  change (packageOf options index d t >>= _) = _
  rw [packageOf_of_missing h, name_of_resolve hResolve]
  rfl

/-- The code of the first declaration of a table refers to records where the index has them first, and there is a
warning for each of their types that several modules declare. A type that no module declares stops the declaration. -/
theorem records_of_process (hDeclarations : index.declarations = before ++ d :: after)
    (hFirst : ∀ e ∈ before, e.table ≠ d.table) (hResolve : Metadata.resolve catalog d.table d.declaredBy = .ok t)
    (hValid : t.validate = .ok ()) :
    let o := process catalog options index
    (d.table ∈ o.tables → ∃ package warnings plan,
      packageOf options index d t = .ok (package, warnings) ∧ Factory.Plan.ofTable t package options = .ok plan ∧
      (∀ kind ∈ options.unitKinds, ∃ f ∈ o.output.files, unitFile d plan kind = .ok f) ∧
      LeadsTo index (recordTypeName d.table) plan.record ∧
      List.Forall₂ (fun key a => a.field = key.field ∧ key.recordType = recordTypeName key.table ∧
        (package.recordModules.lookup key.recordType).isSome ∧ LeadsTo index (recordTypeName key.table) a.record)
          t.foreignKeys plan.associations ∧
      ∀ type ∈ neededTypes t, (∃ w ∈ o.output.warnings, IsAbout type w) ↔ 1 < (index.modulesOf type).length) ∧
    ((∃ type ∈ neededTypes t, IsMissing index type) → ∃ type, IsFirstMissing index t type ∧ d.table ∉ o.tables ∧
      ⟨d.table, d.declaredBy, .missingRecordType d.table type,
        options.unitKinds.map (unitPath d.moduleName d.table)⟩ ∈ o.failures) := by
  intro o
  have hVerdict : (d, generateTable catalog options index d) ∈ attempts catalog options index [] index.declarations :=
    attempts_of_first hDeclarations hFirst ▸ List.mem_append_right _ List.mem_cons_self
  constructor
  · intro hMem
    obtain ⟨output, hOutput⟩ := (mem_tables_of_first hDeclarations hFirst).mp hMem
    obtain ⟨t', package, plan, hResolve', _, hPackage, hPlan, hFiles⟩ := generateTable_eq_ok.mp hOutput
    rw [hResolve] at hResolve'
    cases hResolve'
    rw [hOutput] at hVerdict
    obtain ⟨hRecord, hAssociations⟩ := leadsTo_of_plan hResolve hPackage hPlan
    refine ⟨package, output.warnings, plan, hPackage, hPlan, ?_, hRecord, hAssociations, ?_⟩
    · intro kind hKind
      obtain ⟨f, hf, hUnit⟩ := Results.exists_of_mem_left hFiles hKind
      refine ⟨f, ?_, hUnit⟩
      refine (perm_files catalog options index).mem_iff.mpr (List.mem_append_left _ ?_)
      exact List.mem_flatMap.mpr ⟨_, hVerdict, hf⟩
    · intro type hType
      obtain ⟨other, hOther⟩ := exists_table_of_needed hResolve hType
      exact warned_iff hVerdict (located_of_packageOf hPackage).warnings hOther hType
  · intro hMissing
    obtain ⟨missing, hFind, hLeast⟩ := exists_find_missing hMissing
    have hError : generateTable catalog options index d = .error (.missingRecordType d.table missing) :=
      generateTable_of_missing hResolve hValid hFind
    refine ⟨missing, hLeast, ?_, ?_⟩
    · rw [mem_tables_of_first hDeclarations hFirst, hError]
      rintro ⟨output, ⟨⟩⟩
    · rw [hError] at hVerdict
      exact List.mem_filterMap.mpr ⟨_, hVerdict, rfl⟩

end Runs

def splitIndex : Index where
  declarations := [⟨"comments", "CommentFactory", "crate", "lib.rs"⟩]
  structs :=
    [("CommentsRecord", ["crate::a"]), ("PostsRecord", ["crate::b"]), ("UsersRecord", ["crate::a", "crate::b"])]

theorem records_of_comments :
    "comments" ∈ (process Fixtures.catalog {} splitIndex).tables ∧
      ∃ w ∈ (process Fixtures.catalog {} splitIndex).output.warnings, IsAbout "UsersRecord" w := by
  have hValid : (Metadata.ofName Fixtures.catalog "comments").validate = .ok () := by decide +kernel
  have hMem : "comments" ∈ (process Fixtures.catalog {} splitIndex).tables := by decide +kernel
  have hRecords := @records_of_process {} splitIndex ⟨"comments", "CommentFactory", "crate", "lib.rs"⟩
    (Metadata.ofName Fixtures.catalog "comments") Fixtures.catalog [] [] rfl nofun rfl hValid
  obtain ⟨_, _, _, _, _, _, _, _, hWarnings⟩ := hRecords.1 hMem
  exact ⟨hMem, (hWarnings "UsersRecord" (by decide +kernel)).mpr (by decide)⟩

def namelessIndex : Index where
  declarations := [⟨"users", "UserFactory", "crate", "lib.rs"⟩]
  structs := [("UsersRecord", [""])]

/-- The path of a record in a module without a name begins with no separator. -/
theorem record_of_nameless_module :
    let d : Declaration := ⟨"users", "UserFactory", "crate", "lib.rs"⟩
    let t := Metadata.ofName Fixtures.catalog "users"
    Metadata.resolve Fixtures.catalog d.table d.declaredBy = .ok t ∧ t.validate = .ok () ∧
      d.table ∈ (process Fixtures.catalog {} namelessIndex).tables ∧
      (namelessIndex.modulesOf t.recordTypeName).head? = some "" ∧
      ∃ package warnings plan, packageOf {} namelessIndex d t = .ok (package, warnings) ∧
        Factory.Plan.ofTable t package {} = .ok plan ∧
        Code.Path.parse ("" ++ "::" ++ t.recordTypeName) ≠ .ok plan.record := by
  intro d t
  let package : Metadata.Package := ⟨"crate", "", Metadata.defaultRuntimePath, []⟩
  have hPackage : packageOf {} namelessIndex d t = .ok (package, []) := by decide +kernel
  obtain ⟨plan, hPlan⟩ : ∃ plan, Factory.Plan.ofTable t package {} = .ok plan :=
    Results.exists_eq_ok (by decide +kernel)
  have hRecord := (Factory.Plan.drafted (Factory.Plan.ofTable_eq_ok.mp hPlan).1).record
  refine ⟨rfl, by decide +kernel, by decide +kernel, by decide +kernel, package, [], plan, hPackage, hPlan, ?_⟩
  rw [← hRecord]
  decide +kernel

end RowFactory.Generation
