import Mathlib.Data.List.Nodup
import RowFactory.Proofs.Generation.Indexes

/-! # Accounts of a run

Every declaration has one verdict, and the outcome is the sum of the verdicts: what succeeded gives its files
and warnings, what failed gives a failure and nothing else. The verdict of a declaration depends on those
before it only by their tables.
-/

namespace RowFactory.Generation

open Source (Declaration Index)

/-- A declaration and what has become of it. -/
abbrev Verdict := Declaration × Except Error TableOutput

namespace Verdict

def files : Verdict → List GeneratedFile
  | (_, .ok output) => output.files
  | (_, .error _) => []

def warnings : Verdict → List String
  | (_, .ok output) => output.warnings
  | (_, .error _) => []

end Verdict

variable {catalog : Schema.Catalog} {options : Options} {index : Index}

theorem attempts_append (earlier first second : List Declaration) :
    attempts catalog options index earlier (first ++ second) =
      attempts catalog options index earlier first ++
        attempts catalog options index (earlier ++ first) second := by
  induction first generalizing earlier with
  | nil => rw [List.nil_append, attempts, List.nil_append, List.append_nil]
  | cons d rest ih => rw [List.cons_append, attempts, attempts, ih, List.append_assoc, List.cons_append]; rfl

theorem map_fst_attempts (catalog : Schema.Catalog) (options : Options) (index : Index)
    (earlier declarations : List Declaration) :
    (attempts catalog options index earlier declarations).map (·.1) = declarations := by
  induction declarations generalizing earlier with
  | nil => rfl
  | cons d rest ih => rw [attempts, List.map_cons, ih]

theorem declaration_of_mem_attempts {earlier declarations : List Declaration} {v : Verdict}
    (h : v ∈ attempts catalog options index earlier declarations) : v.1 ∈ declarations := by
  rw [← map_fst_attempts catalog options index earlier declarations]
  exact List.mem_map_of_mem h

theorem verdict_of_split {earlier declarations : List Declaration} {before after : List Verdict} {v : Verdict}
    (h : attempts catalog options index earlier declarations = before ++ v :: after) :
    v.2 = attempt catalog options index (earlier ++ before.map (·.1)) v.1 := by
  have hDeclarations := map_fst_attempts catalog options index earlier declarations
  rw [h, List.map_append, List.map_cons] at hDeclarations
  rw [← hDeclarations, attempts_append, attempts] at h
  have hLength : (attempts catalog options index earlier (before.map (·.1))).length = before.length := by
    rw [← List.length_map (·.1), map_fst_attempts, List.length_map]
  obtain ⟨_, hTail⟩ := List.append_inj h hLength
  exact (congrArg Prod.snd (List.cons.inj hTail).1).symm

theorem attempt_of_first {earlier : List Declaration} {d : Declaration} (h : ∀ e ∈ earlier, e.table ≠ d.table) :
    attempt catalog options index earlier d = generateTable catalog options index d := by
  have hNone : earlier.find? (·.table = d.table) = none := by simpa [List.find?_eq_none] using h
  rw [attempt, hNone]

theorem attempt_of_later {before between : List Declaration} {first d : Declaration}
    (hBefore : ∀ e ∈ before, e.table ≠ d.table) (hFirst : first.table = d.table) :
    attempt catalog options index (before ++ first :: between) d =
      .error (.duplicateFactory d.table first.declaredBy d.declaredBy) := by
  have hNone : before.find? (·.table = d.table) = none := by simpa [List.find?_eq_none] using hBefore
  have hFind : (before ++ first :: between).find? (·.table = d.table) = some first := by
    rw [List.find?_append, hNone, List.find?_cons_of_pos (by simpa using hFirst)]
    rfl
  rw [attempt, hFind]

section Sums

variable (d : Declaration) (error : Error) (output : TableOutput)

@[simp] theorem success?_ok : success? (d, .ok output) = some (d.table, output) := rfl

@[simp] theorem success?_error : success? (d, .error error) = none := rfl

@[simp] theorem failure?_ok (options : Options) : failure? options (d, .ok output) = none := rfl

@[simp] theorem failure?_error (options : Options) : failure? options (d, .error error) =
    some ⟨d.table, d.declaredBy, error, options.unitKinds.map (unitPath d.moduleName d.table)⟩ := rfl

end Sums

theorem flatMap_files (verdicts : List Verdict) :
    (verdicts.filterMap success?).flatMap (·.2.files) = verdicts.flatMap Verdict.files := by
  induction verdicts with
  | nil => rfl
  | cons v rest ih => obtain ⟨d, _ | _⟩ := v <;> simp [List.filterMap_cons, ih, Verdict.files]

theorem flatMap_warnings (verdicts : List Verdict) :
    (verdicts.filterMap success?).flatMap (·.2.warnings) = verdicts.flatMap Verdict.warnings := by
  induction verdicts with
  | nil => rfl
  | cons v rest ih => obtain ⟨d, _ | _⟩ := v <;> simp [List.filterMap_cons, ih, Verdict.warnings]

theorem length_successes_add_failures (options : Options) (verdicts : List Verdict) :
    (verdicts.filterMap success?).length + (verdicts.filterMap (failure? options)).length =
      verdicts.length := by
  induction verdicts with
  | nil => rfl
  | cons v rest ih =>
    obtain ⟨d, _ | _⟩ := v
    · simp only [List.filterMap_cons, success?_error, failure?_error, List.length_cons]
      omega
    · simp only [List.filterMap_cons, success?_ok, failure?_ok, List.length_cons]
      omega

theorem attempt_eq_ok {earlier : List Declaration} {d : Declaration} {output : TableOutput} :
    attempt catalog options index earlier d = .ok output ↔
      (∀ e ∈ earlier, e.table ≠ d.table) ∧ Generated catalog options index d output := by
  rw [attempt, ← generateTable_eq_ok]
  cases hFind : earlier.find? (·.table = d.table) with
  | none =>
    have hNone : ∀ e ∈ earlier, e.table ≠ d.table := by simpa [List.find?_eq_none] using hFind
    exact ⟨fun h => ⟨hNone, h⟩, fun h => h.2⟩
  | some first =>
    have hTable : first.table = d.table := by simpa using List.find?_some hFind
    simp only [reduceCtorEq, false_iff, not_and]
    exact fun hNew => absurd hTable (hNew first (List.mem_of_find?_eq_some hFind))

def succeeded (verdicts : List Verdict) : List String := (verdicts.filterMap success?).map (·.1)

@[simp] theorem succeeded_ok (d : Declaration) (output : TableOutput) (rest : List Verdict) :
    succeeded ((d, .ok output) :: rest) = d.table :: succeeded rest := rfl

theorem nodup_succeeded (earlier declarations : List Declaration) :
    (succeeded (attempts catalog options index earlier declarations)).Nodup ∧
      ∀ table ∈ succeeded (attempts catalog options index earlier declarations),
        ∀ e ∈ earlier, e.table ≠ table := by
  induction declarations generalizing earlier with
  | nil => simp [attempts, succeeded]
  | cons d rest ih =>
    obtain ⟨hNodup, hNew⟩ := ih (earlier ++ [d])
    have hEarlier : ∀ table ∈ succeeded (attempts catalog options index (earlier ++ [d]) rest),
        ∀ e ∈ earlier, e.table ≠ table :=
      fun table hTable e he => hNew table hTable e (List.mem_append_left _ he)
    rw [attempts]
    cases hAttempt : attempt catalog options index earlier d with
    | error error => exact ⟨hNodup, hEarlier⟩
    | ok output =>
      rw [succeeded_ok, List.nodup_cons]
      refine ⟨⟨fun hMem => ?_, hNodup⟩, fun table hTable => ?_⟩
      · exact hNew d.table hMem d (List.mem_append_right _ List.mem_cons_self) rfl
      · rcases List.mem_cons.mp hTable with rfl | hTable
        · exact (attempt_eq_ok.mp hAttempt).1
        · exact hEarlier table hTable

def indexesOf (options : Options) (files : List GeneratedFile) : List GeneratedFile :=
  if options.moduleIndex then (indexFiles files).toOption.getD [] else []

def indexWarnings (options : Options) (files : List GeneratedFile) : List String :=
  match options.moduleIndex, indexFiles files with
  | true, .error error => [error.message]
  | _, _ => []

theorem addIndexes_eq (options : Options) (output : Output) :
    addIndexes options output =
      { files := output.files ++ indexesOf options output.files
        warnings := output.warnings ++ indexWarnings options output.files } := by
  rw [addIndexes, indexesOf, indexWarnings]
  cases options.moduleIndex <;> cases indexFiles output.files <;>
    simp [Output.addWarning, Except.toOption]

theorem indexFiles_eq_indexesOf {files : List GeneratedFile} {f : GeneratedFile} (hf : f ∈ indexesOf options files) :
    indexFiles files = .ok (indexesOf options files) := by
  rw [indexesOf] at hf ⊢
  split at hf
  · rename_i hOption
    rw [if_pos hOption]
    cases hFiles : indexFiles files with
    | error error => simp [hFiles, Except.toOption] at hf
    | ok indexes => rfl
  · cases hf

theorem mem_indexesOf {files : List GeneratedFile} {f : GeneratedFile} (hf : f ∈ indexesOf options files) :
    ∃ directory, f.path = Disk.Path.join directory indexName ∧ f.kind = .moduleIndex := by
  obtain ⟨entry, _, hEntry⟩ := Results.exists_of_mem (Results.mapM_eq_ok.mp (indexFiles_eq_indexesOf hf)) hf
  exact ⟨entry.1, indexFile_eq_ok hEntry⟩

/-- The verdicts that a run has come to, and what its outcome says of them. -/
structure Accounts (catalog : Schema.Catalog) (options : Options) (index : Index) (verdicts : List Verdict)
    (o : Outcome) : Prop where
  /-- Every declaration has one verdict, in its place. -/
  declarations : verdicts.map (·.1) = index.declarations
  /-- The first declaration of a table is generated. -/
  first : ∀ before v after, verdicts = before ++ v :: after → (∀ e ∈ before, e.1.table ≠ v.1.table) →
    v.2 = generateTable catalog options index v.1
  /-- Every later one is refused, whatever became of the first. -/
  later : ∀ before first between v after, verdicts = before ++ first :: between ++ v :: after →
    (∀ e ∈ before, e.1.table ≠ v.1.table) → first.1.table = v.1.table →
      v.2 = .error (.duplicateFactory v.1.table first.1.declaredBy v.1.declaredBy)
  tables : o.tables = succeeded verdicts
  failures : o.failures = verdicts.filterMap (failure? options)
  total : o.tables.length + o.failures.length = index.declarations.length
  nodup : o.tables.Nodup
  /-- A declaration that succeeds has one file for each enabled kind. -/
  units : ∀ d output, (d, .ok output) ∈ verdicts →
    output.files.map (fun f => (f.path, f.kind)) =
      options.unitKinds.map fun kind => (unitPath d.moduleName d.table kind, kind)
  /-- There are no other files but module indexes. -/
  files : (o.output.files.filter (·.kind ≠ .moduleIndex)).Perm (verdicts.flatMap Verdict.files)
  indexes : (o.output.files.filter (·.kind = .moduleIndex)).Perm
    (indexesOf options (verdicts.flatMap Verdict.files))
  /-- There are no other warnings but one about the module indexes. -/
  warnings : o.output.warnings =
    verdicts.flatMap Verdict.warnings ++ indexWarnings options (verdicts.flatMap Verdict.files)

theorem generated_of_mem {d : Declaration} {output : TableOutput} {earlier declarations : List Declaration}
    (h : (d, .ok output) ∈ attempts catalog options index earlier declarations) :
    Generated catalog options index d output := by
  obtain ⟨before, after, hSplit⟩ := List.append_of_mem h
  exact (attempt_eq_ok.mp (verdict_of_split hSplit).symm).2

theorem kind_of_mem_files {f : GeneratedFile} {earlier declarations : List Declaration}
    (hf : f ∈ (attempts catalog options index earlier declarations).flatMap Verdict.files) :
    f.kind ≠ .moduleIndex := by
  obtain ⟨⟨d, error | output⟩, hMem, hf⟩ := List.mem_flatMap.mp hf
  · cases hf
  · exact (generated_of_mem hMem).kind_ne hf

theorem process_output (catalog : Schema.Catalog) (options : Options) (index : Index) :
    let verdicts := attempts catalog options index [] index.declarations
    (process catalog options index).output =
      { files := sortFiles (verdicts.flatMap Verdict.files ++ indexesOf options (verdicts.flatMap Verdict.files))
        warnings := verdicts.flatMap Verdict.warnings ++
          indexWarnings options (verdicts.flatMap Verdict.files) } := by
  intro verdicts
  rw [process, addIndexes_eq, flatMap_files, flatMap_warnings]

def unitsOf (catalog : Schema.Catalog) (options : Options) (index : Index) : List GeneratedFile :=
  (attempts catalog options index [] index.declarations).flatMap Verdict.files

theorem perm_files (catalog : Schema.Catalog) (options : Options) (index : Index) :
    (process catalog options index).output.files.Perm
      (unitsOf catalog options index ++ indexesOf options (unitsOf catalog options index)) := by
  rw [process_output]
  exact List.mergeSort_perm _ _

/-- The outcome of a run, with the files in the order in which they were made. -/
def unsorted (catalog : Schema.Catalog) (options : Options) (index : Index) : Outcome :=
  let verdicts := attempts catalog options index [] index.declarations
  { output :=
      { files := unitsOf catalog options index ++ indexesOf options (unitsOf catalog options index)
        warnings := verdicts.flatMap Verdict.warnings ++ indexWarnings options (unitsOf catalog options index) }
    tables := succeeded verdicts
    failures := verdicts.filterMap (failure? options) }

theorem process_eq_unsorted
    (h : (unsorted catalog options index).output.files.Pairwise fun f g => Disk.Path.le f.path g.path) :
    process catalog options index = unsorted catalog options index := by
  have hSorted : sortFiles (unsorted catalog options index).output.files =
      (unsorted catalog options index).output.files :=
    List.mergeSort_of_pairwise h
  have hOutput : (process catalog options index).output = (unsorted catalog options index).output := by
    rw [process_output]
    exact congrArg (fun files => (⟨files, _⟩ : Output)) hSorted
  exact congrArg (fun output => (⟨output, _, _⟩ : Outcome)) hOutput

theorem exists_generated {f : GeneratedFile} (hf : f ∈ unitsOf catalog options index) :
    ∃ d ∈ index.declarations, ∃ output, Generated catalog options index d output ∧ f ∈ output.files := by
  obtain ⟨⟨d, error | output⟩, hMem, hf⟩ := List.mem_flatMap.mp hf
  · cases hf
  · exact ⟨d, declaration_of_mem_attempts hMem, output, generated_of_mem hMem, hf⟩

theorem mem_addPath {path p : String} {list : List String} (h : p ∈ Outcome.addPath path list) :
    p = path ∨ p ∈ list := by
  induction list with
  | nil => exact .inl (List.mem_singleton.mp h)
  | cons first rest ih =>
    rw [Outcome.addPath] at h
    split at h
    · exact .inr h
    · split at h
      · exact List.mem_cons.mp h
      · rcases List.mem_cons.mp h with rfl | h
        · exact .inr List.mem_cons_self
        · exact (ih h).imp_right (List.mem_cons_of_mem first)

theorem mem_stalePaths {o : Outcome} {path : String} (h : path ∈ o.stalePaths) :
    (∃ failure ∈ o.failures, path ∈ failure.paths) ∧ o.output.file? path = none := by
  have hFold (paths list : List String) (h : path ∈ paths.foldl (fun list p => Outcome.addPath p list) list) :
      path ∈ paths ∨ path ∈ list := by
    induction paths generalizing list with
    | nil => exact .inr h
    | cons first rest ih =>
      rcases ih _ h with h | h
      · exact .inl (List.mem_cons_of_mem first h)
      · rcases mem_addPath h with rfl | h
        · exact .inl List.mem_cons_self
        · exact .inr h
  rcases hFold _ _ h with h | h
  · obtain ⟨hFailed, hNone⟩ := List.mem_filter.mp h
    exact ⟨List.mem_flatMap.mp hFailed, Option.isNone_iff_eq_none.mp hNone⟩
  · cases h

theorem exists_failed {path : String} (h : path ∈ (process catalog options index).stalePaths) :
    ∃ d ∈ index.declarations, ∃ kind ∈ options.unitKinds, path = unitPath d.moduleName d.table kind := by
  obtain ⟨⟨failure, hFailure, hPath⟩, _⟩ := mem_stalePaths h
  obtain ⟨⟨d, error | output⟩, hMem, hVerdict⟩ := List.mem_filterMap.mp hFailure
  · cases hVerdict
    obtain ⟨kind, hKind, rfl⟩ := List.mem_map.mp hPath
    exact ⟨d, declaration_of_mem_attempts hMem, kind, hKind, rfl⟩
  · cases hVerdict

theorem filter_perm_of_append {files part others : List GeneratedFile} (h : files.Perm (part ++ others))
    {p : GeneratedFile → Bool} (hPart : ∀ f ∈ part, p f) (hOthers : ∀ f ∈ others, ¬ p f) :
    (files.filter p).Perm part := by
  have hFilter := h.filter p
  rw [List.filter_append, List.filter_eq_self.mpr hPart, List.filter_eq_nil_iff.mpr hOthers,
    List.append_nil] at hFilter
  exact hFilter

/-- The outcome of a run accounts for every declaration. -/
theorem process_accounts (catalog : Schema.Catalog) (options : Options) (index : Index) :
    ∃ verdicts, Accounts catalog options index verdicts (process catalog options index) := by
  have hOutput := process_output catalog options index
  have hDeclarations := map_fst_attempts catalog options index [] index.declarations
  let units := (attempts catalog options index [] index.declarations).flatMap Verdict.files
  have hFiles : (process catalog options index).output.files.Perm (units ++ indexesOf options units) := by
    rw [hOutput]
    exact List.mergeSort_perm _ _
  have hUnits : ∀ f ∈ units, f.kind ≠ .moduleIndex := fun f hf => kind_of_mem_files hf
  have hIndexes : ∀ f ∈ indexesOf options units, f.kind = .moduleIndex :=
    fun f hf => (mem_indexesOf hf).choose_spec.2
  refine ⟨attempts catalog options index [] index.declarations, ?_⟩
  exact
    { declarations := hDeclarations
      first := fun before v after hSplit hNew => by
        rw [verdict_of_split hSplit, attempt_of_first]
        simpa using hNew
      later := fun before first between v after hSplit hNew hFirst => by
        rw [verdict_of_split hSplit, List.map_append, List.map_cons, List.nil_append,
          attempt_of_later (by simpa using hNew) hFirst]
      tables := rfl
      failures := rfl
      total := by
        rw [← hDeclarations, List.length_map, ← length_successes_add_failures options]
        exact congrArg (· + _) (List.length_map _)
      nodup := (nodup_succeeded [] index.declarations).1
      units := fun d output h => (generated_of_mem h).map_files
      files := filter_perm_of_append hFiles (by simpa using hUnits) (by simpa using hIndexes)
      indexes := filter_perm_of_append (hFiles.trans List.perm_append_comm) (by simpa using hIndexes)
        (by simpa using hUnits)
      warnings := by rw [hOutput] }

end RowFactory.Generation
