import RowFactory.Proofs.Generation.Accounting

/-! # Runs without the declarations that failed

A declaration that failed has no part in what a run makes of the others: not in their verdicts, which depend on
it at most by its table, not in the module indexes, which depend on files, and not in what is said about doubtful
records. The main statement compares two runs, of which the second knows only what succeeded in the first.
-/

namespace RowFactory.Generation

open Source (Declaration Index)

variable {catalog : Schema.Catalog} {options : Options} {index other : Index}

theorem locate_congr (h : other.structs = index.structs) (table recordType : String) :
    locate other table recordType = locate index table recordType := by
  rw [locate, locate, Index.modulesOf, Index.modulesOf, h]

theorem locateAll_congr (h : other.structs = index.structs) (table : String) (types : List String)
    (package : Metadata.Package) : locateAll other table types package = locateAll index table types package := by
  induction types generalizing package with
  | nil => rfl
  | cons recordType rest ih =>
    rw [locateAll, locateAll, locate_congr h]
    simp only [ih]

theorem generateTable_congr (h : other.structs = index.structs) (d : Declaration) :
    generateTable catalog options other d = generateTable catalog options index d := by
  have hPackage (t : Metadata.Table) : packageOf options other d t = packageOf options index d t := by
    rw [packageOf, packageOf, locate_congr h]
    simp only [locateAll_congr h]
  rw [generateTable, generateTable]
  simp only [hPackage]

namespace Verdict

def isSuccess : Verdict → Bool
  | (_, .ok _) => true
  | (_, .error _) => false

end Verdict

theorem filterMap_success?_successes (verdicts : List Verdict) :
    (verdicts.filter Verdict.isSuccess).filterMap success? = verdicts.filterMap success? := by
  rw [List.filterMap_filter]
  refine congrArg (List.filterMap · verdicts) (funext fun v => ?_)
  obtain ⟨d, error | output⟩ := v <;> rfl

theorem flatMap_files_successes (verdicts : List Verdict) :
    (verdicts.filter Verdict.isSuccess).flatMap Verdict.files = verdicts.flatMap Verdict.files := by
  rw [← flatMap_files, filterMap_success?_successes, flatMap_files]

theorem flatMap_warnings_successes (verdicts : List Verdict) :
    (verdicts.filter Verdict.isSuccess).flatMap Verdict.warnings = verdicts.flatMap Verdict.warnings := by
  rw [← flatMap_warnings, filterMap_success?_successes, flatMap_warnings]

theorem succeeded_successes (verdicts : List Verdict) :
    succeeded (verdicts.filter Verdict.isSuccess) = succeeded verdicts := by
  rw [succeeded, filterMap_success?_successes, succeeded]

theorem failures_successes (options : Options) (verdicts : List Verdict) :
    (verdicts.filter Verdict.isSuccess).filterMap (failure? options) = [] := by
  rw [List.filterMap_eq_nil_iff]
  rintro ⟨d, error | output⟩ hMem
  · cases (List.mem_filter.mp hMem).2
  · rfl

theorem map_table_successes (verdicts : List Verdict) :
    (verdicts.filter Verdict.isSuccess).map (·.1.table) = succeeded verdicts := by
  induction verdicts with
  | nil => rfl
  | cons v rest ih =>
    obtain ⟨d, error | output⟩ := v
    · exact ih
    · exact congrArg (d.table :: ·) ih

/-- What succeeded succeeds again, with the same result, after any part of what came before it. -/
theorem attempts_successes (h : other.structs = index.structs) {earlier part : List Declaration}
    (hPart : part ⊆ earlier) (declarations : List Declaration) :
    let successes := (attempts catalog options index earlier declarations).filter Verdict.isSuccess
    attempts catalog options other part (successes.map (·.1)) = successes := by
  induction declarations generalizing earlier part with
  | nil => rfl
  | cons d rest ih =>
    rw [attempts]
    cases hAttempt : attempt catalog options index earlier d with
    | error error =>
      exact ih (List.subset_append_of_subset_left [d] hPart)
    | ok output =>
      obtain ⟨hFirst, hGenerated⟩ := attempt_eq_ok.mp hAttempt
      have hAgain : attempt catalog options other part d = .ok output := by
        rw [attempt_of_first fun e he => hFirst e (hPart he), generateTable_congr h]
        exact generateTable_eq_ok.mpr hGenerated
      have hLater : part ++ [d] ⊆ earlier ++ [d] := fun e he =>
        List.mem_append.mpr ((List.mem_append.mp he).imp_left fun hMem => hPart hMem)
      change attempts catalog options other part (d :: _) = (d, .ok output) :: _
      rw [attempts, hAgain]
      exact congrArg ((d, Except.ok output) :: ·) (ih hLater)

def survivors (catalog : Schema.Catalog) (options : Options) (index : Index) : Index :=
  { index with
    declarations :=
      ((attempts catalog options index [] index.declarations).filter Verdict.isSuccess).map (·.1) }

/-- A run that knows only the declarations that succeed gives the same files, warnings and tables as a run that
knows them all, and none of them fails. -/
theorem process_survivors (catalog : Schema.Catalog) (options : Options) (index : Index) :
    let o := process catalog options index
    let kept := survivors catalog options index
    let again := process catalog options kept
    (kept.structs = index.structs ∧ kept.declarations.Sublist index.declarations ∧
      kept.declarations.map (·.table) = o.tables ∧
      kept.declarations.length + o.failures.length = index.declarations.length) ∧
      again.failures = [] ∧ again.output.files = o.output.files ∧ again.output.warnings = o.output.warnings ∧
      again.tables = o.tables := by
  intro o kept again
  let verdicts := attempts catalog options index [] index.declarations
  have hStructs : kept.structs = index.structs := rfl
  have hVerdicts : attempts catalog options kept [] kept.declarations = verdicts.filter Verdict.isSuccess :=
    attempts_successes hStructs (List.Subset.refl []) index.declarations
  have hOutput : again.output = o.output := by
    have hAgain := process_output catalog options kept
    rw [hVerdicts] at hAgain
    dsimp only at hAgain
    rw [flatMap_files_successes, flatMap_warnings_successes] at hAgain
    exact hAgain.trans (process_output catalog options index).symm
  have hTables : again.tables = o.tables := by
    change succeeded (attempts catalog options kept [] kept.declarations) = succeeded verdicts
    rw [hVerdicts, succeeded_successes]
  have hFailures : again.failures = [] := by
    change (attempts catalog options kept [] kept.declarations).filterMap (failure? options) = []
    rw [hVerdicts, failures_successes]
  have hKept : kept.declarations.map (·.table) = o.tables := by
    rw [show kept.declarations = (verdicts.filter Verdict.isSuccess).map (·.1) from rfl, List.map_map]
    exact map_table_successes verdicts
  refine ⟨⟨hStructs, ?_, hKept, ?_⟩, hFailures, congrArg Output.files hOutput,
    congrArg Output.warnings hOutput, hTables⟩
  · rw [← map_fst_attempts catalog options index [] index.declarations]
    exact List.filter_sublist.map _
  · have hLength := length_successes_add_failures options verdicts
    rw [← map_fst_attempts catalog options index [] index.declarations, List.length_map, ← hLength,
      ← List.length_map (·.table), hKept]
    exact congrArg (· + _) (List.length_map _)

end RowFactory.Generation
