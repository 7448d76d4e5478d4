import Mathlib.Data.List.Perm.Subperm
import RowFactory.Proofs.Generation.Repeating

/-! # The removal of stale files

A path is stale if a failed declaration has it and no declaration that succeeds. The removal empties the places of
stale paths that lead to generated texts, and nothing else. It spares the files of the run as long as no stale path
leads to one of them, which paths that only go down never do.
-/

namespace RowFactory.Generation

open Disk (Content Place Tree run_bind_eq_ok)
open Disk.Path (before join same)
open Disk.Tree (Keeps placeOf)
open Source (Declaration Index isGeneratedContent)

theorem pairwise_addPath {list : List String} (h : list.Pairwise fun a b => before a b) (path : String) :
    (Outcome.addPath path list).Pairwise fun a b => before a b := by
  induction list with
  | nil => exact List.pairwise_singleton _ _
  | cons first rest ih =>
    obtain ⟨hFirst, hRest⟩ := List.pairwise_cons.mp h
    rw [Outcome.addPath]
    split
    · exact h
    · rename_i hSame
      split
      · rename_i hBefore
        refine List.pairwise_cons.mpr ⟨fun p hp => ?_, h⟩
        rcases List.mem_cons.mp hp with rfl | hp
        · exact hBefore
        · exact Disk.Path.before_trans hBefore (hFirst p hp)
      · rename_i hBefore
        refine List.pairwise_cons.mpr ⟨fun p hp => ?_, ih hRest⟩
        rcases mem_addPath hp with rfl | hp
        · exact Disk.Path.before_of_not hSame hBefore
        · exact hFirst p hp

theorem exists_same_addPath {path p : String} {list : List String} :
    (∃ q ∈ Outcome.addPath path list, same q p) ↔ same path p ∨ ∃ q ∈ list, same q p := by
  induction list with
  | nil => simp [Outcome.addPath]
  | cons first rest ih =>
    rw [Outcome.addPath]
    split
    · rename_i hSame
      have hFirst : same path p ↔ same first p := by
        rw [Disk.Path.same_iff, Disk.Path.same_iff, Disk.Path.same_iff.mp hSame]
      simp [hFirst]
    · split
      · simp
      · rw [List.exists_mem_cons_iff, ih, List.exists_mem_cons_iff, or_left_comm]

theorem pairwise_stalePaths (o : Outcome) : o.stalePaths.Pairwise fun a b => before a b := by
  have hFold (paths list : List String) (h : list.Pairwise fun a b => before a b) :
      (paths.foldl (fun list path => Outcome.addPath path list) list).Pairwise fun a b => before a b := by
    induction paths generalizing list with
    | nil => exact h
    | cons path rest ih => exact ih _ (pairwise_addPath h path)
  exact hFold _ [] List.Pairwise.nil

theorem file?_of_same (o : Output) {path p : String} (h : same path p) : o.file? path = o.file? p := by
  simp only [Output.file?, same, Disk.Path.same_iff.mp h]

theorem exists_same_stalePaths {o : Outcome} {path : String} :
    (∃ stale ∈ o.stalePaths, same stale path) ↔
      (∃ failure ∈ o.failures, ∃ p ∈ failure.paths, same p path) ∧ o.output.file? path = none := by
  have hFold (paths list : List String) :
      (∃ q ∈ paths.foldl (fun list p => Outcome.addPath p list) list, same q path) ↔
        (∃ q ∈ list, same q path) ∨ ∃ q ∈ paths, same q path := by
    induction paths generalizing list with
    | nil => simp
    | cons first rest ih =>
      rw [List.foldl_cons, ih, exists_same_addPath, List.exists_mem_cons_iff, or_assoc, or_left_comm]
  rw [Outcome.stalePaths, hFold]
  constructor
  · rintro (⟨_, hNone, _⟩ | ⟨p, hp, hSame⟩)
    · cases hNone
    · obtain ⟨hFailed, hNone⟩ := List.mem_filter.mp hp
      obtain ⟨failure, hFailure, hPath⟩ := List.mem_flatMap.mp hFailed
      refine ⟨⟨failure, hFailure, p, hPath, hSame⟩, ?_⟩
      rw [← file?_of_same _ hSame]
      exact Option.isNone_iff_eq_none.mp hNone
  · rintro ⟨⟨failure, hFailure, p, hp, hSame⟩, hNone⟩
    refine .inr ⟨p, List.mem_filter.mpr ⟨List.mem_flatMap.mpr ⟨failure, hFailure, hp⟩, ?_⟩, hSame⟩
    rw [file?_of_same _ hSame, hNone]
    rfl

def Fails (catalog : Schema.Catalog) (options : Options) (index : Index) (d : Declaration) : Prop :=
  ∃ error, (d, .error error) ∈ attempts catalog options index [] index.declarations

def IsUnitPath (options : Options) (d : Declaration) (path : String) : Prop :=
  ∃ kind ∈ options.unitKinds, same (unitPath d.moduleName d.table kind) path

/-- A failed declaration has the path, and no declaration that succeeds. -/
def IsStale (catalog : Schema.Catalog) (options : Options) (index : Index) (path : String) : Prop :=
  (∃ d, Fails catalog options index d ∧ IsUnitPath options d path) ∧
    ∀ d, Succeeds catalog options index d → ¬ IsUnitPath options d path

section Paths

variable {catalog : Schema.Catalog} {options : Options} {index : Index}

theorem exists_failure_iff {path : String} :
    (∃ failure ∈ (process catalog options index).failures, ∃ p ∈ failure.paths, same p path) ↔
      ∃ d, Fails catalog options index d ∧ IsUnitPath options d path := by
  constructor
  · rintro ⟨failure, hFailure, p, hp, hSame⟩
    obtain ⟨⟨d, error | output⟩, hMem, hVerdict⟩ := List.mem_filterMap.mp hFailure
    · cases hVerdict
      obtain ⟨kind, hKind, rfl⟩ := List.mem_map.mp hp
      exact ⟨d, ⟨error, hMem⟩, kind, hKind, hSame⟩
    · cases hVerdict
  · rintro ⟨d, ⟨error, hMem⟩, kind, hKind, hSame⟩
    let failure : TableFailure :=
      ⟨d.table, d.declaredBy, error, options.unitKinds.map (unitPath d.moduleName d.table)⟩
    have hFailure : failure ∈ (process catalog options index).failures := List.mem_filterMap.mpr ⟨_, hMem, rfl⟩
    exact ⟨failure, hFailure, _, List.mem_map_of_mem hKind, hSame⟩

theorem file?_eq_none_iff {d : Declaration} {path : String} (hUnit : IsUnitPath options d path) :
    (process catalog options index).output.file? path = none ↔
      ∀ e, Succeeds catalog options index e → ¬ IsUnitPath options e path := by
  have hFiles := perm_files catalog options index
  rw [Output.file?, List.find?_eq_none]
  constructor
  · rintro hNone e ⟨output, hMem⟩ ⟨kind, hKind, hSame⟩
    obtain ⟨f, hf, hPath⟩ := (generated_of_mem hMem).exists_file hKind
    have hFile : f ∈ unitsOf catalog options index := List.mem_flatMap.mpr ⟨_, hMem, hf⟩
    refine hNone f (hFiles.mem_iff.mpr (List.mem_append_left _ hFile)) ?_
    rw [hPath]
    exact hSame
  · intro hNone f hf hSame
    rcases List.mem_append.mp (hFiles.mem_iff.mp hf) with hf | hf
    · obtain ⟨⟨e, error | output⟩, hMem, hf⟩ := List.mem_flatMap.mp hf
      · cases hf
      · obtain ⟨kind, hKind, hPath, _⟩ := (generated_of_mem hMem).mem_files hf
        exact hNone e ⟨output, hMem⟩ ⟨kind, hKind, hPath ▸ hSame⟩
    -- The path of an index has another ending than that of a unit.
    · obtain ⟨directory, hPath, _⟩ := mem_indexesOf hf
      obtain ⟨kind, hKind, hUnitSame⟩ := hUnit
      have hIndex : same (unitPath d.moduleName d.table kind) (join directory indexName) := by
        rw [Disk.Path.same_iff] at hSame hUnitSame ⊢
        rw [hUnitSame, ← hSame, hPath]
      rw [unitPath_eq, Disk.Path.same_join_iff (isName_unit d.table kind) isName_indexName, indexName_eq,
        fileName_inj] at hIndex
      exact kind_of_mem_unitKinds hKind hIndex.2.2

theorem exists_same_stalePaths_iff {path : String} :
    (∃ stale ∈ (process catalog options index).stalePaths, same stale path) ↔ IsStale catalog options index path := by
  rw [exists_same_stalePaths, exists_failure_iff]
  refine and_congr_right fun ⟨d, _, hUnit⟩ => ?_
  exact file?_eq_none_iff hUnit

end Paths

def generatedBelow (t : Tree) (directory : String) (paths : List String) : List String :=
  (paths.map (join directory)).filter fun path => (((t.readText path).toOption).map Source.isGenerated).getD false

section Below

variable {t made changed : Tree} {directory : String}

theorem mem_generatedBelow {paths : List String} {path : String} :
    path ∈ generatedBelow t directory paths ↔
      (∃ stale ∈ paths, join directory stale = path) ∧ HoldsGenerated t path := by
  rw [generatedBelow, List.mem_filter, List.mem_map, holdsGenerated_iff]

theorem generatedBelow_cons_of (rest : List String) {stale : String} (h : HoldsGenerated t (join directory stale)) :
    generatedBelow t directory (stale :: rest) = join directory stale :: generatedBelow t directory rest :=
  List.filter_cons_of_pos (holdsGenerated_iff.mp h)

theorem generatedBelow_cons_of_not (rest : List String) {stale : String}
    (h : ¬ HoldsGenerated t (join directory stale)) :
    generatedBelow t directory (stale :: rest) = generatedBelow t directory rest :=
  List.filter_cons_of_neg fun hHolds => h (holdsGenerated_iff.mpr hHolds)

theorem generatedBelow_sublist (hKeeps : Keeps (fun _ => False) changed t) (paths : List String) :
    (generatedBelow changed directory paths).Sublist (generatedBelow t directory paths) :=
  List.monotone_filter_right _ fun _ hHolds =>
    holdsGenerated_iff.mp ((holdsGenerated_iff.mpr hHolds).of_keeps hKeeps)

theorem removed_foldlM {paths start result : List String} (hSound : t.Sound)
    (h : (paths.foldlM (removeGenerated (m := StateM Tree) directory) start).run t = (.ok result, changed)) :
    ∃ removed, result = start ++ removed ∧ removed.Sublist (generatedBelow t directory paths) ∧
      (removed.map (placeOf t.home)).Nodup := by
  induction paths generalizing start t with
  | nil =>
    obtain ⟨hResult, _⟩ := Prod.mk.inj h
    exact ⟨[], by rw [List.append_nil, Except.ok.inj hResult], List.nil_sublist _, List.nodup_nil⟩
  | cons stale rest ih =>
    rw [List.foldlM_cons] at h
    obtain ⟨_, made, hFirst, hRest⟩ := run_bind_eq_ok h
    rcases removeGenerated_cases hSound hFirst with ⟨hHolds, rfl, hMade, hHome, hNode⟩ | ⟨hHolds, rfl, rfl⟩
    · obtain ⟨removed, rfl, hSublist, hNodup⟩ := ih hMade hRest
      have hKeeps : Keeps (fun _ => False) made t := keeps_of_emptied hHome hNode
      refine ⟨join directory stale :: removed, List.append_assoc _ _ _, ?_, ?_⟩
      · rw [generatedBelow_cons_of rest hHolds]
        exact (hSublist.trans (generatedBelow_sublist hKeeps rest)).cons_cons _
      -- What is removed later leads to a text, but the place of the first path is empty by then.
      · rw [List.map_cons, List.nodup_cons]
        rw [hHome] at hNodup
        refine ⟨fun hMem => ?_, hNodup⟩
        obtain ⟨path, hPath, hPlace⟩ := List.mem_map.mp hMem
        obtain ⟨text, hText, _⟩ := (mem_generatedBelow.mp (hSublist.subset hPath)).2.exists_node
        rw [hHome, hNode, if_pos hPlace] at hText
        cases hText
    · obtain ⟨removed, rfl, hSublist, hNodup⟩ := ih hSound hRest
      rw [generatedBelow_cons_of_not rest hHolds]
      exact ⟨removed, rfl, hSublist, hNodup⟩

end Below

/-- What the removal of stale files does: it empties exactly the places of stale paths that led to generated texts, and
lists for each place one of these paths. -/
structure Removal (o : Outcome) (directory : String) (removed : List String) (made changed : Tree) : Prop where
  node : ∀ p, changed.node? p =
    if p ∈ (generatedBelow made directory o.stalePaths).map (placeOf made.home) then none else made.node? p
  sublist : removed.Sublist (generatedBelow made directory o.stalePaths)
  nodup : (removed.map (placeOf made.home)).Nodup
  covers : ∀ path ∈ generatedBelow made directory o.stalePaths,
    placeOf made.home path ∈ removed.map (placeOf made.home)

def Spares (o : Outcome) (home : Place) (directory : String) (made changed : Tree) : Prop :=
  ∀ f ∈ o.output.files, changed.node? (placeBelow home directory f) = made.node? (placeBelow home directory f)

section Removal

variable {o : Outcome} {directory : String} {removed : List String} {t made changed : Tree}

theorem removal_of_run (hSound : made.Sound)
    (h : (o.removeStale (m := StateM Tree) directory).run made = (.ok removed, changed)) :
    Removal o directory removed made changed := by
  have hRemoves := removes_removeStale hSound h
  obtain ⟨listed, hListed, hSublist, hNodup⟩ := removed_foldlM hSound h
  obtain rfl : removed = listed := hListed
  have hCovers : ∀ path ∈ generatedBelow made directory o.stalePaths,
      placeOf made.home path ∈ removed.map (placeOf made.home) := by
    intro path hPath
    obtain ⟨⟨stale, hStale, rfl⟩, text, hRead, hText⟩ := mem_generatedBelow.mp hPath
    by_contra hNone
    exact hRemoves.complete stale hStale ⟨text, hRemoves.keeps_others.readText hRead hNone, hText⟩
  refine ⟨fun p => ?_, hSublist, hNodup, hCovers⟩
  have hPlaces : p ∈ removed.map (placeOf made.home) ↔
      p ∈ (generatedBelow made directory o.stalePaths).map (placeOf made.home) := by
    refine ⟨fun hMem => (hSublist.map _).subset hMem, fun hMem => ?_⟩
    obtain ⟨path, hPath, rfl⟩ := List.mem_map.mp hMem
    exact hCovers path hPath
  rw [hRemoves.node]
  simp only [hPlaces]

/-- All paths that led to generated texts are listed just if no two of them led to the same one. -/
theorem Removal.removed_eq_iff (h : Removal o directory removed made changed) :
    removed = generatedBelow made directory o.stalePaths ↔
      ((generatedBelow made directory o.stalePaths).map (placeOf made.home)).Nodup := by
  constructor
  · intro hAll
    rw [← hAll]
    exact h.nodup
  · intro hNodup
    refine h.sublist.eq_of_length_le ?_
    have hSubset : (generatedBelow made directory o.stalePaths).map (placeOf made.home) ⊆
        removed.map (placeOf made.home) := by
      intro p hp
      obtain ⟨path, hPath, rfl⟩ := List.mem_map.mp hp
      exact h.covers path hPath
    simpa using (List.subperm_of_subset hNodup hSubset).length_le

theorem Removal.of_not_generated (h : Removal o directory removed made changed) {p : Place} {content : Content}
    (hNode : made.node? p = some (.file content)) (hContent : ¬ isGeneratedContent content) :
    changed.node? p = some (.file content) := by
  rw [h.node, if_neg, hNode]
  intro hMem
  obtain ⟨path, hPath, rfl⟩ := List.mem_map.mp hMem
  obtain ⟨text, hText, hGenerated⟩ := (mem_generatedBelow.mp hPath).2.exists_node
  rw [hNode] at hText
  cases hText
  exact hContent hGenerated

theorem Removal.spares_iff (h : Removal o directory removed made changed)
    (hWrites : Writes o.output.files directory t made) :
    Spares o t.home directory made changed ↔
      ∀ path ∈ generatedBelow made directory o.stalePaths, ∀ f ∈ o.output.files,
        placeOf made.home path ≠ placeBelow t.home directory f := by
  constructor
  · intro hKept path hPath f hf hPlace
    obtain ⟨g, _, _, hText⟩ := hWrites.written f hf
    have hGone := h.node (placeBelow t.home directory f)
    rw [if_pos (hPlace ▸ List.mem_map_of_mem hPath), hKept f hf, hText] at hGone
    cases hGone
  · intro hApart f hf
    rw [h.node, if_neg]
    intro hMem
    obtain ⟨path, hPath, hPlace⟩ := List.mem_map.mp hMem
    exact hApart path hPath f hf hPlace

end Removal

theorem perm_summary {directory : String} {files : List GeneratedFile} {summary result : WriteSummary}
    {t changed : Tree}
    (h : (files.foldlM (writeFile (m := StateM Tree) directory) summary).run t = (.ok result, changed)) :
    (result.written ++ result.unchanged).Perm
      (summary.written ++ summary.unchanged ++ files.map fun f => join directory f.path) := by
  induction files generalizing summary t with
  | nil =>
    obtain ⟨hResult, _⟩ := Prod.mk.inj h
    rw [← Except.ok.inj hResult, List.map_nil, List.append_nil]
  | cons f rest ih =>
    rw [List.foldlM_cons] at h
    obtain ⟨next, made, hFile, hRest⟩ := run_bind_eq_ok h
    refine (ih hRest).trans ?_
    rw [List.map_cons]
    rcases writeFile_cases hFile with ⟨_, rfl, _⟩ | ⟨_, _, _, rfl⟩
    · simp
    · -- The path of a file that was written comes before those that were left alone.
      rw [List.append_assoc summary.written, List.append_assoc summary.written, List.append_assoc summary.written]
      refine List.Perm.append_left _ ?_
      rw [List.singleton_append]
      exact List.perm_middle.symm

section Runs

variable {catalog : Schema.Catalog} {options : Options} {index : Index} {o : Outcome} {directory : String}
  {summary : WriteSummary} {removed : List String} {t made changed : Tree}

theorem nodup_places_of_modules (hOutcome : o = process catalog options index)
    (hModules : ∀ d ∈ index.declarations, IsModulePath d.moduleName) (directory : String) (made : Tree) :
    ((generatedBelow made directory o.stalePaths).map (placeOf made.home)).Nodup := by
  have hPlaces : ((o.stalePaths.map (join directory)).map (placeOf made.home)).Nodup := by
    rw [List.map_map, List.Nodup, List.pairwise_map]
    refine (pairwise_stalePaths o).imp_of_mem fun {a b} ha hb hBefore hSame => ?_
    have hNames := namesOnly_of_mem_stalePaths hModules (hOutcome ▸ ha)
    have hOtherNames := namesOnly_of_mem_stalePaths hModules (hOutcome ▸ hb)
    simp only [Function.comp_apply] at hSame
    rw [Disk.Tree.placeOf_join_names hNames, Disk.Tree.placeOf_join_names hOtherNames, List.append_right_inj,
      hNames.names_inj hOtherNames] at hSame
    exact Disk.Path.not_same_of_before hBefore hSame
  exact hPlaces.sublist (List.filter_sublist.map _)

/-- After the files of an outcome have been written and its stale files removed: The stale paths are, in their order
and without repetition, the paths of failed declarations that no other declaration has. Exactly the places are empty to
which such a path leads, if it led to a generated text, and all these paths are listed if no two of them led to one
place. The files of the run, written or left alone, are spared if none of these paths leads to them. Any other file
that there was before is as it was, unless it was generated and a stale path leads to it. When the modules of all
declarations are written with identifiers, all paths are listed and all files spared. -/
theorem removeStale_effect (hOutcome : o = process catalog options index) (hSound : t.Sound)
    (hWrite : (o.output.write (m := StateM Tree) directory).run t = (.ok summary, made))
    (hRemove : (o.removeStale (m := StateM Tree) directory).run made = (.ok removed, changed)) :
    let held := generatedBelow made directory o.stalePaths
    (o.stalePaths.Pairwise (fun a b => before a b) ∧
      ∀ path, (∃ stale ∈ o.stalePaths, same stale path) ↔ IsStale catalog options index path) ∧
    (∀ p, changed.node? p = if p ∈ held.map (placeOf t.home) then none else made.node? p) ∧
    (removed.Sublist held ∧ (removed = held ↔ (held.map (placeOf t.home)).Nodup)) ∧
    ((summary.written ++ summary.unchanged).Perm (o.output.files.map fun f => join directory f.path) ∧
      (Spares o t.home directory made changed ↔
        ∀ path ∈ held, ∀ f ∈ o.output.files, placeOf t.home path ≠ placeBelow t.home directory f)) ∧
    (∀ p content, t.node? p = some (.file content) → (∀ f ∈ o.output.files, placeBelow t.home directory f ≠ p) →
      changed.node? p = some (.file content) ∨
        isGeneratedContent content ∧ p ∈ held.map (placeOf t.home) ∧ changed.node? p = none) ∧
    ((∀ d ∈ index.declarations, IsModulePath d.moduleName) →
      removed = held ∧ Spares o t.home directory made changed) := by
  intro held
  have hWrites := writes_writeFiles hSound hWrite
  have hRemoval := removal_of_run hWrites.sound hRemove
  have hSummary := perm_summary hWrite
  have hSpares := hRemoval.spares_iff hWrites
  refine ⟨⟨pairwise_stalePaths o, fun path => ?_⟩, ?_, ⟨hRemoval.sublist, ?_⟩, ⟨?_, ?_⟩, ?_, ?_⟩
  · rw [hOutcome]
    exact exists_same_stalePaths_iff
  · rw [← hWrites.home]
    exact hRemoval.node
  · rw [← hWrites.home]
    exact hRemoval.removed_eq_iff
  · simpa using hSummary
  · rw [hSpares, hWrites.home]
  · intro p content hNode hOther
    have hMade : made.node? p = some (.file content) := by
      rcases hWrites.others p hOther with hSame | ⟨hNone, _⟩
      · rw [hSame, hNode]
      · rw [hNode] at hNone
        cases hNone
    by_cases hContent : isGeneratedContent content
    · have hGone := hRemoval.node p
      rw [hWrites.home] at hGone
      split at hGone
      · rename_i hHeld
        exact .inr ⟨hContent, hHeld, hGone⟩
      · exact .inl (hGone.trans hMade)
    · exact .inl (hRemoval.of_not_generated hMade hContent)
  · intro hModules
    refine ⟨hRemoval.removed_eq_iff.mpr (nodup_places_of_modules hOutcome hModules directory made), hSpares.mpr ?_⟩
    intro path hPath f hf
    obtain ⟨⟨stale, hStale, rfl⟩, _⟩ := mem_generatedBelow.mp hPath
    rw [hWrites.home]
    exact placeOf_stale_ne hOutcome hModules hStale hf t.home directory

/-- A file that the run has just written is removed, because a stale path leads to it that is written in another
way. -/
theorem exists_written_file_removed : ∃ summary removed made changed,
    (doubledOutcome.output.write (m := StateM Tree) "out").run doubled = (.ok summary, made) ∧
    (doubledOutcome.removeStale (m := StateM Tree) "out").run made = (.ok removed, changed) ∧
    ¬ Spares doubledOutcome doubled.home "out" made changed := by
  obtain ⟨f, g, hFiles, hf, _⟩ := exists_files_doubled
  obtain ⟨summary, changed, hRun⟩ := exists_run_doubled
  obtain ⟨_, made, _, _, hWrite, hRemove⟩ := generate_cases sound_doubled hRun
  obtain ⟨_, _, ⟨hSublist, _⟩, ⟨_, hSpares⟩, _⟩ :=
    removeStale_effect process_doubled.symm sound_doubled hWrite hRemove
  refine ⟨summary, _, made, changed, hWrite, hRemove, fun hAll => ?_⟩
  refine hSpares.mp hAll _ (hSublist.subset List.mem_cons_self) f (hFiles ▸ List.mem_cons_self) ?_
  rw [show doubled.home = [] from rfl, placeBelow_unit hf]
  decide

end Runs

end RowFactory.Generation
