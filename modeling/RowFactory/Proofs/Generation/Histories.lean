import RowFactory.Proofs.Generation.Effects
import RowFactory.Proofs.Generation.ModuleTree

/-! # Module trees on disk over many runs

Indexes are only written for directories that have files of tables, but files are removed wherever a
declaration fails. So a declaration can outlive its file, and there is no other way for one to be broken.
-/

namespace RowFactory.Generation

open Disk (Component Tree Place run_bind_eq_ok run_bind_of_ok)
open Disk.Path (components join)
open Disk.Tree (placeOf)
open Source (Index)

def IsFile (t : Tree) (place : Place) : Prop := ∃ content, t.node? place = some (.file content)

def unitAt (place : Place) (name : String) : Place := place ++ [name ++ ".rs"]

def indexAt (place : Place) : Place := place ++ [indexName]

def Declares (t : Tree) (place : Place) (name : String) : Prop :=
  ∃ text, t.node? (indexAt place) = some (.file (.text text)) ∧ name ∈ Code.declaredModules text

def IsThere (t : Tree) (place : Place) (name : String) : Prop :=
  IsFile t (unitAt place name) ∨ IsFile t (indexAt (place ++ [name]))

/-- Modules that declarations lead to from the top. -/
inductive Reached (t : Tree) (top : Place) : Place → Prop where
  | top : Reached t top top
  | down {place : Place} {name : String} :
      Reached t top place → Declares t place name → Reached t top (place ++ [name])

/-- Every module that is declared by an index within reach is there. -/
def Intact (t : Tree) (top : Place) : Prop :=
  ∀ place name, Reached t top place → Declares t place name → IsThere t place name

theorem Reached.prefix {t : Tree} {top place : Place} (h : Reached t top place) : top <+: place := by
  induction h with
  | top => exact List.prefix_refl top
  | down _ _ ih => exact ih.trans (List.prefix_append _ _)

/-- Brings a directory up to date with an outcome, and gives the paths that were removed. -/
def Outcome.update (o : Outcome) (directory : String) : ExceptT Error (StateM Tree) (List String) :=
  o.output.write directory >>= fun _ => o.removeStale directory

/-- A run with indexes into a directory, without any error. -/
structure Run (directory : String) (o : Outcome) (removed : List String) (t changed : Tree) : Prop where
  outcome : ∃ (catalog : Schema.Catalog) (options : Options) (index : Index), options.moduleIndex ∧
    o = process catalog options index
  effect : (o.update directory).run t = (.ok removed, changed)

def Outcome.writesTo (o : Outcome) (home : Place) (directory : String) (place : Place) : Bool :=
  o.output.files.any fun f => placeBelow home directory f = place

/-- Places of units that were removed while the index of their directory was left as it was. A unit that is
written, or the index of whose directory is, is no longer one of them. -/
def strandedAfter (home : Place) (directory : String) (o : Outcome) (removed : List String)
    (stranded : List Place) : List Place :=
  ((removed.map (placeOf home)).filter fun place =>
      o.writesTo home directory place || !o.writesTo home directory (indexAt place.dropLast)) ++
    stranded.filter fun place =>
      !o.writesTo home directory place && !o.writesTo home directory (indexAt place.dropLast)

/-- What can come of a directory that is empty at first, through runs and through changes outside of it. -/
inductive History (directory : String) : Tree → List Place → Prop where
  | start {t : Tree} : t.Sound → (∀ place, placeOf t.home directory <+: place → ¬ IsFile t place) →
      History directory t []
  | edit {t changed : Tree} {stranded : List Place} : History directory t stranded → changed.Sound →
      changed.home = t.home →
      (∀ place, placeOf t.home directory <+: place → changed.node? place = t.node? place) →
      History directory changed stranded
  | run {t changed : Tree} {stranded : List Place} {o : Outcome} {removed : List String} :
      History directory t stranded → Run directory o removed t changed →
      History directory changed (strandedAfter t.home directory o removed stranded)

theorem placeOf_below {home : Place} {directory path name : String} {above : List Component}
    (h : components path = above ++ [.name name]) :
    placeOf home (join directory path) = above.foldl Disk.Tree.step (placeOf home directory) ++ [name] := by
  rw [Disk.Tree.placeOf_join, h, List.foldl_append]
  rfl

theorem IsModuleFile.placeOf_eq {path name : String} {above : List Component} (h : IsModuleFile path above name)
    (home : Place) (directory : String) :
    placeOf home (join directory path) = unitAt (above.foldl Disk.Tree.step (placeOf home directory)) name :=
  placeOf_below h.path

theorem IsIndexFile.placeOf_eq {path : String} {above : List Component} (h : IsIndexFile path above)
    (home : Place) (directory : String) :
    placeOf home (join directory path) = indexAt (above.foldl Disk.Tree.step (placeOf home directory)) :=
  placeOf_below h

theorem unitAt_ne_indexAt {place other : Place} {name : String} (h : name ≠ "mod") :
    unitAt place name ≠ indexAt other := by
  intro hSame
  have hNames := (List.append_inj' hSame rfl).2
  have hFile : name ++ ".rs" = "mod" ++ ".rs" := (List.cons.inj hNames).1
  exact h ((String.append_left_inj ".rs").mp hFile)

theorem indexAt_inj {place other : Place} : indexAt place = indexAt other ↔ place = other := List.append_left_inj _

theorem dropLast_unitAt (place : Place) (name : String) : (unitAt place name).dropLast = place :=
  List.dropLast_concat

theorem prefix_unitAt {top place : Place} (h : top <+: place) (name : String) : top <+: unitAt place name :=
  h.trans (List.prefix_append place _)

theorem prefix_indexAt {top place : Place} (h : top <+: place) : top <+: indexAt place :=
  h.trans (List.prefix_append place _)

theorem exists_unit {catalog : Schema.Catalog} {options : Options} {index : Index} {f : GeneratedFile}
    (hf : f ∈ unitsOf catalog options index) : ∃ above name, IsModuleFile f.path above name ∧ name ≠ "mod" := by
  obtain ⟨d, _, output, hGenerated, hf⟩ := exists_generated hf
  obtain ⟨kind, hKind, hPath, _⟩ := hGenerated.mem_files hf
  exact ⟨_, _, hPath ▸ isModuleFile_unitPath d.moduleName d.table kind,
    unitName_ne_mod d.table (kind_of_mem_unitKinds hKind)⟩

theorem exists_stale_unit {catalog : Schema.Catalog} {options : Options} {index : Index} {path : String}
    (h : path ∈ (process catalog options index).stalePaths) :
    ∃ above name, IsModuleFile path above name ∧ name ≠ "mod" := by
  obtain ⟨d, _, kind, hKind, hPath⟩ := exists_failed h
  rw [hPath]
  exact ⟨_, _, isModuleFile_unitPath d.moduleName d.table kind, unitName_ne_mod d.table (kind_of_mem_unitKinds hKind)⟩

theorem writesTo_iff {o : Outcome} {home : Place} {directory : String} {place : Place} :
    o.writesTo home directory place ↔ ∃ f ∈ o.output.files, placeBelow home directory f = place := by
  simp [Outcome.writesTo]

section Run

variable {directory : String} {o : Outcome} {removed : List String} {t changed made : Tree}

theorem Run.effects (h : Run directory o removed t changed) (hSound : t.Sound) :
    ∃ made, Writes o.output.files directory t made ∧ Removes o.stalePaths removed directory made changed := by
  obtain ⟨summary, made, hWrite, hRemove⟩ := run_bind_eq_ok h.effect
  have hWrites := writes_writeFiles hSound hWrite
  exact ⟨made, hWrites, removes_removeStale hWrites.sound hRemove⟩

theorem Run.index_not_removed (h : Run directory o removed t changed)
    (hRemoves : Removes o.stalePaths removed directory made changed) (place : Place) :
    indexAt place ∉ removed.map (placeOf made.home) := by
  intro hMem
  obtain ⟨path, hPath, hPlace⟩ := List.mem_map.mp hMem
  obtain ⟨stale, hStale, rfl⟩ := hRemoves.listed path hPath
  obtain ⟨_, _, _, _, rfl⟩ := h.outcome
  obtain ⟨above, name, hFile, hName⟩ := exists_stale_unit hStale
  rw [hFile.placeOf_eq] at hPlace
  exact unitAt_ne_indexAt hName hPlace

theorem Removes.isFile {paths : List String} (h : Removes paths removed directory made changed) {place : Place}
    (hFile : IsFile made place) : IsFile changed place ∨ place ∈ removed.map (placeOf made.home) := by
  obtain ⟨content, hContent⟩ := hFile
  by_cases hMem : place ∈ removed.map (placeOf made.home)
  · exact .inr hMem
  · exact .inl ⟨content, by rw [h.node, if_neg hMem, hContent]⟩

theorem Writes.isFile_of_writesTo (h : Writes o.output.files directory t made) {place : Place}
    (hPlace : o.writesTo t.home directory place) : IsFile made place := by
  obtain ⟨f, hf, rfl⟩ := writesTo_iff.mp hPlace
  obtain ⟨g, _, _, hNode⟩ := h.written f hf
  exact ⟨_, hNode⟩

theorem Writes.isFile (h : Writes o.output.files directory t made) {place : Place} (hFile : IsFile t place) :
    IsFile made place := by
  by_cases hPlace : o.writesTo t.home directory place
  · exact h.isFile_of_writesTo hPlace
  · obtain ⟨content, hContent⟩ := hFile
    rcases h.others place fun f hf hSame => hPlace (writesTo_iff.mpr ⟨f, hf, hSame⟩) with hSame | ⟨hNone, _⟩
    · exact ⟨content, by rw [hSame, hContent]⟩
    · rw [hContent] at hNone
      cases hNone

theorem Run.isThere (h : Run directory o removed t changed) (hWrites : Writes o.output.files directory t made)
    (hRemoves : Removes o.stalePaths removed directory made changed) {place : Place} {name : String}
    (hThere : IsThere t place name) :
    IsThere changed place name ∨ unitAt place name ∈ removed.map (placeOf made.home) := by
  rcases hThere with hUnit | hIndex
  · exact (hRemoves.isFile (hWrites.isFile hUnit)).imp_left .inl
  · rcases hRemoves.isFile (hWrites.isFile hIndex) with hIndex | hMem
    · exact .inl (.inr hIndex)
    · exact absurd hMem (h.index_not_removed hRemoves _)

theorem exists_listed {catalog : Schema.Catalog} {options : Options} {index : Index} {g : GeneratedFile}
    (hg : g ∈ (process catalog options index).output.files) {home place : Place}
    (hPlace : placeBelow home directory g = indexAt place) {name : String}
    (hName : name ∈ Code.declaredModules g.content) :
    ∃ f ∈ (process catalog options index).output.files,
      placeBelow home directory f = unitAt place name ∨
        placeBelow home directory f = indexAt (place ++ [name]) := by
  have hFiles := perm_files catalog options index
  rcases List.mem_append.mp (hFiles.mem_iff.mp hg) with hUnit | hIndex
  · obtain ⟨above, other, hFile, hOther⟩ := exists_unit hUnit
    rw [placeBelow, hFile.placeOf_eq] at hPlace
    exact absurd hPlace (unitAt_ne_indexAt hOther)
  · have hIndexed := indexed_indexFiles (indexFiles_eq_indexesOf hIndex)
    have hUnits : ∀ path ∈ (unitsOf catalog options index).map (·.path),
        ∃ above name, IsModuleFile path above name := by
      intro path hPath
      obtain ⟨f, hf, rfl⟩ := List.mem_map.mp hPath
      obtain ⟨above, name, hFile, _⟩ := exists_unit hf
      exact ⟨above, name, hFile⟩
    obtain ⟨above, hPath, _, hDeclared⟩ := hIndexed.declares hIndex
    rw [placeBelow, hPath.placeOf_eq, indexAt_inj] at hPlace
    rcases lists_closed hUnits ((hDeclared name).mp hName) with ⟨path, hMem, hFile⟩ | ⟨next, hNext⟩
    · obtain ⟨f, hf, rfl⟩ := List.mem_map.mp hMem
      refine ⟨f, hFiles.mem_iff.mpr (List.mem_append_left _ hf), .inl ?_⟩
      rw [placeBelow, hFile.placeOf_eq, hPlace]
    · obtain ⟨other, hOther, hOtherPath⟩ := hIndexed.exists_index hNext
      refine ⟨other, hFiles.mem_iff.mpr (List.mem_append_right _ hOther), .inr ?_⟩
      rw [placeBelow, hOtherPath.placeOf_eq, List.foldl_append, hPlace]
      rfl

/-- What an index declares that a run has written is there, unless it has been removed again. -/
theorem Run.isThere_of_written (h : Run directory o removed t changed)
    (hWrites : Writes o.output.files directory t made) (hRemoves : Removes o.stalePaths removed directory made changed)
    {place : Place} {name : String} (hWritten : o.writesTo t.home directory (indexAt place))
    (hDeclares : Declares changed place name) :
    IsThere changed place name ∨
      (unitAt place name ∈ removed.map (placeOf made.home) ∧ o.writesTo t.home directory (unitAt place name)) := by
  obtain ⟨f, hf, hPlace⟩ := writesTo_iff.mp hWritten
  obtain ⟨g, hg, hSame, hNode⟩ := hWrites.written f hf
  obtain ⟨text, hText, hName⟩ := hDeclares
  rw [hRemoves.node, if_neg (h.index_not_removed hRemoves place), ← hPlace, hNode] at hText
  cases hText
  obtain ⟨catalog, options, index, _, rfl⟩ := h.outcome
  obtain ⟨listed, hListed, hThere⟩ := exists_listed hg (hSame.trans hPlace) hName
  rcases hThere with hUnit | hIndex
  · have hWrote := writesTo_iff.mpr ⟨listed, hListed, hUnit⟩
    rcases hRemoves.isFile (hWrites.isFile_of_writesTo hWrote) with hFile | hMem
    · exact .inl (.inl hFile)
    · exact .inr ⟨hMem, hWrote⟩
  · rcases hRemoves.isFile (hWrites.isFile_of_writesTo (writesTo_iff.mpr ⟨listed, hListed, hIndex⟩)) with hFile | hMem
    · exact .inl (.inr hFile)
    · exact absurd hMem (h.index_not_removed hRemoves _)

theorem Run.declares_of_unwritten (h : Run directory o removed t changed)
    (hWrites : Writes o.output.files directory t made) (hRemoves : Removes o.stalePaths removed directory made changed)
    {place : Place} {name : String} (hUnwritten : ¬ o.writesTo t.home directory (indexAt place))
    (hDeclares : Declares changed place name) : Declares t place name := by
  obtain ⟨text, hText, hName⟩ := hDeclares
  rw [hRemoves.node, if_neg (h.index_not_removed hRemoves place)] at hText
  refine ⟨text, ?_, hName⟩
  rcases hWrites.others _ fun f hf hSame => hUnwritten (writesTo_iff.mpr ⟨f, hf, hSame⟩) with hSame | ⟨_, hNode⟩
  · rw [← hSame, hText]
  · rw [hNode] at hText
    cases hText

end Run

/-- What is declared below a place is there, or it is stranded; and what is stranded is not there. -/
structure Accounted (t : Tree) (top : Place) (stranded : List Place) : Prop where
  sound : t.Sound
  declared : ∀ place name, top <+: place → Declares t place name →
    IsThere t place name ∨ unitAt place name ∈ stranded
  absent : ∀ place ∈ stranded, top <+: place → ¬ IsFile t place

theorem mem_strandedAfter_of_removed {home : List String} {directory : String} {removed : List String}
    {stranded : List Place} {place : Place} {name : String}
    (hMem : unitAt place name ∈ removed.map (placeOf home))
    (hLeft : o.writesTo home directory (unitAt place name) ∨ ¬ o.writesTo home directory (indexAt place)) :
    unitAt place name ∈ strandedAfter home directory o removed stranded := by
  refine List.mem_append_left _ (List.mem_filter.mpr ⟨hMem, ?_⟩)
  rw [dropLast_unitAt]
  simpa using hLeft

section

variable {stranded : List Place} (h : Accounted t (placeOf t.home directory) stranded)
  (hRun : Run directory o removed t changed) (hWrites : Writes o.output.files directory t made)
  (hRemoves : Removes o.stalePaths removed directory made changed)

include h hRun hWrites hRemoves

theorem Accounted.declared_after {place : Place} {name : String} (hBelow : placeOf t.home directory <+: place)
    (hDeclares : Declares changed place name) :
    IsThere changed place name ∨ unitAt place name ∈ strandedAfter t.home directory o removed stranded := by
  have hHome := hWrites.home
  by_cases hWritten : o.writesTo t.home directory (indexAt place)
  · rcases hRun.isThere_of_written hWrites hRemoves hWritten hDeclares with hThere | ⟨hMem, hUnit⟩
    · exact .inl hThere
    · exact .inr (mem_strandedAfter_of_removed (hHome ▸ hMem) (.inl hUnit))
  -- The index is as it was, so that what it declares was there before the run or was stranded then.
  · have hBefore := hRun.declares_of_unwritten hWrites hRemoves hWritten hDeclares
    rcases h.declared place name hBelow hBefore with hThere | hMem
    · rcases hRun.isThere hWrites hRemoves hThere with hThere | hMem
      · exact .inl hThere
      · exact .inr (mem_strandedAfter_of_removed (hHome ▸ hMem) (.inr hWritten))
    -- A stranded unit is back if this run has written it, and stranded again if it was removed after that.
    · by_cases hUnit : o.writesTo t.home directory (unitAt place name)
      · rcases hRemoves.isFile (hWrites.isFile_of_writesTo hUnit) with hFile | hMem
        · exact .inl (.inl hFile)
        · exact .inr (mem_strandedAfter_of_removed (hHome ▸ hMem) (.inl hUnit))
      · refine .inr (List.mem_append_right _ (List.mem_filter.mpr ⟨hMem, ?_⟩))
        rw [dropLast_unitAt]
        simp [hUnit, hWritten]

omit hRun in
theorem Accounted.absent_after {place : Place} (hBelow : placeOf t.home directory <+: place)
    (hMem : place ∈ strandedAfter t.home directory o removed stranded) : ¬ IsFile changed place := by
  rintro ⟨content, hContent⟩
  rw [hRemoves.node] at hContent
  rcases List.mem_append.mp hMem with hMem | hMem
  · rw [hWrites.home, if_pos (List.mem_filter.mp hMem).1] at hContent
    cases hContent
  · obtain ⟨hMem, hLeft⟩ := List.mem_filter.mp hMem
    have hUnit : ¬ o.writesTo t.home directory place := by
      simp only [Bool.and_eq_true, Bool.not_eq_true'] at hLeft
      simp [hLeft.1]
    split at hContent
    · cases hContent
    · rcases hWrites.others place fun f hf hSame => hUnit (writesTo_iff.mpr ⟨f, hf, hSame⟩) with hSame | ⟨_, hNode⟩
      · exact h.absent place hMem hBelow ⟨content, by rw [← hSame, hContent]⟩
      · rw [hNode] at hContent
        cases hContent

end

theorem Accounted.run {directory : String} {o : Outcome} {removed : List String} {t changed : Tree}
    {stranded : List Place} (h : Accounted t (placeOf t.home directory) stranded)
    (hRun : Run directory o removed t changed) :
    changed.home = t.home ∧
      Accounted changed (placeOf t.home directory) (strandedAfter t.home directory o removed stranded) := by
  obtain ⟨made, hWrites, hRemoves⟩ := hRun.effects h.sound
  refine ⟨hRemoves.home.trans hWrites.home, hRemoves.sound, fun place name hBelow hDeclares => ?_,
    fun place hMem hBelow => ?_⟩
  · exact h.declared_after hRun hWrites hRemoves hBelow hDeclares
  · exact h.absent_after hWrites hRemoves hBelow hMem

theorem History.accounted {directory : String} {t : Tree} {stranded : List Place} (h : History directory t stranded) :
    Accounted t (placeOf t.home directory) stranded := by
  induction h with
  | start hSound hEmpty =>
    refine ⟨hSound, ?_, nofun⟩
    rintro place name hBelow ⟨text, hText, _⟩
    exact absurd ⟨_, hText⟩ (hEmpty _ (prefix_indexAt hBelow))
  -- An edit leaves everything below the directory as it is.
  | edit _ hSound hHome hSame ih =>
    rw [hHome]
    refine ⟨hSound, ?_, ?_⟩
    · rintro place name hBelow ⟨text, hText, hName⟩
      have hBelowName := hBelow.trans (List.prefix_append place [name])
      rw [hSame _ (prefix_indexAt hBelow)] at hText
      rw [IsThere, IsFile, IsFile, hSame _ (prefix_unitAt hBelow name), hSame _ (prefix_indexAt hBelowName)]
      exact ih.declared place name hBelow ⟨text, hText, hName⟩
    · rintro place hMem hBelow ⟨content, hContent⟩
      rw [hSame _ hBelow] at hContent
      exact ih.absent place hMem hBelow ⟨content, hContent⟩
  | run _ hRun ih =>
    obtain ⟨hHome, hAccounted⟩ := ih.run hRun
    rw [hHome]
    exact hAccounted

/-- After any runs the modules within reach are all there, just if none is declared whose unit was stranded, apart
from those that are directories as well. So they are if no unit was stranded, which is to say that every unit was
removed by a run that wrote the index of its directory. -/
theorem intact_iff_stranded_undeclared {directory : String} {t : Tree} {stranded : List Place}
    (h : History directory t stranded) :
    (Intact t (placeOf t.home directory) ↔
      ∀ place name, Reached t (placeOf t.home directory) place → Declares t place name →
        unitAt place name ∈ stranded → IsFile t (indexAt (place ++ [name]))) ∧
    (stranded = [] → Intact t (placeOf t.home directory)) := by
  have hAccounted := h.accounted
  have hIff : Intact t (placeOf t.home directory) ↔
      ∀ place name, Reached t (placeOf t.home directory) place → Declares t place name →
        unitAt place name ∈ stranded → IsFile t (indexAt (place ++ [name])) := by
    constructor
    · intro hIntact place name hReached hDeclares hMem
      rcases hIntact place name hReached hDeclares with hUnit | hIndex
      · exact absurd hUnit (hAccounted.absent _ hMem (prefix_unitAt hReached.prefix name))
      · exact hIndex
    · intro hStranded place name hReached hDeclares
      rcases hAccounted.declared place name hReached.prefix hDeclares with hThere | hMem
      · exact hThere
      · exact .inr (hStranded place name hReached hDeclares hMem)
  refine ⟨hIff, fun hNone => hIff.mpr fun _ _ _ _ hMem => ?_⟩
  rw [hNone] at hMem
  cases hMem

def sparseOptions : Options := { docs := false, blockBuilders := false }

def categoriesIndex : Index :=
  ⟨[⟨"categories", "CategoryFactory", "crate", "lib.rs"⟩], [("CategoriesRecord", ["crate"])]⟩

def complete : Outcome := unsorted Fixtures.catalog sparseOptions categoriesIndex

def failed : Outcome := unsorted ⟨[]⟩ sparseOptions categoriesIndex

theorem process_complete : process Fixtures.catalog sparseOptions categoriesIndex = complete :=
  process_eq_unsorted (by decide +kernel)

theorem process_failed : process ⟨[]⟩ sparseOptions categoriesIndex = failed :=
  process_eq_unsorted (by decide +kernel)

def categoriesUnit : String := "categories_factory_builder"

theorem history_empty (directory : String) : History directory {} [] :=
  .start (by decide) fun place _ => by
    rintro ⟨content, hContent⟩
    rw [Disk.Tree.node?] at hContent
    split at hContent <;> cases hContent

theorem exists_files_complete : ∃ f g, complete.output.files = [f, g] ∧ f.path = categoriesUnit ++ ".rs" ∧
    g.path = indexName ∧ categoriesUnit ∈ Code.declaredModules g.content := by
  have hPaths : complete.output.files.map (fun f => (f.path, f.kind)) =
      [(categoriesUnit ++ ".rs", .stateBuilder), (indexName, .moduleIndex)] := by
    decide +kernel
  have hDeclared :
      (complete.output.files.filter (·.kind = .moduleIndex)).map (fun f => Code.declaredModules f.content) =
        [[categoriesUnit]] := by
    decide +kernel
  obtain ⟨f, rest, hFiles, hf, hRest⟩ := List.map_eq_cons_iff.mp hPaths
  obtain ⟨g, others, rfl, hg, hOthers⟩ := List.map_eq_cons_iff.mp hRest
  obtain rfl := List.map_eq_nil_iff.mp hOthers
  obtain ⟨hPath, hKind⟩ := Prod.mk.inj hf
  obtain ⟨hIndexPath, hIndexKind⟩ := Prod.mk.inj hg
  rw [hFiles] at hDeclared
  simp only [List.filter_cons, hKind, hIndexKind, List.filter_nil, reduceCtorEq, decide_false, decide_true,
    Bool.false_eq_true, if_false, if_true, List.map_cons, List.map_nil, List.cons.injEq, and_true] at hDeclared
  exact ⟨f, g, hFiles, hPath, hIndexPath, hDeclared ▸ List.mem_cons_self⟩

section Pair

variable {f g : GeneratedFile} (hf : f.path = categoriesUnit ++ ".rs") (hg : g.path = indexName)

include hf in
theorem placeBelow_unit : placeBelow [] "out" f = unitAt ["out"] categoriesUnit := by
  rw [placeBelow, hf]
  decide

include hg in
theorem placeBelow_index : placeBelow [] "out" g = indexAt ["out"] := by
  rw [placeBelow, hg]
  decide

include hf hg in
theorem placeBelow_pair_inj {a b : GeneratedFile} (ha : a ∈ [f, g]) (hb : b ∈ [f, g])
    (hSame : placeBelow [] "out" a = placeBelow [] "out" b) : a = b := by
  have hApart : placeBelow [] "out" f ≠ placeBelow [] "out" g := by
    rw [placeBelow_unit hf, placeBelow_index hg]
    exact unitAt_ne_indexAt (by decide)
  rw [List.mem_pair] at ha hb
  rcases ha with rfl | rfl <;> rcases hb with rfl | rfl
  · rfl
  · exact absurd hSame hApart
  · exact absurd hSame.symm hApart
  · rfl

end Pair

theorem exists_run_complete : ∃ t, Run "out" complete [] {} t ∧ t.Sound ∧ t.home = [] ∧
    HoldsGenerated t (join "out" (categoriesUnit ++ ".rs")) ∧ Declares t ["out"] categoriesUnit ∧
    ¬ IsFile t (indexAt ["out", categoriesUnit]) := by
  obtain ⟨f, g, hFiles, hf, hg, hDeclared⟩ := exists_files_complete
  have hOk : ((complete.update "out").run {}).1.toOption = some [] := by decide +kernel
  have hStale : complete.stalePaths = [] := by decide +kernel
  cases hUpdate : (complete.update "out").run {} with
  | mk result t =>
    rw [hUpdate] at hOk
    obtain rfl : result = .ok [] := by cases result <;> simp_all [Except.toOption]
    obtain ⟨summary, made, hWrite, hRemove⟩ := run_bind_eq_ok hUpdate
    obtain rfl : made = t := by
      rw [Outcome.removeStale, hStale] at hRemove
      exact (Prod.mk.inj hRemove).2
    have hWrites := writes_writeFiles (by decide : ({} : Tree).Sound) hWrite
    have hRead := readText_of_writeFiles (fun a ha b hb hSame =>
      congrArg (·.content) (placeBelow_pair_inj hf hg (hFiles ▸ ha) (hFiles ▸ hb) hSame)) hWrite
    refine ⟨made, ⟨⟨_, _, _, rfl, process_complete.symm⟩, hUpdate⟩, hWrites.sound, hWrites.home, ?_, ?_, ?_⟩
    · have hUnit := hRead f (hFiles ▸ List.mem_cons_self)
      rw [hf] at hUnit
      exact ⟨f.content, hUnit, isGenerated_content (process_complete ▸ hFiles ▸ List.mem_cons_self)⟩
    · have hNode := Disk.Tree.node?_of_readText (hRead g (hFiles ▸ List.mem_cons_of_mem f List.mem_cons_self))
      rw [hWrites.home] at hNode
      have hPlace : placeOf ({} : Tree).home (join "out" g.path) = indexAt ["out"] := placeBelow_index hg
      exact ⟨g.content, hPlace ▸ hNode, hDeclared⟩
    · have hOther : ∀ h ∈ complete.output.files,
          placeBelow ({} : Tree).home "out" h ≠ indexAt ["out", categoriesUnit] := by
        rw [hFiles]
        refine List.forall_mem_cons.mpr ⟨?_, List.forall_mem_cons.mpr ⟨?_, List.forall_mem_nil _⟩⟩
        · exact placeBelow_unit hf ▸ unitAt_ne_indexAt (by decide)
        · exact placeBelow_index hg ▸ indexAt_inj.not.mpr (by decide)
      rintro ⟨content, hContent⟩
      rcases hWrites.others _ hOther with hSame | ⟨_, hDirectory⟩
      · rw [hSame] at hContent
        cases hContent
      · rw [hDirectory] at hContent
        cases hContent

theorem run_failed {t : Tree} (hHome : t.home = []) (h : HoldsGenerated t (join "out" (categoriesUnit ++ ".rs"))) :
    Run "out" failed [join "out" (categoriesUnit ++ ".rs")] t (t.remove (unitAt ["out"] categoriesUnit)) := by
  have hStale : failed.stalePaths = [categoriesUnit ++ ".rs"] := by decide +kernel
  have hFiles : failed.output.files = [] := by decide +kernel
  have hPlace : placeOf t.home (join "out" (categoriesUnit ++ ".rs")) = unitAt ["out"] categoriesUnit := by
    rw [hHome]
    decide
  have hWrite : (failed.output.write (m := StateM Tree) "out").run t = (.ok {}, t) := by
    rw [Output.write, hFiles]
    rfl
  have hRemove := run_removeGenerated h []
  rw [hPlace, List.nil_append] at hRemove
  refine ⟨⟨_, _, _, rfl, process_failed.symm⟩, ?_⟩
  rw [Outcome.update, run_bind_of_ok hWrite, Outcome.removeStale, hStale, List.foldlM_cons, run_bind_of_ok hRemove]
  rfl

/-- The second run leaves the index, which declares the unit, as it is. -/
theorem exists_broken_history : ∃ t, History "out" t [unitAt ["out"] categoriesUnit] ∧
    ¬ Intact t (placeOf t.home "out") := by
  obtain ⟨t, hRun, hSound, hHome, hHolds, ⟨text, hText, hName⟩, hNoIndex⟩ := exists_run_complete
  have hHistory := ((history_empty "out").run hRun).run (run_failed hHome hHolds)
  have hStranded : strandedAfter t.home "out" failed [join "out" (categoriesUnit ++ ".rs")]
      (strandedAfter ({} : Tree).home "out" complete [] []) = [unitAt ["out"] categoriesUnit] := by
    rw [hHome]
    decide +kernel
  rw [hStranded] at hHistory
  refine ⟨_, hHistory, fun hIntact => ?_⟩
  obtain ⟨content, hUnit, _⟩ := hHolds
  obtain ⟨place, hLocate, hNode, _⟩ := Disk.Tree.readText_eq_ok.mp hUnit
  have hPlace : placeOf t.home (join "out" (categoriesUnit ++ ".rs")) = unitAt ["out"] categoriesUnit := by
    rw [hHome]
    decide
  rw [Disk.Tree.locate_eq_placeOf hLocate, hPlace] at hNode
  have hRemoved := (hSound.remove hNode).2
  have hDeclares : Declares (t.remove (unitAt ["out"] categoriesUnit)) ["out"] categoriesUnit := by
    refine ⟨text, ?_, hName⟩
    rw [hRemoved, if_neg (unitAt_ne_indexAt (by decide)).symm, hText]
  have hTop : placeOf (t.remove (unitAt ["out"] categoriesUnit)).home "out" = ["out"] := by
    change placeOf t.home "out" = ["out"]
    rw [hHome]
    decide
  rw [hTop] at hIntact
  rcases hIntact ["out"] categoriesUnit .top hDeclares with ⟨_, hFile⟩ | ⟨_, hFile⟩
  · rw [hRemoved, if_pos rfl] at hFile
    cases hFile
  · rw [hRemoved, if_neg (unitAt_ne_indexAt (by decide)).symm] at hFile
    exact hNoIndex ⟨_, hFile⟩

theorem exists_stranded_declared : ∃ t place name, History "out" t [unitAt ["out"] categoriesUnit] ∧
    Reached t (placeOf t.home "out") place ∧ Declares t place name ∧
    unitAt place name = unitAt ["out"] categoriesUnit ∧ ¬ IsThere t place name := by
  obtain ⟨t, hHistory, hBroken⟩ := exists_broken_history
  obtain ⟨hIff, _⟩ := intact_iff_stranded_undeclared hHistory
  rw [hIff] at hBroken
  push Not at hBroken
  obtain ⟨place, name, hReached, hDeclares, hMem, hNoIndex⟩ := hBroken
  have hNoUnit := hHistory.accounted.absent _ hMem (prefix_unitAt hReached.prefix name)
  refine ⟨t, place, name, hHistory, hReached, hDeclares, List.mem_singleton.mp hMem, ?_⟩
  rintro (hUnit | hIndex)
  · exact hNoUnit hUnit
  · exact hNoIndex hIndex

end RowFactory.Generation
