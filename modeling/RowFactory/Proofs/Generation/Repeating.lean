import RowFactory.Proofs.Generation.Histories
import RowFactory.Proofs.Generation.Overwriting
import RowFactory.Proofs.Source.Scanning

/-! # Runs that are repeated

A second run finds the same declarations, since the first one only changes generated files. It has nothing to do
unless the first one has lost a file that it had written: to another file, or to the removal of what failed
declarations left behind.
-/

namespace RowFactory.Generation

open Disk (Place Tree run_bind_eq_ok run_bind_of_ok run_readText)
open Disk.Path (NamesOnly join)
open Disk.Tree (Keeps placeOf)
open Source (Index indexBelow isGeneratedContent)

/-- A whole run: the outcome, the paths of files that were written or left alone, and of those removed. -/
def generate (catalog : Schema.Catalog) (options : Options) (sources directory : String) :
    ExceptT Error (StateM Tree) (Outcome × WriteSummary × List String) := do
  let o ← processDirectory catalog options sources
  let summary ← o.output.write directory
  let removed ← o.removeStale directory
  return (o, summary, removed)

/-- Every file of the outcome is in place, and no failed declaration has left anything. -/
structure UpToDate (o : Outcome) (directory : String) (t : Tree) : Prop where
  read : ∀ f ∈ o.output.files, t.readText (join directory f.path) = .ok f.content
  clean : ∀ path ∈ o.stalePaths, ¬ HoldsGenerated t (join directory path)

section Writing

variable {directory : String} {t changed : Tree}

theorem run_writeFile_of_read {f : GeneratedFile} (h : t.readText (join directory f.path) = .ok f.content)
    (summary : WriteSummary) : (writeFile (m := StateM Tree) directory summary f).run t =
      (.ok { summary with unchanged := summary.unchanged ++ [join directory f.path] }, t) := by
  have hSame : (Except.ok f.content : Except String String).toOption = some f.content := rfl
  rw [writeFile, run_readText, h, if_pos hSame]
  rfl

theorem run_writeFiles_of_read {files : List GeneratedFile}
    (h : ∀ f ∈ files, t.readText (join directory f.path) = .ok f.content) (summary : WriteSummary) :
    (files.foldlM (writeFile (m := StateM Tree) directory) summary).run t =
      (.ok { summary with unchanged := summary.unchanged ++ files.map fun f => join directory f.path }, t) := by
  induction files generalizing summary with
  | nil => rw [List.map_nil, List.append_nil]; rfl
  | cons f rest ih =>
    rw [List.foldlM_cons, run_bind_of_ok (run_writeFile_of_read (h f List.mem_cons_self) summary),
      ih fun g hg => h g (List.mem_cons_of_mem f hg)]
    simp

theorem writeFiles_cases {files : List GeneratedFile} {summary result : WriteSummary}
    (h : (files.foldlM (writeFile (m := StateM Tree) directory) summary).run t = (.ok result, changed)) :
    ∃ more, result.written = summary.written ++ more ∧
      (more = [] → changed = t ∧ ∀ f ∈ files, t.readText (join directory f.path) = .ok f.content) := by
  induction files generalizing summary t with
  | nil =>
    obtain ⟨hResult, rfl⟩ := Prod.mk.inj h
    refine ⟨[], ?_, fun _ => ⟨rfl, nofun⟩⟩
    rw [List.append_nil, ← Except.ok.inj hResult]
  | cons f rest ih =>
    rw [List.foldlM_cons] at h
    obtain ⟨next, made, hFile, hRest⟩ := run_bind_eq_ok h
    obtain ⟨more, hMore, hAll⟩ := ih hRest
    rcases writeFile_cases hFile with ⟨hRead, rfl, rfl⟩ | ⟨_, _, _, rfl⟩
    · refine ⟨more, hMore, fun hNone => ?_⟩
      obtain ⟨hSame, hReadRest⟩ := hAll hNone
      exact ⟨hSame, List.forall_mem_cons.mpr ⟨hRead, hReadRest⟩⟩
    · refine ⟨join directory f.path :: more, ?_, nofun⟩
      rw [hMore, List.append_assoc]
      rfl

theorem run_removeStale_of_clean {paths : List String}
    (h : ∀ path ∈ paths, ¬ HoldsGenerated t (join directory path)) (removed : List String) :
    (paths.foldlM (removeGenerated (m := StateM Tree) directory) removed).run t = (.ok removed, t) := by
  induction paths with
  | nil => rfl
  | cons path rest ih =>
    rw [List.foldlM_cons, run_bind_of_ok (run_removeGenerated_of_not (h path List.mem_cons_self) removed)]
    exact ih fun other hOther => h other (List.mem_cons_of_mem path hOther)

end Writing

/-- No file of the outcome was lost to another one, or removed again. -/
structure Lossless (o : Outcome) (home : Place) (directory : String) (removed : List String) : Prop where
  written : ∀ f ∈ o.output.files, ∀ g ∈ o.output.files,
    placeBelow home directory f = placeBelow home directory g → f.content = g.content
  kept : ∀ path ∈ removed, ∀ f ∈ o.output.files, placeOf home path ≠ placeBelow home directory f

section Effects

variable {o : Outcome} {directory : String} {removed : List String} {summary : WriteSummary} {t made changed : Tree}

theorem Removes.keeps_others {paths : List String} (h : Removes paths removed directory made changed) :
    Keeps (· ∈ removed.map (placeOf made.home)) made changed where
  home := h.home
  directory p hp := by
    rw [h.node, if_neg, hp]
    intro hMem
    obtain ⟨path, hPath, rfl⟩ := List.mem_map.mp hMem
    obtain ⟨text, hText, _⟩ := h.generated path hPath
    rw [hText] at hp
    cases hp
  file p content hPlace hp := by rw [h.node, if_neg hPlace, hp]

theorem upToDate_iff_lossless (hWrite : (o.output.write (m := StateM Tree) directory).run t = (.ok summary, made))
    (hRemoves : Removes o.stalePaths removed directory made changed) :
    UpToDate o directory changed ↔ Lossless o t.home directory removed := by
  have hHome : made.home = t.home := (keeps_writeFiles hWrite).home
  constructor
  · intro h
    refine ⟨fun f hf g hg hPlace => ?_, fun path hPath f hf hPlace => ?_⟩
    · rw [← hHome, ← hRemoves.home] at hPlace
      exact Disk.Tree.readText_of_placeOf_eq hPlace (h.read f hf) (h.read g hg)
    · have hNode := Disk.Tree.node?_of_readText (h.read f hf)
      have hMem : placeOf made.home (join directory f.path) ∈ removed.map (placeOf made.home) := by
        rw [hHome]
        exact List.mem_map.mpr ⟨path, hPath, hPlace⟩
      rw [hRemoves.node, hRemoves.home, if_pos hMem] at hNode
      cases hNode
  · intro h
    refine ⟨fun f hf => ?_, hRemoves.complete⟩
    have hRead := (Output.readText_of_write_iff hWrite).mpr h.written f hf
    refine hRemoves.keeps_others.readText hRead fun hMem => ?_
    obtain ⟨path, hPath, hPlace⟩ := List.mem_map.mp hMem
    rw [hHome] at hPlace
    exact h.kept path hPath f hf hPlace

theorem same_files (hGenerated : ∀ f ∈ o.output.files, Source.isGenerated f.content)
    (hOwn : ∀ f ∈ o.output.files, ∀ content, t.node? (placeBelow t.home directory f) = some (.file content) →
      isGeneratedContent content)
    (hWrites : Writes o.output.files directory t made) (hRemoves : Removes o.stalePaths removed directory made changed)
    {p : Place} {content : Disk.Content} (hContent : ¬ isGeneratedContent content) :
    t.node? p = some (.file content) ↔ changed.node? p = some (.file content) := by
  constructor
  · intro hNode
    have hMade : made.node? p = some (.file content) := by
      rcases hWrites.others p fun f hf hPlace => hContent (hOwn f hf content (hPlace ▸ hNode)) with hSame | ⟨hNone, _⟩
      · rw [hSame, hNode]
      · rw [hNode] at hNone
        cases hNone
    refine hRemoves.keeps_others.file p content (fun hMem => ?_) hMade
    obtain ⟨path, hPath, rfl⟩ := List.mem_map.mp hMem
    obtain ⟨text, hText, hTextGenerated⟩ := hRemoves.generated path hPath
    rw [hText] at hMade
    cases hMade
    exact hContent hTextGenerated
  -- Conversely nothing is written but generated text, so that the file was there before.
  · intro hNode
    have hMade : made.node? p = some (.file content) := hRemoves.keeps.file p content id hNode
    by_cases hTarget : ∃ f ∈ o.output.files, placeBelow t.home directory f = p
    · obtain ⟨f, hf, rfl⟩ := hTarget
      obtain ⟨g, hg, _, hText⟩ := hWrites.written f hf
      rw [hText] at hMade
      cases hMade
      exact absurd (hGenerated g hg) hContent
    · rcases hWrites.others p fun f hf hPlace => hTarget ⟨f, hf, hPlace⟩ with hSame | ⟨_, hDirectory⟩
      · rw [← hSame, hMade]
      · rw [hDirectory] at hMade
        cases hMade

end Effects

section Runs

variable {catalog : Schema.Catalog} {options : Options} {sources directory : String} {o : Outcome}
  {summary : WriteSummary} {removed : List String} {index : Index} {t changed : Tree}

theorem generate_cases (hSound : t.Sound)
    (h : (generate catalog options sources directory).run t = (.ok (o, summary, removed), changed)) :
    ∃ index made, (Index.ofDirectory (m := StateM Tree) sources).run t = (.ok index, t) ∧
      o = process catalog options index ∧
      (o.output.write (m := StateM Tree) directory).run t = (.ok summary, made) ∧
      (o.removeStale (m := StateM Tree) directory).run made = (.ok removed, changed) := by
  obtain ⟨_, _, hProcess, h⟩ := run_bind_eq_ok h
  obtain ⟨index, scanned, hScan, hOutcome⟩ := run_bind_eq_ok hProcess
  obtain ⟨rfl, rfl⟩ : process catalog options index = _ ∧ scanned = _ := by
    obtain ⟨hResult, hTree⟩ := Prod.mk.inj hOutcome
    exact ⟨Except.ok.inj hResult, hTree⟩
  obtain ⟨_, made, hWrite, h⟩ := run_bind_eq_ok h
  obtain ⟨_, _, hRemove, h⟩ := run_bind_eq_ok h
  obtain ⟨hResult, rfl⟩ := Prod.mk.inj h
  obtain ⟨rfl, hRest⟩ := Prod.mk.inj (Except.ok.inj hResult)
  obtain ⟨rfl, rfl⟩ := Prod.mk.inj hRest
  obtain ⟨hDirectory, place, hLocate, hPlace⟩ := Source.isDirectory_of_run hScan
  obtain rfl : t = scanned := by
    rw [Source.run_ofDirectory hSound hLocate hPlace hDirectory] at hScan
    exact (Prod.mk.inj hScan).2
  exact ⟨index, made, hScan, rfl, hWrite, hRemove⟩

def allUnchanged (o : Outcome) (directory : String) : WriteSummary :=
  { unchanged := o.output.files.map fun f => join directory f.path }

/-- A run changes nothing just if everything is up to date. -/
theorem generate_unchanged_iff (hSound : t.Sound)
    (hScan : (Index.ofDirectory (m := StateM Tree) sources).run t = (.ok index, t))
    (hOutcome : o = process catalog options index) :
    (generate catalog options sources directory).run t = (.ok (o, allUnchanged o directory, []), t) ↔
      UpToDate o directory t := by
  constructor
  · intro h
    obtain ⟨_, made, _, _, hWrite, hRemove⟩ := generate_cases hSound h
    obtain ⟨more, hMore, hAll⟩ := writeFiles_cases hWrite
    obtain ⟨rfl, hRead⟩ := hAll hMore.symm
    exact ⟨hRead, (removes_removeStale hSound hRemove).complete⟩
  · intro h
    have hProcess : (processDirectory (m := StateM Tree) catalog options sources).run t = (.ok o, t) := by
      rw [hOutcome]
      exact run_bind_of_ok hScan
    have hWrite : (o.output.write (m := StateM Tree) directory).run t = (.ok (allUnchanged o directory), t) :=
      run_writeFiles_of_read h.read {}
    have hRemove : (o.removeStale (m := StateM Tree) directory).run t = (.ok [], t) :=
      run_removeStale_of_clean h.clean []
    rw [generate, run_bind_of_ok hProcess, run_bind_of_ok hWrite, run_bind_of_ok hRemove]
    rfl

theorem placeOf_stale_ne (hOutcome : o = process catalog options index)
    (hModules : ∀ d ∈ index.declarations, IsModulePath d.moduleName) {stale : String} (hStale : stale ∈ o.stalePaths)
    {f : GeneratedFile} (hf : f ∈ o.output.files) (home : Place) (directory : String) :
    placeOf home (join directory stale) ≠ placeBelow home directory f := by
  intro hPlace
  have hNames : NamesOnly f.path := namesOnly_of_mem_files hModules (hOutcome ▸ hf)
  have hStaleNames : NamesOnly stale := namesOnly_of_mem_stalePaths hModules (hOutcome ▸ hStale)
  -- Paths of names alone have the same place only if they are the same, and a stale path is that of no file.
  rw [placeBelow, Disk.Tree.placeOf_join_names hStaleNames, Disk.Tree.placeOf_join_names hNames,
    List.append_right_inj, hStaleNames.names_inj hNames, Disk.Path.same_iff] at hPlace
  have hFile := List.find?_eq_none.mp (mem_stalePaths hStale).2 f hf
  exact hFile (Disk.Path.same_iff.mpr hPlace.symm)

theorem lossless_of_distinct {made : Tree} {home : Place} (hOutcome : o = process catalog options index)
    (hDistinct : o.output.Distinct) (hModules : ∀ d ∈ index.declarations, IsModulePath d.moduleName)
    (hRemoves : Removes o.stalePaths removed directory made changed) : Lossless o home directory removed := by
  have hNames : ∀ f ∈ o.output.files, NamesOnly f.path := fun f hf =>
    namesOnly_of_mem_files hModules (hOutcome ▸ hf)
  refine ⟨fun f hf g hg => hDistinct.content_eq hNames hf hg, fun path hPath f hf => ?_⟩
  obtain ⟨stale, hStale, rfl⟩ := hRemoves.listed path hPath
  exact placeOf_stale_ne hOutcome hModules hStale hf home directory

/-- After a run that put no file in the place of one that was not generated, a second run scans the same index. It has
the same outcome and changes nothing, just if the first one lost no file; and it has lost none if all paths differ
and all modules are written with identifiers. -/
theorem generate_again (hSound : t.Sound)
    (hRun : (generate catalog options sources directory).run t = (.ok (o, summary, removed), changed))
    (hOwn : ∀ f ∈ o.output.files, ∀ content, t.node? (placeBelow t.home directory f) = some (.file content) →
      isGeneratedContent content) :
    ∃ index, (Index.ofDirectory (m := StateM Tree) sources).run t = (.ok index, t) ∧
      (Index.ofDirectory (m := StateM Tree) sources).run changed = (.ok index, changed) ∧
      o = process catalog options index ∧
      ((generate catalog options sources directory).run changed = (.ok (o, allUnchanged o directory, []), changed) ↔
        Lossless o t.home directory removed) ∧
      (o.output.Distinct → (∀ d ∈ index.declarations, IsModulePath d.moduleName) →
        (generate catalog options sources directory).run changed =
          (.ok (o, allUnchanged o directory, []), changed)) := by
  obtain ⟨index, made, hScan, hOutcome, hWrite, hRemove⟩ := generate_cases hSound hRun
  have hWrites := writes_writeFiles hSound hWrite
  have hRemoves := removes_removeStale hWrites.sound hRemove
  have hGenerated : ∀ f ∈ o.output.files, Source.isGenerated f.content := fun f hf =>
    isGenerated_content (hOutcome ▸ hf)
  have hKeeps : Keeps (fun _ => True) t changed :=
    ((keeps_writeFiles hWrite).mono fun _ _ => trivial).trans (hRemoves.keeps_others.mono fun _ _ => trivial)
  have hScanAgain := Source.run_ofDirectory_of_same hSound hRemoves.sound hKeeps
    (fun _ _ hContent => same_files hGenerated hOwn hWrites hRemoves hContent) hScan
  have hIff : (generate catalog options sources directory).run changed =
      (.ok (o, allUnchanged o directory, []), changed) ↔ Lossless o t.home directory removed := by
    rw [generate_unchanged_iff hRemoves.sound hScanAgain hOutcome, upToDate_iff_lossless hWrite hRemoves]
  refine ⟨index, hScan, hScanAgain, hOutcome, hIff, fun hDistinct hModules => ?_⟩
  exact hIff.mpr (lossless_of_distinct hOutcome hDistinct hModules hRemoves)

end Runs

/-- The second source file declares the same table, and its module goes to the current directory. -/
def doubled : Tree where
  nodes :=
    [(["src"], .directory),
      (["src", "lib.rs"], .file (.text
        "pub struct CategoriesRecord; #[factory(table = \"categories\")] struct CategoryFactory;")),
      (["src", "r#..rs"], .file (.text "#[factory(table = \"categories\")] struct Again;"))]

theorem sound_doubled : doubled.Sound := by decide +kernel

def doubledIndex : Index where
  declarations :=
    [⟨"categories", "CategoryFactory", "crate", "src/lib.rs"⟩,
      ⟨"categories", "Again", "crate::r#.", "src/r#..rs"⟩]
  structs := [("Again", ["crate::r#."]), ("CategoriesRecord", ["crate"]), ("CategoryFactory", ["crate"])]

def doubledOutcome : Outcome := unsorted Fixtures.catalog sparseOptions doubledIndex

theorem paths_doubled : doubledOutcome.output.files.map (·.path) = [categoriesUnit ++ ".rs", indexName] ∧
    doubledOutcome.stalePaths = ["./categories_factory_builder.rs"] := by
  decide +kernel

theorem process_doubled : process Fixtures.catalog sparseOptions doubledIndex = doubledOutcome := by
  refine process_eq_unsorted (List.pairwise_map.mp (?_ : List.Pairwise (Disk.Path.le · ·) _))
  rw [show (unsorted Fixtures.catalog sparseOptions doubledIndex).output.files.map (·.path) = _ from paths_doubled.1]
  decide

theorem run_processDirectory_doubled :
    (processDirectory (m := StateM Tree) Fixtures.catalog sparseOptions "src").run doubled =
      (.ok doubledOutcome, doubled) := by
  have hLocate : doubled.locate "src" = some ["src"] := by decide
  have hIndex : (indexBelow doubled "src" ["src"]).toOption = some doubledIndex := by decide +kernel
  have hScan : (Index.ofDirectory (m := StateM Tree) "src").run doubled = (.ok doubledIndex, doubled) := by
    rw [Source.run_ofDirectory sound_doubled hLocate (by decide) (by decide)]
    cases hResult : indexBelow doubled "src" ["src"] with
    | error e =>
      rw [hResult] at hIndex
      cases hIndex
    | ok index =>
      rw [hResult] at hIndex
      cases hIndex
      rfl
  rw [← process_doubled]
  exact run_bind_of_ok hScan

theorem exists_files_doubled : ∃ f g, doubledOutcome.output.files = [f, g] ∧ f.path = categoriesUnit ++ ".rs" ∧
    g.path = indexName := by
  obtain ⟨f, rest, hFiles, hf, hRest⟩ := List.map_eq_cons_iff.mp paths_doubled.1
  obtain ⟨g, others, rfl, hg, hOthers⟩ := List.map_eq_cons_iff.mp hRest
  obtain rfl := List.map_eq_nil_iff.mp hOthers
  exact ⟨f, g, hFiles, hf, hg⟩

theorem exists_run_doubled : ∃ summary changed,
    (generate Fixtures.catalog sparseOptions "src" "out").run doubled =
      (.ok (doubledOutcome, summary, ["out/./categories_factory_builder.rs"]), changed) := by
  obtain ⟨f, g, hFiles, hf, hg⟩ := exists_files_doubled
  obtain ⟨summary, hSummary⟩ : ∃ summary,
      ((doubledOutcome.output.write (m := StateM Tree) "out").run doubled).1 = .ok summary :=
    Results.exists_eq_ok (by decide +kernel)
  have hWrite : (doubledOutcome.output.write (m := StateM Tree) "out").run doubled =
      (.ok summary, ((doubledOutcome.output.write (m := StateM Tree) "out").run doubled).2) :=
    Prod.ext hSummary rfl
  generalize ((doubledOutcome.output.write (m := StateM Tree) "out").run doubled).2 = made at hWrite
  have hRead : made.readText (join "out" f.path) = .ok f.content := by
    refine readText_of_writeFiles (fun a ha b hb hSame => ?_) hWrite f (hFiles ▸ List.mem_cons_self)
    exact congrArg (·.content) (placeBelow_pair_inj hf hg (hFiles ▸ ha) (hFiles ▸ hb) hSame)
  have hGenerated : Source.isGenerated f.content :=
    isGenerated_content (process_doubled ▸ hFiles ▸ List.mem_cons_self)
  have hHolds : HoldsGenerated made (join "out" "./categories_factory_builder.rs") := by
    obtain ⟨place, hLocate, hNode, _⟩ := Disk.Tree.readText_eq_ok.mp hRead
    refine ⟨f.content, Disk.Tree.readText_eq_ok.mpr ⟨place, ?_, hNode, by decide⟩, hGenerated⟩
    have hComponents : Disk.Path.components (join "out" "./categories_factory_builder.rs") =
        Disk.Path.components (join "out" f.path) := by
      rw [hf]
      decide
    rw [Disk.Tree.locate_eq_some_iff, hComponents]
    exact ⟨by decide, (Disk.Tree.locate_eq_some_iff.mp hLocate).2⟩
  have hRemove : (doubledOutcome.removeStale (m := StateM Tree) "out").run made =
      (.ok ["out/./categories_factory_builder.rs"],
        made.remove (placeOf made.home (join "out" "./categories_factory_builder.rs"))) := by
    rw [Outcome.removeStale, paths_doubled.2, List.foldlM_cons, run_bind_of_ok (run_removeGenerated hHolds [])]
    rfl
  refine ⟨summary, made.remove (placeOf made.home (join "out" "./categories_factory_builder.rs")), ?_⟩
  rw [generate, run_bind_of_ok run_processDirectory_doubled, run_bind_of_ok hWrite, run_bind_of_ok hRemove]
  rfl

/-- All paths differ, but a second run of this kind writes the file again. -/
theorem exists_generate_again_differs : ∃ summary removed changed,
    (generate Fixtures.catalog sparseOptions "src" "out").run doubled =
      (.ok (doubledOutcome, summary, removed), changed) ∧
    doubledOutcome.output.Distinct ∧
    (generate Fixtures.catalog sparseOptions "src" "out").run changed ≠
      (.ok (doubledOutcome, allUnchanged doubledOutcome "out", []), changed) := by
  obtain ⟨f, g, hFiles, hf, hg⟩ := exists_files_doubled
  obtain ⟨summary, changed, hRun⟩ := exists_run_doubled
  have hOwn : ∀ f ∈ doubledOutcome.output.files, ∀ content,
      doubled.node? (placeBelow doubled.home "out" f) = some (.file content) → isGeneratedContent content := by
    have hNone : ∀ h ∈ doubledOutcome.output.files, doubled.node? (placeBelow doubled.home "out" h) = none := by
      rw [hFiles]
      refine List.forall_mem_cons.mpr ⟨?_, List.forall_mem_cons.mpr ⟨?_, nofun⟩⟩
      · rw [show doubled.home = [] from rfl, placeBelow_unit hf]
        decide
      · rw [show doubled.home = [] from rfl, placeBelow_index hg]
        decide
    intro f hf content hNode
    rw [hNone f hf] at hNode
    cases hNode
  obtain ⟨_, _, _, _, hIff, _⟩ := generate_again sound_doubled hRun hOwn
  have hDistinct : doubledOutcome.output.Distinct := by
    rw [Output.Distinct, hFiles, List.pairwise_pair, hf, hg]
    decide
  refine ⟨summary, _, changed, hRun, hDistinct, fun hAgain => ?_⟩
  have hLossless := hIff.mp hAgain
  refine hLossless.kept _ List.mem_cons_self f (hFiles ▸ List.mem_cons_self) ?_
  rw [show doubled.home = [] from rfl, placeBelow_unit hf]
  decide

end RowFactory.Generation
