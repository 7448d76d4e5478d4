import Mathlib.Data.List.Pairwise
import RowFactory.Proofs.Generation.Accounting
import RowFactory.Proofs.Generation.Writing

/-! # Files that overwrite one another

Only the names of tables are kept apart, but a path has the stem of a table in it. So there is a condition on
the declarations that succeed for all paths to differ, and it is the exact one.
-/

namespace RowFactory.Generation

open Disk (Tree)
open Disk.Path (same not_same_symm join NamesOnly)
open Source (Declaration Index)

def Output.Distinct (o : Output) : Prop := o.files.Pairwise fun f g => ¬ same f.path g.path

theorem Output.Distinct.file?_eq {o : Output} (h : o.Distinct) {f : GeneratedFile} (hf : f ∈ o.files) :
    o.file? f.path = some f := by
  rw [Output.file?]
  rw [Output.Distinct] at h
  generalize o.files = files at h hf
  induction files with
  | nil => cases hf
  | cons first rest ih =>
    obtain ⟨hFirst, hRest⟩ := List.pairwise_cons.mp h
    rcases List.mem_cons.mp hf with rfl | hf
    · have hSelf : same f.path f.path = true := Disk.Path.same_iff.mpr rfl
      rw [List.find?_cons, hSelf]
    · have hOther : same first.path f.path = false := by simpa using hFirst f hf
      rw [List.find?_cons, hOther]
      exact ih hRest hf

variable {catalog : Schema.Catalog} {options : Options} {index : Index}

def Succeeds (catalog : Schema.Catalog) (options : Options) (index : Index) (d : Declaration) : Prop :=
  ∃ output, (d, .ok output) ∈ attempts catalog options index [] index.declarations

/-- Two declarations have their files in one directory, under one stem. -/
def Meet (d e : Declaration) : Prop :=
  same (directoryOf d.moduleName) (directoryOf e.moduleName) ∧ stemOf d.table = stemOf e.table

theorem Generated.pairwise_files {d : Declaration} {output : TableOutput}
    (h : Generated catalog options index d output) : output.files.Pairwise fun f g => ¬ same f.path g.path := by
  have hKinds : (output.files.map (·.kind)).Nodup := by
    have hMap := congrArg (List.map Prod.snd) h.map_files
    rw [List.map_map, List.map_map] at hMap
    have hKind : output.files.map (·.kind) = options.unitKinds := hMap.trans (List.map_id _)
    exact hKind ▸ nodup_unitKinds options
  refine (List.pairwise_map.mp hKinds).imp_of_mem fun {f g} hf hg hKind hSame => hKind ?_
  obtain ⟨kind, _, hPath, rfl⟩ := h.mem_files hf
  obtain ⟨other, _, hOther, rfl⟩ := h.mem_files hg
  rw [hPath, hOther, same_unitPath_iff] at hSame
  exact hSame.2.2

theorem Generated.not_same {d e : Declaration} {output other : TableOutput}
    (h : Generated catalog options index d output) (hOther : Generated catalog options index e other)
    (hMeet : ¬ Meet d e) {f g : GeneratedFile} (hf : f ∈ output.files) (hg : g ∈ other.files) :
    ¬ same f.path g.path := by
  obtain ⟨_, _, hPath, _⟩ := h.mem_files hf
  obtain ⟨_, _, hOtherPath, _⟩ := hOther.mem_files hg
  rw [hPath, hOtherPath, same_unitPath_iff]
  exact fun hSame => hMeet ⟨hSame.1, hSame.2.1⟩

theorem Generated.not_same_index {d : Declaration} {output : TableOutput}
    (h : Generated catalog options index d output) {f : GeneratedFile} (hf : f ∈ output.files)
    (directory : String) : ¬ same f.path (join directory indexName) := by
  obtain ⟨kind, hKind, hPath, _⟩ := h.mem_files hf
  rw [hPath, unitPath_eq, Disk.Path.same_join_iff (isName_unit d.table kind) isName_indexName,
    indexName_eq, fileName_inj]
  exact fun hSame => kind_of_mem_unitKinds hKind hSame.2.2

theorem pairwise_indexesOf (options : Options) (files : List GeneratedFile) :
    (indexesOf options files).Pairwise fun f g => ¬ same f.path g.path := by
  rw [indexesOf]
  split
  · cases hFiles : indexFiles files with
    | error error => exact List.Pairwise.nil
    | ok indexes => exact pairwise_indexFiles hFiles
  · exact List.Pairwise.nil

theorem distinct_iff_pairwise_units (catalog : Schema.Catalog) (options : Options) (index : Index) :
    (process catalog options index).output.Distinct ↔
      ((attempts catalog options index [] index.declarations).flatMap Verdict.files).Pairwise
        fun f g => ¬ same f.path g.path := by
  rw [Output.Distinct, process_output]
  simp only
  rw [sortFiles, (List.mergeSort_perm _ _).pairwise_iff not_same_symm, List.pairwise_append]
  refine ⟨fun h => h.1, fun h => ⟨h, pairwise_indexesOf _ _, fun f hf g hg => ?_⟩⟩
  obtain ⟨⟨d, error | output⟩, hMem, hf⟩ := List.mem_flatMap.mp hf
  · cases hf
  · obtain ⟨directory, hPath, _⟩ := mem_indexesOf hg
    rw [hPath]
    exact (generated_of_mem hMem).not_same_index hf directory

theorem pairwise_tables (catalog : Schema.Catalog) (options : Options) (index : Index) :
    (attempts catalog options index [] index.declarations).Pairwise fun v w =>
      ∀ output other, v.2 = .ok output → w.2 = .ok other → v.1.table ≠ w.1.table := by
  have hNodup : (succeeded (attempts catalog options index [] index.declarations)).Nodup :=
    (nodup_succeeded [] index.declarations).1
  rw [succeeded, List.Nodup, List.pairwise_map, List.pairwise_filterMap] at hNodup
  refine hNodup.imp fun {v w} hTables output other hOk hOther => ?_
  obtain ⟨d, _⟩ := v
  obtain ⟨e, _⟩ := w
  cases hOk
  cases hOther
  exact hTables _ rfl _ rfl

theorem pairwise_units_iff (catalog : Schema.Catalog) (options : Options) (index : Index) :
    ((attempts catalog options index [] index.declarations).flatMap Verdict.files).Pairwise
        (fun f g => ¬ same f.path g.path) ↔
      options.unitKinds = [] ∨
        ∀ d e, Succeeds catalog options index d → Succeeds catalog options index e → d.table ≠ e.table →
          ¬ Meet d e := by
  rw [List.pairwise_flatMap]
  constructor
  · rintro ⟨_, hAcross⟩
    rw [or_iff_not_imp_left]
    rintro hKinds d e ⟨output, hd⟩ ⟨other, he⟩ hTable hMeet
    have hSymm : Std.Symm fun v w : Verdict => ∀ f ∈ v.files, ∀ g ∈ w.files, ¬ same f.path g.path :=
      ⟨fun v w h f hf g hg => not_same_symm (h g hg f hf)⟩
    obtain ⟨kind, hKind⟩ := List.exists_mem_of_ne_nil _ hKinds
    obtain ⟨f, hf, hPath⟩ := (generated_of_mem hd).exists_file hKind
    obtain ⟨g, hg, hOther⟩ := (generated_of_mem he).exists_file hKind
    have hDiffer := hAcross.forall hd he (fun h => hTable (congrArg (·.1.table) h)) f hf g hg
    rw [hPath, hOther, same_unitPath_iff] at hDiffer
    exact hDiffer ⟨hMeet.1, hMeet.2, rfl⟩
  · intro hCondition
    constructor
    · rintro ⟨d, error | output⟩ hMem
      · exact List.Pairwise.nil
      · exact (generated_of_mem hMem).pairwise_files
    · refine (pairwise_tables catalog options index).imp_of_mem fun {v w} hv hw hTables f hf g hg => ?_
      obtain ⟨d, error | output⟩ := v
      · cases hf
      · obtain ⟨e, error | other⟩ := w
        · cases hg
        · rcases hCondition with hNone | hApart
          · obtain ⟨kind, hKind, _⟩ := (generated_of_mem hv).mem_files hf
            rw [hNone] at hKind
            cases hKind
          · exact (generated_of_mem hv).not_same (generated_of_mem hw)
              (hApart d e ⟨output, hv⟩ ⟨other, hw⟩ (hTables output other rfl rfl)) hf hg

theorem Output.Distinct.content_eq {o : Output} (h : o.Distinct) (hNames : ∀ f ∈ o.files, NamesOnly f.path)
    {home : Disk.Place} {directory : String} {f g : GeneratedFile} (hf : f ∈ o.files) (hg : g ∈ o.files)
    (hPlace : placeBelow home directory f = placeBelow home directory g) : f.content = g.content := by
  have hSymm : Std.Symm fun f g : GeneratedFile => ¬ same f.path g.path := ⟨fun _ _ => not_same_symm⟩
  rw [placeBelow_inj (hNames f hf) (hNames g hg)] at hPlace
  by_contra hContent
  exact h.forall hf hg (fun hEq => hContent (congrArg (·.content) hEq)) hPlace

/-- Paths differ just if no two declarations that succeed have one directory and one stem. Then every file can
be found by its path, and is on disk after the output has been written, if paths only go down. Without a look
at paths, files are on disk just if no two with different contents lead to one place. -/
theorem paths_differ_iff (catalog : Schema.Catalog) (options : Options) (index : Index) :
    let output := (process catalog options index).output
    (output.Distinct ↔ options.unitKinds = [] ∨
      ∀ d e, Succeeds catalog options index d → Succeeds catalog options index e → d.table ≠ e.table →
        ¬ Meet d e) ∧
    (output.Distinct → ∀ f ∈ output.files, output.file? f.path = some f) ∧
    ∀ directory summary t changed, (output.write (m := StateM Tree) directory).run t = (.ok summary, changed) →
      (output.Distinct → (∀ f ∈ output.files, NamesOnly f.path) →
        ∀ f ∈ output.files, changed.readText (join directory f.path) = .ok f.content) ∧
      ((∀ f ∈ output.files, changed.readText (join directory f.path) = .ok f.content) ↔
        ∀ f ∈ output.files, ∀ g ∈ output.files,
          placeBelow t.home directory f = placeBelow t.home directory g → f.content = g.content) := by
  intro output
  refine ⟨?_, fun h f hf => h.file?_eq hf, fun directory summary t changed hWrite => ⟨?_, ?_⟩⟩
  · rw [distinct_iff_pairwise_units, pairwise_units_iff]
  · intro h hNames
    exact (Output.readText_of_write_iff hWrite).mpr fun f hf g hg => h.content_eq hNames hf hg
  · exact Output.readText_of_write_iff hWrite

def twins : Schema.Catalog :=
  ⟨[{ name := "user_posts", columns := [.key, { name := "title" }] },
    { name := "UserPosts", columns := [.key, { name := "body" }] }]⟩

def twinOptions : Options := { docs := false, blockBuilders := false, moduleIndex := false }

def snakeTwin : Declaration := ⟨"user_posts", "SnakeFactory", "crate", "lib.rs"⟩

def pascalTwin : Declaration := ⟨"UserPosts", "PascalFactory", "crate", "lib.rs"⟩

def twinIndex : Index := ⟨[snakeTwin, pascalTwin], [("UserPostsRecord", ["crate"])]⟩

/-- Both tables succeed, and their files have one path. -/
theorem not_distinct_twins : ¬ (process twins twinOptions twinIndex).output.Distinct := by
  obtain ⟨output, hSnake⟩ : ∃ output, attempt twins twinOptions twinIndex [] snakeTwin = .ok output :=
    Results.exists_eq_ok (by decide +kernel)
  obtain ⟨other, hPascal⟩ : ∃ other, attempt twins twinOptions twinIndex [snakeTwin] pascalTwin = .ok other :=
    Results.exists_eq_ok (by decide +kernel)
  have hVerdicts : attempts twins twinOptions twinIndex [] [snakeTwin, pascalTwin] =
      [(snakeTwin, .ok output), (pascalTwin, .ok other)] := by
    rw [attempts, hSnake, attempts, List.nil_append, hPascal, attempts]
  have hMeet : Meet snakeTwin pascalTwin := ⟨by decide +kernel, by decide +kernel⟩
  intro hDistinct
  rcases (paths_differ_iff twins twinOptions twinIndex).1.mp hDistinct with hNone | hApart
  · revert hNone
    decide
  · refine hApart snakeTwin pascalTwin ⟨output, ?_⟩ ⟨other, ?_⟩ (by decide) hMeet
    · exact hVerdicts ▸ List.mem_cons_self
    · exact hVerdicts ▸ List.mem_cons_of_mem _ List.mem_cons_self

end RowFactory.Generation
